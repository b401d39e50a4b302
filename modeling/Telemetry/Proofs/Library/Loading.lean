import Mathlib.Data.List.Basic
import Telemetry.Config.File
import Telemetry.Library
import Telemetry.Proofs.Building
import Telemetry.Proofs.Config.Acceptance

namespace Telemetry

/-- It can be told of the file at a path whether it is a document of some sort: it is text, reading
the text ends with a document or with one of the two faults that are reported, and nothing stands in
the way of judging the document. -/
def Document.IsJudged (files : Files) (path : String) (judges : Document → Prop) : Prop :=
  ∀ octets, files.at? path = some (.file octets) →
    ∃ text, Text.decode? octets = some text ∧
      (∀ fault, read (String.ofList (Files.withLineFeeds text.toList)) = .error fault →
        fault = .malformed ∨ ∃ key, fault = .duplicateKey key) ∧
      ∀ entries, read (String.ofList (Files.withLineFeeds text.toList)) = .ok (.mapping entries) →
        judges (.mapping entries)

/-- It can be told of the file at a path whether it is a profile. What is wrong with it, or else all of
its values, can be written. -/
def Profile.IsJudged (files : Files) (path : String) : Prop :=
  Document.IsJudged files path fun document =>
    match schema document with
    | some violation => violation.isWritable
    | none => document.isWritable

/-- It can be told of the file at a path whether it is a configuration. What is wrong with its form can
be written. -/
def Config.IsJudged (files : Files) (path : String) : Prop :=
  Document.IsJudged files path fun document =>
    ∀ violation, schema document = some violation → violation.isWritable

theorem FileFault.isContained_document_iff {fault : Document.Fault} :
    (document fault).isContained ↔ fault = .malformed ∨ ∃ key, fault = .duplicateKey key := by
  cases fault <;> simp [isContained]

theorem Document.isJudged_iff {files : Files} {path : String} {judges : Document → Prop} :
    IsJudged files path judges ↔
      (∀ fault, ofFile files path = .error fault → fault.isContained) ∧
        ∀ document, ofFile files path = .ok document → judges document := by
  unfold ofFile Files.text IsJudged
  cases files.at? path with
  | none => simp [FileFault.isContained]
  | some entry =>
      cases entry with
      | folder => simp [FileFault.isContained]
      | file octets =>
          simp only [Option.some.injEq, FileEntry.file.injEq, forall_eq']
          cases Text.decode? octets with
          | none => simp [FileFault.isContained]
          | some text =>
              simp only [Option.some.injEq, exists_eq_left']
              unfold readMapping
              rcases read (String.ofList (Files.withLineFeeds text.toList)) with fault | document
              · simp [FileFault.isContained_document_iff]
              · cases document <;> simp [FileFault.isContained]

theorem Profile.contained_iff_isJudged {files : Files} {path : String} :
    (∀ fault, ofFile files path = .error fault → fault.isContained) ↔ IsJudged files path := by
  rw [IsJudged, Document.isJudged_iff]
  cases hdocument : Document.ofFile files path with
  | error fault =>
      have hfile : ofFile files path = .error fault := by
        rw [ofFile, hdocument]
        rfl
      simp [hfile]
  | ok document =>
      have hfile : ofFile files path = (ofDocument document path).mapError .rejected := by
        simp only [ofFile, hdocument, Except.bind, bind]
        cases ofDocument document path <;> rfl
      rw [hfile, ofDocument]
      cases hschema : schema document with
      | some violation =>
          simp [Except.mapError, FileFault.isContained, Rejection.isTold_ofViolation_iff, hschema]
      | none =>
          cases hwritable : document.isWritable <;>
            simp [Except.mapError, FileFault.isContained, Rejection.isTold, hschema, hwritable]

namespace Library

variable (files : Files)

/-- The files in the user's folders that are taken for profiles. -/
def userFiles (folders : Folders) : List String :=
  folders.profiles.flatMap (filesOf files)

def loadAll (packaged : List Profile) (paths : List String) : ExceptT FileFault Log.Noting Library :=
  paths.foldlM (addFile files) (ofPackaged packaged)

/-- The fault of a file that ends the loading. -/
def escape? (path : String) : Option FileFault :=
  match Profile.ofFile files path with
  | .ok _ => none
  | .error fault => if fault.isContained then none else some fault

/-- The profiles with those of files, a later one in place of an earlier one of its name. -/
def profilesWith (profiles : Keyed String Profile) (paths : List String) : Keyed String Profile :=
  (paths.filterMap fun path => (Profile.ofFile files path).toOption).foldl
    (fun all profile => all.put profile.name profile) profiles

/-- What is reported of a file, when there are some profiles already. -/
def warningsOf (profiles : Keyed String Profile) (path : String) : List String :=
  match Profile.ofFile files path with
  | .ok profile =>
    if profiles.has profile.name then
      ["User profile '" ++ profile.name ++ "' overrides packaged profile"]
    else []
  | .error fault => ["Skipping user profile " ++ path ++ ": " ++ fault.message path]

def warningsFrom (profiles : Keyed String Profile) : List String → List String
  | [] => []
  | path :: paths =>
    warningsOf files profiles path ++ warningsFrom (profilesWith files profiles [path]) paths

def loaded (library : Library) (paths : List String) : Library where
  profiles := profilesWith files library.profiles paths
  warnings := library.warnings ++ warningsFrom files library.profiles paths

variable {files}

theorem profilesWith_append (profiles : Keyed String Profile) (before after : List String) :
    profilesWith files profiles (before ++ after) =
      profilesWith files (profilesWith files profiles before) after := by
  rw [profilesWith, List.filterMap_append, List.foldl_append]
  rfl

theorem profilesWith_of_error {path : String} {fault : FileFault}
    (hfault : Profile.ofFile files path = .error fault) (profiles : Keyed String Profile) :
    profilesWith files profiles [path] = profiles := by
  rw [profilesWith, List.filterMap_cons, hfault]
  rfl

theorem warningsFrom_append (profiles : Keyed String Profile) (before after : List String) :
    warningsFrom files profiles (before ++ after) = warningsFrom files profiles before ++
      warningsFrom files (profilesWith files profiles before) after := by
  induction before generalizing profiles with
  | nil => rfl
  | cons path before ih =>
      have hsplit : profilesWith files profiles (path :: before) =
          profilesWith files (profilesWith files profiles [path]) before :=
        profilesWith_append profiles [path] before
      rw [List.cons_append, warningsFrom, warningsFrom, ih, hsplit, List.append_assoc]

theorem escape?_eq_none_iff {path : String} :
    escape? files path = none ↔ Profile.IsJudged files path := by
  rw [← Profile.contained_iff_isJudged, escape?]
  cases Profile.ofFile files path with
  | ok profile => simp
  | error fault => cases hcontained : fault.isContained <;> simp [hcontained]

theorem run_addFile (files : Files) (library : Library) (path : String) (journal : Log.Journal) :
    ((addFile files library path).run.run journal).1 =
      match escape? files path with
      | some fault => .error fault
      | none => .ok (loaded files library [path]) := by
  obtain ⟨profiles, warnings⟩ := library
  simp only [addFile, escape?, loaded, profilesWith, warningsFrom, warningsOf, List.filterMap_cons,
    List.filterMap_nil, List.append_nil]
  cases Profile.ofFile files path with
  | ok profile =>
      simp only [add]
      cases profiles.has profile.name with
      | false =>
          simp only [Bool.false_eq_true, if_false, List.append_nil]
          rfl
      | true =>
          simp only [if_true]
          rfl
  | error fault =>
      cases hcontained : fault.isContained with
      | false =>
          simp only [hcontained, Bool.false_eq_true, if_false]
          rfl
      | true =>
          simp only [hcontained, if_true]
          rfl

theorem loaded_append (library : Library) (before after : List String) :
    loaded files library (before ++ after) = loaded files (loaded files library before) after := by
  simp only [loaded, profilesWith_append, warningsFrom_append, List.append_assoc]

theorem run_foldlM_addFile (library : Library) (paths : List String) (journal : Log.Journal) :
    ((paths.foldlM (addFile files) library).run.run journal).1 =
      match paths.findSome? (escape? files) with
      | some fault => .error fault
      | none => .ok (loaded files library paths) := by
  -- the library is general: whether a profile replaces another depends on the files before it
  induction paths generalizing library journal with
  | nil =>
      have hnone : loaded files library [] = library := by
        simp only [loaded, profilesWith, warningsFrom, List.append_nil]
        rfl
      rw [List.findSome?_nil, hnone]
      rfl
  | cons path paths ih =>
      have hfirst := run_addFile files library path journal
      rw [List.foldlM_cons, Building.run_run_bind, List.findSome?_cons]
      generalize (addFile files library path).run.run journal = reached at *
      obtain ⟨result, journal'⟩ := reached
      cases hescape : escape? files path with
      | some fault =>
          rw [hescape] at hfirst
          obtain rfl : result = .error fault := hfirst
          rfl
      | none =>
          rw [hescape] at hfirst
          obtain rfl : result = .ok (loaded files library [path]) := hfirst
          have hsplit : loaded files library (path :: paths) =
              loaded files (loaded files library [path]) paths :=
            loaded_append library [path] paths
          rw [hsplit]
          exact ih _ journal'

theorem run_loadAll_of_judged {packaged : List Profile} {paths : List String}
    (hjudged : ∀ path ∈ paths, Profile.IsJudged files path) (journal : Log.Journal) :
    ((loadAll files packaged paths).run.run journal).1 =
      .ok (loaded files (ofPackaged packaged) paths) := by
  have hnone : paths.findSome? (escape? files) = none :=
    List.findSome?_eq_none_iff.mpr fun path hmem => escape?_eq_none_iff.mpr (hjudged path hmem)
  rw [loadAll, run_foldlM_addFile, hnone]

section Agreement

variable {files' : Files} {paths : List String}
  (hagree : ∀ path ∈ paths, Profile.ofFile files' path = Profile.ofFile files path)
include hagree

end Agreement

end Library

theorem Config.contained_iff_isJudged {files : Files} {folders : Folders} {path : Option String} :
    (∀ fault, load files folders path = .error fault → fault.fault.isContained) ↔
      IsJudged files ((path.map Path.normal).getD folders.defaultConfig) := by
  have hload : (∀ fault, load files folders path = .error fault → fault.fault.isContained) ↔
      ∀ fault, ofFile files ((path.map Path.normal).getD folders.defaultConfig) = .error fault →
        fault.isContained := by
    rw [load]
    generalize (path.map Path.normal).getD folders.defaultConfig = path
    cases ofFile files path <;> simp
  rw [hload, IsJudged, Document.isJudged_iff, ofFile]
  generalize (path.map Path.normal).getD folders.defaultConfig = path
  split
  · rename_i hmissing
    simp [Document.ofFile, Files.text, Option.isNone_iff_eq_none.mp hmissing, FileFault.isContained,
      Telemetry.FileFault.isContained]
  · cases Document.ofFile files path with
    | error fault => simp [FileFault.isContained]
    | ok document =>
        dsimp only
        cases hresult : ofDocument document with
        | ok config =>
            have hformed := (exists_ofDocument_iff.mp ⟨config, hresult⟩).1
            simp [schema_eq_none_iff.mpr hformed]
        | error fault => simp [FileFault.isContained, isTold_iff hresult]

namespace Library

section Examples

def userFolders : Folders := ⟨"/c", "/d", "/p"⟩

theorem names_eq {files : Files} {folder : String} {names : List String}
    (hbelow : (files.namesBelow (Path.target folder)).eraseDups = names)
    (hsorted : names.Pairwise fun name other => decide (name ≤ other)) :
    files.names folder = names := by
  rw [Files.names, Text.sortedSet, Text.sorted, hbelow, List.mergeSort_of_pairwise hsorted]

theorem userFiles_eq {files : Files} (hfolder : files.at? "/c/webcsv/profiles" = some .folder)
    (hmissing : files.at? "/d/webcsv/profiles" = none) (names : List String) {paths : List String}
    (hbelow : (files.namesBelow (Path.target "/c/webcsv/profiles")).eraseDups = names)
    (hsorted : names.Pairwise fun name other => decide (name ≤ other))
    (hpaths : (names.filter isProfileName).map (Path.below "/c/webcsv/profiles") = paths) :
    userFiles files userFolders = paths := by
  have hfolders : userFolders.profiles = ["/c/webcsv/profiles", "/d/webcsv/profiles"] := by
    decide +kernel
  have hfiles : filesOf files "/c/webcsv/profiles" = paths := by
    rw [filesOf, hfolder]
    dsimp only
    rw [names_eq hbelow hsorted, hpaths]
  have hnone : filesOf files "/d/webcsv/profiles" = [] := by
    rw [filesOf, hmissing]
  rw [userFiles, hfolders, List.flatMap_cons, List.flatMap_singleton, hfiles, hnone, List.append_nil]

/-- A profile, and a file with a list. -/
def mixedFiles : Files := [
  ("/c/webcsv/profiles/a.yaml", .file [110, 97, 109, 101, 58, 32, 97]),
  ("/c/webcsv/profiles/b.yaml", .file [45, 32, 49])]

/-- The same without the list. -/
def goodFiles : Files := mixedFiles.take 1

end Examples

end Library

end Telemetry
