import Telemetry.Library.Packaged
import Telemetry.Proofs.Files.Names
import Telemetry.Proofs.Keyed
import Telemetry.Proofs.Library.Loading
import Telemetry.Service

namespace Telemetry.Library

/-- Are these the paths, in order, of those names in a folder that are accepted? -/
def ListsByName (folder : String) (accepted : String → Prop) (paths : List String) : Prop :=
  ∃ names : List String, names.Pairwise (· < ·) ∧ (∀ name, name ∈ names ↔ accepted name) ∧
    paths = names.map (Path.below folder)

/-- Are these the paths of the profile files in a folder of the user? -/
def ListsProfiles (files : Files) (folder : String) (paths : List String) : Prop :=
  ListsByName folder (fun name => files.at? folder = some .folder ∧
    files.Holds (Path.target folder) name ∧
      ∃ stem, stem ≠ "" ∧ (name = stem ++ ".yml" ∨ name = stem ++ ".yaml")) paths

/-- The profiles that files declare, in the order of the files; a file that is none declares nothing. -/
def declaredIn (files : Files) (paths : List String) : List Profile :=
  paths.filterMap fun path => (Profile.ofFile files path).toOption

/-- What is reported of a file, when there are profiles of some names already. -/
def notice? (files : Files) (taken : List String) (path : String) : Option String :=
  match Profile.ofFile files path with
  | .ok profile =>
    if profile.name ∈ taken then
      some ("User profile '" ++ profile.name ++ "' overrides packaged profile")
    else none
  | .error fault => some ("Skipping user profile " ++ path ++ ": " ++ fault.message path)

/-- What is reported of files one after another: for each of them, the names are taken that were there
before all of them, and those that the files before it declare. -/
def notices (files : Files) (taken : List String) (paths : List String) : List String :=
  paths.zipIdx.filterMap fun (path, place) =>
    notice? files (taken ++ (declaredIn files (paths.take place)).map (·.name)) path

/-- Is the profile the last one of a name among those that are declared? -/
def IsLastOfName (declared : List Profile) (name : String) (profile : Profile) : Prop :=
  profile.name = name ∧ ∃ earlier later, declared = earlier ++ profile :: later ∧
    ∀ other ∈ later, other.name ≠ name

/-- What a library is that files in a row make: those that come with the program, then those of the
user. -/
structure IsOfRow (library : Library) (package : Files) (shipped : List String) (files : Files)
    (paths : List String) : Prop where
  lookup_iff : ∀ name profile, library.profiles.lookup name = some profile ↔
    IsLastOfName (declaredIn package shipped ++ declaredIn files paths) name profile
  mem_keys_iff : ∀ name, name ∈ library.profiles.keys ↔
    ∃ profile ∈ declaredIn package shipped ++ declaredIn files paths, profile.name = name
  warnings_eq : library.warnings =
    notices files ((declaredIn package shipped).map (·.name)) paths
  ordered_ascends : (library.ordered.map (·.name)).Pairwise (· < ·)
  mem_ordered_iff : ∀ profile, profile ∈ library.ordered ↔
    library.profiles.lookup profile.name = some profile

variable {files : Files} {folders : Folders} {packaged : List Profile} {library : Library}

section Folders

theorem isProfileName_iff {name : String} :
    isProfileName name = true ↔
      ∃ stem, stem ≠ "" ∧ (name = stem ++ ".yml" ∨ name = stem ++ ".yaml") := by
  have hyml := @Path.suffix_eq_iff name "yml".toList (by decide) (by decide)
  have hyaml := @Path.suffix_eq_iff name "yaml".toList (by decide) (by decide)
  simp only [isProfileName, Bool.or_eq_true, decide_eq_true_eq]
  constructor
  · rintro (hsuffix | hsuffix)
    · obtain ⟨stem, hstem, hname⟩ := hyml.mp hsuffix
      exact ⟨stem, hstem, .inl hname⟩
    · obtain ⟨stem, hstem, hname⟩ := hyaml.mp hsuffix
      exact ⟨stem, hstem, .inr hname⟩
  · rintro ⟨stem, hstem, hname | hname⟩
    · exact .inl (hyml.mpr ⟨stem, hstem, hname⟩)
    · exact .inr (hyaml.mpr ⟨stem, hstem, hname⟩)

theorem isPackagedName_iff {name : String} :
    isPackagedName name = true ↔ ∃ stem, name = stem ++ ".yml" ∨ name = stem ++ ".yaml" := by
  have hending : ∀ ending : String, ending.toList.isSuffixOf name.toList = true ↔
      ∃ stem, name = stem ++ ending := by
    intro ending
    rw [List.isSuffixOf_iff_suffix]
    constructor
    · rintro ⟨stem, hstem⟩
      refine ⟨String.ofList stem, ?_⟩
      rw [← String.toList_inj, String.toList_append, String.toList_ofList, hstem]
    · rintro ⟨stem, rfl⟩
      exact ⟨stem.toList, String.toList_append.symm⟩
  rw [isPackagedName, Bool.or_eq_true, hending, hending, exists_or]

theorem listsByName_filter (files : Files) (folder : String) (isTaken : String → Bool) :
    ListsByName folder (fun name => files.Holds (Path.target folder) name ∧ isTaken name = true)
      (((files.names folder).filter isTaken).map (Path.below folder)) := by
  refine ⟨_, (files.pairwise_lt_names folder).filter isTaken, fun name => ?_, rfl⟩
  rw [List.mem_filter, Files.mem_names_iff]

theorem ListsByName.congr {folder : String} {accepted accepted' : String → Prop} {paths : List String}
    (hsame : ∀ name, accepted name ↔ accepted' name) (hlists : ListsByName folder accepted paths) :
    ListsByName folder accepted' paths := by
  obtain ⟨names, hnames, haccepted, hpaths⟩ := hlists
  exact ⟨names, hnames, fun name => (haccepted name).trans (hsame name), hpaths⟩

theorem listsProfiles_filesOf (files : Files) (folder : String) :
    ListsProfiles files folder (filesOf files folder) := by
  unfold filesOf
  split
  · rename_i hfolder
    refine (listsByName_filter files folder isProfileName).congr fun name => ?_
    rw [isProfileName_iff]
    exact (and_iff_right hfolder).symm
  · rename_i hfolder
    exact ⟨[], List.Pairwise.nil, fun name => iff_of_false List.not_mem_nil fun h => hfolder h.1, rfl⟩

theorem declaredIn_of_mapM {paths : List String}
    (hread : paths.mapM (Profile.ofFile files) = .ok packaged) :
    (∀ path ∈ paths, ∃ profile, Profile.ofFile files path = .ok profile) ∧
      declaredIn files paths = packaged := by
  induction paths generalizing packaged with
  | nil => exact ⟨nofun, Except.ok.inj hread⟩
  | cons path paths ih =>
      rw [List.mapM_cons] at hread
      cases hfirst : Profile.ofFile files path with
      | error fault =>
          rw [hfirst] at hread
          contradiction
      | ok profile =>
          rw [hfirst] at hread
          cases hrest : paths.mapM (Profile.ofFile files) with
          | error fault =>
              rw [hrest] at hread
              contradiction
          | ok profiles =>
              rw [hrest] at hread
              obtain rfl : profile :: profiles = packaged := Except.ok.inj hread
              obtain ⟨hall, hdeclared⟩ := ih hrest
              refine ⟨List.forall_mem_cons.mpr ⟨⟨profile, hfirst⟩, hall⟩, ?_⟩
              rw [declaredIn, List.filterMap_cons, hfirst]
              exact congrArg _ hdeclared

theorem listsByName_of_ofFolder {folder : String} (hpackaged : ofFolder files folder = .ok packaged) :
    ∃ paths, ListsByName folder (fun name => files.Holds (Path.target folder) name ∧
        ∃ stem, name = stem ++ ".yml" ∨ name = stem ++ ".yaml") paths ∧
      (∀ path ∈ paths, ∃ profile, Profile.ofFile files path = .ok profile) ∧
      declaredIn files paths = packaged := by
  refine ⟨_, (listsByName_filter files folder isPackagedName).congr fun name => ?_,
    declaredIn_of_mapM ?_⟩
  · rw [isPackagedName_iff]
  · rw [List.mapM_map]
    exact hpackaged

end Folders

theorem eq_loaded_of_load {journal : Log.Journal}
    (hload : ((load packaged files folders).run.run journal).1 = .ok library) :
    library = loaded files (ofPackaged packaged) (userFiles files folders) := by
  have hrun : ((load packaged files folders).run.run journal).1 = _ :=
    run_foldlM_addFile (ofPackaged packaged) (userFiles files folders) journal
  rw [hrun] at hload
  cases hescape : (userFiles files folders).findSome? (escape? files) with
  | some fault =>
      rw [hescape] at hload
      contradiction
  | none =>
      rw [hescape] at hload
      exact (Except.ok.inj hload).symm

section Names

theorem profiles_loaded (files : Files) (packaged : List Profile) (paths : List String) :
    (loaded files (ofPackaged packaged) paths).profiles =
      Keyed.ofList ((packaged ++ declaredIn files paths).map fun profile => (profile.name, profile)) := by
  simp only [loaded, profilesWith, ofPackaged, Keyed.ofList, List.foldl_map, List.foldl_append]
  rfl

theorem lookup_profiles_iff {declared : List Profile} {name : String} {profile : Profile} :
    (Keyed.ofList (declared.map fun profile => (profile.name, profile))).lookup name = some profile ↔
      IsLastOfName declared name profile := by
  rw [Keyed.lookup_ofList, ← List.map_reverse, Keyed.lookup_map_key, List.find?_eq_some_iff_append,
    IsLastOfName, beq_iff_eq]
  refine and_congr_right fun _ => ?_
  constructor
  · rintro ⟨later, earlier, hsplit, hlater⟩
    refine ⟨earlier.reverse, later.reverse, ?_, fun other hother => ?_⟩
    · rw [← List.reverse_reverse declared, hsplit]
      simp
    · simpa using hlater other (List.mem_reverse.mp hother)
  · rintro ⟨earlier, later, rfl, hlater⟩
    refine ⟨later.reverse, earlier.reverse, by simp, fun other hother => ?_⟩
    simpa using hlater other (List.mem_reverse.mp hother)

theorem mem_keys_iff_declared {declared : List Profile} {name : String} :
    name ∈ Keyed.keys (Keyed.ofList (declared.map fun profile => (profile.name, profile))) ↔
      ∃ profile ∈ declared, profile.name = name := by
  rw [← Keyed.has_iff_mem_keys, Keyed.has, Keyed.lookup_ofList, ← List.map_reverse,
    Keyed.lookup_map_key, List.find?_isSome]
  simp

end Names

section Order

theorem mem_ordered_iff (hname : ∀ name profile, library.profiles.lookup name = some profile →
      profile.name = name) {profile : Profile} :
    profile ∈ library.ordered ↔ library.profiles.lookup profile.name = some profile := by
  rw [ordered, List.mem_filterMap]
  constructor
  · rintro ⟨name, -, hfound⟩
    rwa [hname name profile hfound]
  · intro hfound
    refine ⟨profile.name, ?_, hfound⟩
    rw [Text.mem_sorted, ← Keyed.has_iff_mem_keys, Keyed.has, hfound]
    rfl

theorem names_ordered (hname : ∀ name profile, library.profiles.lookup name = some profile →
      profile.name = name) :
    library.ordered.map (·.name) = Text.sorted library.profiles.keys := by
  have hkept : ∀ names : List String, (∀ name ∈ names, library.profiles.has name = true) →
      (names.filterMap (library.profiles.lookup ·)).map (·.name) = names := by
    intro names hnames
    induction names with
    | nil => rfl
    | cons name names ih =>
        obtain ⟨hfirst, hrest⟩ := List.forall_mem_cons.mp hnames
        obtain ⟨profile, hfound⟩ := Option.isSome_iff_exists.mp hfirst
        rw [List.filterMap_cons, hfound]
        dsimp only
        rw [List.map_cons, ih hrest, hname name profile hfound]
  refine hkept _ fun name hmem => ?_
  rw [Keyed.has_iff_mem_keys]
  exact Text.mem_sorted.mp hmem

end Order

section Warnings

theorem warningsOf_eq_notice? {profiles : Keyed String Profile} {taken : List String}
    (htaken : ∀ name, profiles.has name = true ↔ name ∈ taken) (path : String) :
    warningsOf files profiles path = (notice? files taken path).toList := by
  rw [warningsOf, notice?]
  cases Profile.ofFile files path with
  | error fault => rfl
  | ok profile =>
      simp only [htaken]
      split <;> rfl

theorem has_profilesWith {profiles : Keyed String Profile} {taken : List String}
    (htaken : ∀ name, profiles.has name = true ↔ name ∈ taken) (path name : String) :
    (profilesWith files profiles [path]).has name = true ↔
      name ∈ taken ++ (declaredIn files [path]).map (·.name) := by
  cases hread : Profile.ofFile files path with
  | error fault =>
      rw [profilesWith_of_error hread, htaken]
      simp [declaredIn, hread, Except.toOption]
  | ok profile =>
      have hput : profilesWith files profiles [path] = profiles.put profile.name profile := by
        simp [profilesWith, hread, Except.toOption]
      have hdeclared : declaredIn files [path] = [profile] := by
        simp [declaredIn, hread, Except.toOption]
      rw [hput, hdeclared, List.map_singleton, List.mem_append, List.mem_singleton, ← htaken,
        Keyed.has_iff_mem_keys, Keyed.has_iff_mem_keys, Keyed.mem_keys_put]

theorem warningsFrom_eq_notices {profiles : Keyed String Profile} {taken : List String}
    (htaken : ∀ name, profiles.has name = true ↔ name ∈ taken) (paths : List String) :
    warningsFrom files profiles paths = notices files taken paths := by
  -- the names that are taken grow by those of each file
  induction paths generalizing profiles taken with
  | nil => rfl
  | cons path paths ih =>
      have hsplit : ∀ place, declaredIn files ((path :: paths).take (place + 1)) =
          declaredIn files [path] ++ declaredIn files (paths.take place) := by
        intro place
        rw [List.take_succ_cons, declaredIn, declaredIn, declaredIn, ← List.filterMap_append]
        rfl
      rw [warningsFrom, warningsOf_eq_notice? htaken, ih (has_profilesWith htaken path), notices,
        notices, List.zipIdx_cons', List.filterMap_cons, List.filterMap_map]
      simp only [Function.comp_def, Prod.map, hsplit, List.map_append, List.append_assoc]
      have hfirst : (declaredIn files ((path :: paths).take 0)).map (·.name) = [] := rfl
      rw [hfirst, List.append_nil]
      cases notice? files taken path <;> rfl

end Warnings

theorem isOfRow_of_eq {package : Files} {shipped paths : List String}
    (hprofiles : library.profiles =
      Keyed.ofList ((declaredIn package shipped ++ declaredIn files paths).map fun profile =>
        (profile.name, profile)))
    (hwarnings : library.warnings = notices files ((declaredIn package shipped).map (·.name)) paths) :
    library.IsOfRow package shipped files paths := by
  have hlast : ∀ name profile, library.profiles.lookup name = some profile ↔
      IsLastOfName (declaredIn package shipped ++ declaredIn files paths) name profile := by
    intro name profile
    rw [hprofiles, lookup_profiles_iff]
  have hname : ∀ name profile, library.profiles.lookup name = some profile → profile.name = name :=
    fun name profile hfound => ((hlast name profile).mp hfound).1
  refine ⟨hlast, fun name => ?_, hwarnings, ?_, fun profile => mem_ordered_iff hname⟩
  · rw [hprofiles, mem_keys_iff_declared]
  · rw [names_ordered hname]
    refine Text.pairwise_lt_sorted ?_
    rw [hprofiles]
    exact Keyed.nodup_keys_ofList _

theorem isOfRow_loaded (package files : Files) (shipped paths : List String) :
    (loaded files (ofPackaged (declaredIn package shipped)) paths).IsOfRow package shipped files
      paths := by
  refine isOfRow_of_eq (profiles_loaded files _ paths) (warningsFrom_eq_notices (fun name => ?_) paths)
  rw [Keyed.has_iff_mem_keys, ofPackaged, mem_keys_iff_declared, List.mem_map]

/-- A library is loaded from the files that come with the program, then those of the configuration
folder, then those of the data folder, each by name. The last profile of a name is the one that
counts, every file that is none and every profile of a name that is there already is reported once, in
the order of the files, and the profiles are tried on hosts in ascending order of their names. -/
theorem load_takes_last_declared {package : Files} {folder : String} {journal : Log.Journal}
    (hpackaged : ofFolder package folder = .ok packaged)
    (hload : ((load packaged files folders).run.run journal).1 = .ok library) :
    ∃ shipped ofConfig ofData : List String,
      ListsByName folder (fun name => package.Holds (Path.target folder) name ∧
        ∃ stem, name = stem ++ ".yml" ∨ name = stem ++ ".yaml") shipped ∧
      (∀ path ∈ shipped, ∃ profile, Profile.ofFile package path = .ok profile) ∧
      ListsProfiles files (Path.below folders.config "webcsv/profiles") ofConfig ∧
      ListsProfiles files (Path.below folders.data "webcsv/profiles") ofData ∧
      library.IsOfRow package shipped files (ofConfig ++ ofData) ∧
      ∀ preferStrong, (Service.ofLibrary library preferStrong).registry.library = library.ordered := by
  obtain ⟨shipped, hlists, hshipped, rfl⟩ := listsByName_of_ofFolder hpackaged
  have husers : userFiles files folders = filesOf files (Path.below folders.config "webcsv/profiles") ++
      filesOf files (Path.below folders.data "webcsv/profiles") := by
    rw [userFiles, Folders.profiles, List.flatMap_cons, List.flatMap_singleton]
  refine ⟨shipped, _, _, hlists, hshipped, listsProfiles_filesOf files _,
    listsProfiles_filesOf files _, ?_, fun _ => rfl⟩
  rw [eq_loaded_of_load hload, ← husers]
  exact isOfRow_loaded package files shipped _

theorem load_goodFiles_takes_last :
    ∃ packaged library shipped paths, ofFolder goodFiles "/c/webcsv/profiles" = .ok packaged ∧
      ((load packaged goodFiles userFolders).run.run []).1 = .ok library ∧
      library.IsOfRow goodFiles shipped goodFiles paths := by
  have hprofile : (Profile.ofFile goodFiles "/c/webcsv/profiles/a.yaml").toOption.isSome := by
    decide +kernel
  obtain ⟨profile, hread⟩ : ∃ profile,
      Profile.ofFile goodFiles "/c/webcsv/profiles/a.yaml" = .ok profile := by
    revert hprofile
    cases Profile.ofFile goodFiles "/c/webcsv/profiles/a.yaml" with
    | ok profile => exact fun _ => ⟨profile, rfl⟩
    | error fault => exact nofun
  have hnames : goodFiles.names "/c/webcsv/profiles" = ["a.yaml"] :=
    names_eq (by decide +kernel) (by decide +kernel)
  have hpath : Path.below "/c/webcsv/profiles" "a.yaml" = "/c/webcsv/profiles/a.yaml" := by
    decide +kernel
  have hpackaged : ofFolder goodFiles "/c/webcsv/profiles" = .ok [profile] := by
    have htaken : ["a.yaml"].filter isPackagedName = ["a.yaml"] := by decide +kernel
    rw [ofFolder, hnames, htaken, List.mapM_cons, hpath, hread]
    rfl
  have hpaths : userFiles goodFiles userFolders = ["/c/webcsv/profiles/a.yaml"] :=
    userFiles_eq (by decide +kernel) (by decide +kernel) ["a.yaml"] (by decide +kernel)
      (by decide +kernel) (by decide +kernel)
  have hload : ((load [profile] goodFiles userFolders).run.run []).1 =
      .ok (loaded goodFiles (ofPackaged [profile]) ["/c/webcsv/profiles/a.yaml"]) := by
    have hjudged : ∀ path ∈ userFiles goodFiles userFolders, Profile.IsJudged goodFiles path := by
      rw [hpaths]
      intro path hmem
      obtain rfl := List.mem_singleton.mp hmem
      rw [← Profile.contained_iff_isJudged, hread]
      exact nofun
    rw [← hpaths]
    exact run_loadAll_of_judged hjudged []
  obtain ⟨shipped, ofConfig, ofData, -, -, -, -, hrow, -⟩ :=
    load_takes_last_declared hpackaged hload
  exact ⟨_, _, shipped, _, hpackaged, hload, hrow⟩

end Telemetry.Library
