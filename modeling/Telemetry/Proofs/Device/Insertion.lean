import Telemetry.Proofs.Device.Attaching

namespace Telemetry

namespace Device

theorem Unjudged.exists_faultOf_groupEditOf {properties : Properties} {key value : String}
    (hunjudged : Unjudged properties key value) (host : Option String) :
    ∃ fault, Pattern.compile (unquote value) = .error fault ∧ fault ≠ .malformed ∧
      Building.faultOf ((settingOf properties host).groupEditOf (key, value)) =
        some (.pattern fault) := by
  obtain ⟨id, field, hfields, hfield, hgroup, hnot⟩ := hunjudged
  obtain ⟨fault, hcompile, hfault⟩ : ∃ fault, Pattern.compile (unquote value) = .error fault ∧
      fault ≠ .malformed := by
    simpa only [Pattern.IsJudged, Classical.not_forall, exists_prop] using hnot
  have hcompiled : Building.compiled (unquote value) = .error (.pattern fault) := by
    unfold Building.compiled
    rw [hcompile]
    cases fault with
    | malformed => exact absurd rfl hfault
    | _ => rfl
  have hhas : (settingOf properties host).hasGroup id = true := hgroup
  refine ⟨fault, hcompile, hfault, ?_⟩
  unfold Setting.groupEditOf
  rw [PropertyKey.ofText_eq_group_iff.mpr hfields]
  dsimp only
  rw [if_pos hhas, Building.faultOf_map]
  rcases hfield with rfl | rfl
  · rw [Setting.groupEdit?, Building.faultOf_map, hcompiled]
    rfl
  · rw [Setting.groupEdit?, Building.faultOf_map, hcompiled]
    rfl

section Insert

variable {before after : Properties} {key value : String}

section Built

variable {host : Option String} (hrejected : Rejected (before ++ after) key value)
include hrejected

theorem Rejected.exists_adds_declare (defaults : Defaults) (device : Device) :
    ∃ more, Building.Adds more
      (liftM ((before ++ after).foldlM (declare defaults) device))
      (liftM ((before ++ (key, value) :: after).foldlM (declare defaults) device))
      ((before ++ after).foldl (declared defaults) device) := by
  have hgives : ∀ (part : Properties) (device : Device),
      Building.Gives
        (part.foldlM (fun device property => liftM (declare defaults device property)) device)
        (.ok (part.foldl (declared defaults) device)) := by
    intro part device
    rw [← Building.liftM_foldlM]
    exact Building.gives_liftM (gives_foldlM_declare defaults device part)
  have helement := Building.gives_liftM
    (gives_declare defaults (before.foldl (declared defaults) device) (key, value))
  rw [hrejected.idle.declared_eq] at helement
  obtain ⟨added, hadded⟩ :=
    helement.exists_reports (Building.appends_liftM (appends_declare defaults _ _))
  refine ⟨added.length, ?_⟩
  rw [Building.liftM_foldlM, Building.liftM_foldlM, List.foldl_append]
  exact Building.adds_foldlM_insert
    (fun _ _ => Building.appends_liftM (appends_declare defaults _ _)) (hgives before _) hadded
    (hgives after _)

theorem Rejected.exists_adds_attachToTables {device : Device}
    (hdevice : Attaching (before ++ after) host device)
    (hsound : ∀ property ∈ before ++ after,
      Building.faultOf ((settingOf (before ++ after) host).tableEditOf property) = none) :
    ∃ more, Building.Adds more
      ((before ++ after).foldlM (attachToTables (settingOf (before ++ after) host).defaults) device)
      ((before ++ (key, value) :: after).foldlM
        (attachToTables (settingOf (before ++ after) host).defaults) device)
      ((before ++ after).foldl (tablesEdited (settingOf (before ++ after) host)) device) ∧
      (PropertyKey.ofText key = .wrongTable none → 0 < more) := by
  obtain ⟨added, hadded, hmore⟩ := hrejected.idle.exists_reports_attachToTables
    (settingOf (before ++ after) host).defaults
    (before.foldl (tablesEdited (settingOf (before ++ after) host)) device)
  refine ⟨added.length, ?_, fun hkey => List.length_pos_iff.mpr (hmore hkey)⟩
  rw [List.foldl_append]
  refine Building.adds_foldlM_insert (appends_attachToTables _)
    (hdevice.gives_foldlM_attachToTables fun property hproperty => ?_) hadded
    ((hdevice.foldl_tablesEdited before).gives_foldlM_attachToTables fun property hproperty => ?_)
  · have hmem := List.mem_append_left after hproperty
    exact ⟨hmem, hsound property hmem⟩
  · have hmem := List.mem_append_right before hproperty
    exact ⟨hmem, hsound property hmem⟩

theorem Rejected.exists_adds_attachToGroups {device : Device}
    (hnew : key ∉ Keyed.keys (before ++ after)) (hjudged : ¬ Unjudged (before ++ after) key value)
    (hdevice : Attaching (before ++ after) host device)
    (hnone : ∀ id group, device.group? id = some group → group.pattern = none)
    (hsound : ∀ property ∈ before ++ after,
      Building.faultOf ((settingOf (before ++ after) host).groupEditOf property) = none) :
    ∃ more, Building.Adds more
      ((before ++ after).foldlM (attachToGroups (settingOf (before ++ after) host).defaults) device)
      ((before ++ (key, value) :: after).foldlM
        (attachToGroups (settingOf (before ++ after) host).defaults) device)
      ((before ++ after).foldl (groupsEdited (settingOf (before ++ after) host)) device) ∧
      (PropertyKey.ofText key ≠ .wrongTable none → 0 < more) := by
  have hearlier : key ∉ Keyed.keys before := by
    intro hmem
    apply hnew
    rw [Keyed.keys, List.map_append]
    exact List.mem_append_left _ hmem
  obtain ⟨added, hadded, hmore⟩ := hrejected.exists_reports_attachToGroups hnew hjudged
    (hdevice.foldl_groupsEdited before)
    (fun id hkey => pattern_eq_none_of_foldl (PropertyKey.ofText_eq_group_iff.mp hkey) hearlier
      (hnone id))
    (settingOf (before ++ after) host).defaults
  refine ⟨added.length, ?_, fun hkey => List.length_pos_iff.mpr (hmore hkey)⟩
  rw [List.foldl_append]
  refine Building.adds_foldlM_insert (appends_attachToGroups _)
    (hdevice.gives_foldlM_attachToGroups fun property hproperty => ?_) hadded
    ((hdevice.foldl_groupsEdited before).gives_foldlM_attachToGroups fun property hproperty => ?_)
  · exact hsound property (List.mem_append_left after hproperty)
  · exact hsound property (List.mem_append_right before hproperty)

/-- With a rejected property among the others the same device comes out, and there are more records. -/
theorem Rejected.exists_adds_build (timeout : Int) {probe : Probe}
    (hnew : key ∉ Keyed.keys (before ++ after)) (hjudged : ¬ Unjudged (before ++ after) key value)
    (hprobe : Probe.read (before ++ after) = .ok probe)
    (hsound : ∀ property ∈ before ++ after,
      Building.faultOf ((settingOf (before ++ after) host).tableEditOf property) = none ∧
      Building.faultOf ((settingOf (before ++ after) host).groupEditOf property) = none) :
    ∃ more, Building.Adds more (build (before ++ after) host timeout)
      (build (before ++ (key, value) :: after) host timeout)
      (assembled (before ++ after) host timeout probe) ∧ 0 < more := by
  have hdeclared := attaching_declaredWith (before ++ after) host timeout probe
  have hnone : ∀ id group, ((before ++ after).foldl (tablesEdited (settingOf (before ++ after) host))
      (declaredWith (before ++ after) host timeout probe)).group? id = some group →
      group.pattern = none := by
    intro id group hgroup
    rw [foldl_tablesEdited] at hgroup
    obtain ⟨names, -, rfl⟩ := Option.map_eq_some_iff.mp
      ((group?_declaredWith (before ++ after) host timeout probe id).symm.trans hgroup)
    rfl
  have hgives := gives_blank (before ++ after) host timeout
  rw [hprobe] at hgives
  obtain ⟨opening, hblank⟩ := hgives.exists_reports (appends_blank _ _ _)
  obtain ⟨defaulted, hdefaults⟩ :=
    (Building.gives_liftM (gives_defaults
      (blankWith (before ++ after) host timeout probe))).exists_reports
      (Building.appends_liftM (appends_defaults _))
  obtain ⟨first, hdeclare⟩ := hrejected.exists_adds_declare
    (settingOf (before ++ after) host).defaults (blankWith (before ++ after) host timeout probe)
  obtain ⟨second, htables, hsecond⟩ := hrejected.exists_adds_attachToTables hdeclared
    fun property hproperty => (hsound property hproperty).1
  obtain ⟨third, hgroups, hthird⟩ := hrejected.exists_adds_attachToGroups hnew hjudged
    (hdeclared.foldl_tablesEdited (before ++ after)) hnone
    fun property hproperty => (hsound property hproperty).2
  refine ⟨0 + (0 + (first + (second + third))), ?_, ?_⟩
  · unfold build
    rw [hrejected.idle.blank_insert]
    refine hblank.adds_zero.bind ?_
    refine hdefaults.adds_zero.bind ?_
    refine hdeclare.bind ?_
    exact htables.bind hgroups
  · by_cases hkey : PropertyKey.ofText key = .wrongTable none
    · have hmore := hsecond hkey
      omega
    · have hmore := hthird hkey
      omega

/-- A pattern that cannot be judged ends the building. -/
theorem Rejected.gives_build_unjudged {timeout : Int} {probe : Probe}
    (hunjudged : Unjudged (before ++ after) key value)
    (hprobe : Probe.read (before ++ after) = .ok probe)
    (hsound : ∀ property ∈ before ++ after,
      Building.faultOf ((settingOf (before ++ after) host).tableEditOf property) = none ∧
      Building.faultOf ((settingOf (before ++ after) host).groupEditOf property) = none) :
    ∃ fault, Pattern.compile (unquote value) = .error fault ∧ fault ≠ .malformed ∧
      Building.Gives (build (before ++ (key, value) :: after) host timeout)
        (.error (.pattern fault)) := by
  have hidle := hrejected.idle
  obtain ⟨fault, hcompile, hfault, hedit⟩ := hunjudged.exists_faultOf_groupEditOf host
  refine ⟨fault, hcompile, hfault, fun journal => ?_⟩
  have htables : ∀ property ∈ before ++ (key, value) :: after,
      Building.faultOf ((settingOf (before ++ after) host).tableEditOf property) = none := by
    intro property hproperty
    rcases List.mem_append.mp hproperty with hmem | hmem
    · exact (hsound property (List.mem_append_left after hmem)).1
    · rcases List.mem_cons.mp hmem with rfl | hmem
      · exact hidle.faultOf_tableEditOf _
      · exact (hsound property (List.mem_append_right before hmem)).1
  have hbefore : ∀ property ∈ before,
      Building.faultOf ((settingOf (before ++ after) host).groupEditOf property) = none :=
    fun property hmem => (hsound property (List.mem_append_left after hmem)).2
  have hfirst : editFault? (settingOf (before ++ after) host) (before ++ (key, value) :: after) =
      some (.pattern fault) := by
    rw [editFault?, List.findSome?_eq_none_iff.mpr htables, Option.none_or, List.findSome?_append,
      List.findSome?_eq_none_iff.mpr hbefore, Option.none_or, List.findSome?_cons, hedit]
  rw [gives_build, built, hidle.probe_insert, hprobe, hidle.settingOf_insert, hfirst]
  rfl

end Built

/-- A rejected property is reported and has no other effect: the very device comes out that comes out
without it, and all that is reported without it is reported still. Only a pattern that cannot be
judged ends the building. -/
theorem build_insert_rejected {host : Option String} {timeout : Int} {device : Device}
    {journal : Log.Journal} (hnew : key ∉ Keyed.keys (before ++ after))
    (hrejected : Rejected (before ++ after) key value)
    (hbuild : ((build (before ++ after) host timeout).run.run journal).1 = .ok device) :
    (¬ Unjudged (before ++ after) key value → ∃ records records' : List Log.Entry,
      (∀ journal, (build (before ++ after) host timeout).run.run journal =
        (.ok device, journal ++ records)) ∧
      (∀ journal, (build (before ++ (key, value) :: after) host timeout).run.run journal =
        (.ok device, journal ++ records')) ∧
      records.Sublist records' ∧ records.length < records'.length) ∧
    (Unjudged (before ++ after) key value → ∃ fault,
      Pattern.compile (unquote value) = .error fault ∧ fault ≠ .malformed ∧
      ∀ journal, ((build (before ++ (key, value) :: after) host timeout).run.run journal).1 =
        .error (.pattern fault)) := by
  rw [gives_build] at hbuild
  obtain ⟨hread, hsound⟩ := exists_built_iff_faults.mp ⟨device, hbuild⟩
  obtain ⟨probe, hprobe⟩ := Building.faultOf_eq_none_iff.mp hread
  constructor
  · intro hjudged
    obtain ⟨more, ⟨records, records', hrecords, hrecords', hsublist, hlength⟩, hmore⟩ :=
      hrejected.exists_adds_build timeout hnew hjudged hprobe hsound
    have hsame : device = assembled (before ++ after) host timeout probe :=
      Except.ok.inj (hbuild.symm.trans
        ((gives_build (before ++ after) host timeout []).symm.trans (hrecords.gives [])))
    subst hsame
    exact ⟨records, records', hrecords, hrecords', hsublist, by omega⟩
  · intro hunjudged
    exact hrejected.gives_build_unjudged hunjudged hprobe hsound

/-- The name of a profile and a group of two channels. -/
def pairProfile : Properties := [("properties.name", "p"), ("values.g.vars", "a,b")]

theorem build_insert_rejected_pairProfile :
    Rejected (pairProfile ++ [("values.g.split", ";")]) "values.g.factors" "1,2,3" ∧
    ∃ device, ∃ records records' : List Log.Entry,
      (build (pairProfile ++ [("values.g.split", ";")]) (some "host") 3000).run.run [] =
        (.ok device, records) ∧
      (build (pairProfile ++ ("values.g.factors", "1,2,3") :: [("values.g.split", ";")])
        (some "host") 3000).run.run [] = (.ok device, records') ∧
      records.Sublist records' ∧ records.length < records'.length := by
  have hnew : "values.g.factors" ∉ Keyed.keys (pairProfile ++ [("values.g.split", ";")]) := by
    decide +kernel
  have hnames : namesOf (pairProfile ++ [("values.g.split", ";")]) "g" = some ["a", "b"] := by
    decide +kernel
  have hfields : Text.fields '.' "values.g.factors" = ["values", "g", GroupField.key .factors] := by
    decide +kernel
  have hcount : (Text.items "1,2,3").length ≠ ["a", "b"].length := by decide +kernel
  have hbuilt : Building.faultOf ((build (pairProfile ++ [("values.g.split", ";")])
      (some "host") 3000).run.run []).1 = none := by decide +kernel
  have hjudged : ¬ Unjudged (pairProfile ++ [("values.g.split", ";")]) "values.g.factors" "1,2,3" := by
    rintro ⟨id, field, hother, hfield, -⟩
    rw [hfields] at hother
    rcases hfield with rfl | rfl <;> revert hother <;> simp [GroupField.key]
  obtain ⟨device, hdevice⟩ := Building.faultOf_eq_none_iff.mp hbuilt
  have hrejected := Rejected.count hfields (.inl rfl) hnames hcount
  obtain ⟨records, records', hrecords, hrecords', hmore⟩ :=
    (build_insert_rejected hnew hrejected hdevice).1 hjudged
  exact ⟨hrejected, device, records, records', hrecords [], hrecords' [], hmore⟩

/-- The separator of the group demands more repetitions than can be counted. -/
theorem not_forall_build_insert_rejected :
    ¬ ∀ (before after : Properties) (key value host : String) (timeout : Int) (device : Device),
      key ∉ Keyed.keys (before ++ after) → Rejected (before ++ after) key value →
      ((build (before ++ after) (some host) timeout).run.run []).1 = .ok device →
      ((build (before ++ (key, value) :: after) (some host) timeout).run.run []).1 = .ok device := by
  intro hwithout
  have hnew : "values.g.split" ∉ Keyed.keys (pairProfile ++ []) := by decide +kernel
  have hnames : namesOf (pairProfile ++ []) "g" = some ["a", "b"] := by decide +kernel
  have hfields : Text.fields '.' "values.g.split" = ["values", "g", GroupField.key .split] := by
    decide +kernel
  have hcompile : (Pattern.compile (unquote "a\x7b4294967296\x7d")).toOption = none := by
    decide +kernel
  have hbuilt : Building.faultOf ((build (pairProfile ++ []) (some "host") 3000).run.run []).1 =
      none := by decide +kernel
  have hfault : Building.faultOf ((build
      (pairProfile ++ ("values.g.split", "a\x7b4294967296\x7d") :: []) (some "host") 3000).run.run
      []).1 = some (.pattern .tooManyRepetitions) := by decide +kernel
  have hrefused : ∀ result : Except Pattern.Fault Pattern, result.toOption = none →
      ∃ fault, result = .error fault := by
    intro result hnone
    cases result with
    | ok pattern => cases hnone
    | error fault => exact ⟨fault, rfl⟩
  obtain ⟨device, hdevice⟩ := Building.faultOf_eq_none_iff.mp hbuilt
  obtain ⟨fault, hrefusal⟩ := hrefused _ hcompile
  have hrejected := Rejected.pattern hfields (.inl rfl) hnames hrefusal
  have hsame := hwithout _ _ _ _ "host" 3000 device hnew hrejected hdevice
  rw [hsame] at hfault
  cases hfault

end Insert

end Device

end Telemetry
