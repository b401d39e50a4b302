import Telemetry.Proofs.Building

namespace Telemetry

namespace Log

variable {α β σ : Type}

/-- Are these the result and the records, whatever was reported before? -/
def Reports (act : Noting α) (value : α) (entries : List Entry) : Prop :=
  ∀ journal, act.run journal = (value, journal ++ entries)

/-- Does the computation only ever add records, and always the same ones? -/
def Appends (act : Noting α) : Prop :=
  ∃ value entries, Reports act value entries

theorem reports_pure (value : α) : Reports (pure value) value [] := by
  intro journal
  rw [List.append_nil]
  rfl

theorem reports_note (entry : Entry) : Reports (note entry) () [entry] :=
  fun _ => rfl

theorem reports_noteAll (entries : List Entry) : Reports (noteAll entries) () entries :=
  fun _ => rfl

theorem Reports.bind {act : Noting α} {value : α} {next : α → Noting β} {result : β}
    {entries later : List Entry} (hact : Reports act value entries)
    (hnext : Reports (next value) result later) :
    Reports (act >>= next) result (entries ++ later) := by
  intro journal
  have hrun : (act >>= next).run journal =
      (next (act.run journal).1).run (act.run journal).2 := rfl
  rw [hrun, hact journal, ← List.append_assoc]
  exact hnext _

theorem appends_pure (value : α) : Appends (pure value) :=
  ⟨value, [], reports_pure value⟩

theorem appends_note (entry : Entry) : Appends (note entry) :=
  ⟨(), [entry], reports_note entry⟩

theorem appends_noteAll (entries : List Entry) : Appends (noteAll entries) :=
  ⟨(), entries, reports_noteAll entries⟩

theorem Appends.bind {act : Noting α} {next : α → Noting β} (hact : Appends act)
    (hnext : ∀ value, Appends (next value)) : Appends (act >>= next) := by
  obtain ⟨value, entries, hreports⟩ := hact
  obtain ⟨result, later, hlater⟩ := hnext value
  exact ⟨result, entries ++ later, hreports.bind hlater⟩

theorem appends_note_pure (entry : Entry) (value : α) :
    Appends (do note entry; pure value) :=
  (appends_note entry).bind fun _ => appends_pure value

theorem reports_note_pure (entry : Entry) (value : α) :
    Reports (do note entry; pure value) value [entry] :=
  (reports_note entry).bind (reports_pure value)

theorem appends_mapM {step : α → Noting β} (hstep : ∀ element, Appends (step element))
    (elements : List α) : Appends (elements.mapM step) := by
  induction elements with
  | nil => exact appends_pure []
  | cons element elements ih =>
      rw [List.mapM_cons]
      exact (hstep element).bind fun _ => ih.bind fun _ => appends_pure _

theorem appends_foldlM {step : σ → α → Noting σ}
    (hstep : ∀ state element, Appends (step state element)) (elements : List α) (state : σ) :
    Appends (elements.foldlM step state) := by
  induction elements generalizing state with
  | nil => exact appends_pure state
  | cons element elements ih =>
      rw [List.foldlM_cons]
      exact (hstep state element).bind ih

end Log

namespace Building

variable {α β σ : Type}

/-- Are these what the computation comes to and the records, whatever was reported before? -/
def Reports (act : Building α) (outcome : Except Fault α) (entries : List Log.Entry) : Prop :=
  Log.Reports act.run outcome entries

/-- Does the computation only ever add records, and always the same ones? -/
def Appends (act : Building α) : Prop :=
  Log.Appends act.run

theorem Gives.exists_reports {act : Building α} {outcome : Except Fault α} (hgives : Gives act outcome)
    (happends : Appends act) : ∃ entries, Reports act outcome entries := by
  obtain ⟨result, entries, hreports⟩ := happends
  have hresult : result = outcome := by
    rw [← hgives [], hreports []]
  exact ⟨entries, hresult ▸ hreports⟩

theorem Reports.gives {act : Building α} {outcome : Except Fault α} {entries : List Log.Entry}
    (hreports : Reports act outcome entries) : Gives act outcome :=
  fun journal => congrArg Prod.fst (hreports journal)

theorem reports_pure (value : α) : Reports (pure value) (.ok value) [] :=
  Log.reports_pure _

theorem reports_liftM {act : Log.Noting α} {value : α} {entries : List Log.Entry}
    (hact : Log.Reports act value entries) : Reports (liftM act) (.ok value) entries := by
  intro journal
  have hrun : (liftM act : Building α).run.run journal =
      (.ok (act.run journal).1, (act.run journal).2) := rfl
  rw [hrun, hact journal]

theorem Reports.bind {act : Building α} {value : α} {next : α → Building β}
    {outcome : Except Fault β} {entries later : List Log.Entry}
    (hact : Reports act (.ok value) entries) (hnext : Reports (next value) outcome later) :
    Reports (act >>= next) outcome (entries ++ later) := by
  intro journal
  rw [run_run_bind, hact journal, ← List.append_assoc]
  exact hnext _

theorem appends_pure (value : α) : Appends (pure value) :=
  Log.appends_pure _

theorem appends_throw (fault : Fault) : Appends (throw fault : Building α) :=
  Log.appends_pure _

theorem appends_liftM {act : Log.Noting α} (hact : Log.Appends act) :
    Appends (liftM act : Building α) := by
  obtain ⟨value, entries, hreports⟩ := hact
  exact ⟨.ok value, entries, reports_liftM hreports⟩

theorem Appends.bind {act : Building α} {next : α → Building β} (hact : Appends act)
    (hnext : ∀ value, Appends (next value)) : Appends (act >>= next) := by
  obtain ⟨result, entries, hreports⟩ := hact
  cases result with
  | ok value =>
      obtain ⟨result, later, hlater⟩ := hnext value
      exact ⟨result, entries ++ later, Reports.bind hreports hlater⟩
  | error fault =>
      refine ⟨.error fault, entries, fun journal => ?_⟩
      rw [run_run_bind, hreports journal]

theorem appends_note_pure (entry : Log.Entry) (value : α) :
    Appends (do Log.note entry; pure value : Building α) :=
  appends_liftM (Log.appends_note_pure entry value)

theorem reports_note_pure (entry : Log.Entry) (value : α) :
    Reports (do Log.note entry; pure value : Building α) (.ok value) [entry] :=
  reports_liftM (Log.reports_note_pure entry value)

theorem appends_foldlM {step : σ → α → Building σ}
    (hstep : ∀ state element, Appends (step state element)) (elements : List α) (state : σ) :
    Appends (elements.foldlM step state) := by
  induction elements generalizing state with
  | nil => exact appends_pure state
  | cons element elements ih =>
      rw [List.foldlM_cons]
      exact (hstep state element).bind ih

theorem liftM_foldlM (step : σ → α → Log.Noting σ) (elements : List α) (state : σ) :
    (liftM (elements.foldlM step state) : Building σ) =
      elements.foldlM (fun state element => (liftM (step state element) : Building σ)) state := by
  induction elements generalizing state with
  | nil => rfl
  | cons element elements ih =>
      rw [List.foldlM_cons, List.foldlM_cons, liftM_bind]
      simp only [ih]

/-- Do both computations come to the value, the second one with the records of the first and so many
more? -/
def Adds (more : Nat) (act act' : Building α) (value : α) : Prop :=
  ∃ records records', Reports act (.ok value) records ∧ Reports act' (.ok value) records' ∧
    records.Sublist records' ∧ records'.length = records.length + more

theorem Reports.adds_zero {act : Building α} {value : α} {records : List Log.Entry}
    (hact : Reports act (.ok value) records) : Adds 0 act act value :=
  ⟨records, records, hact, hact, List.Sublist.refl records, rfl⟩

theorem Adds.bind {more further : Nat} {act act' : Building α} {value : α}
    {next next' : α → Building β} {result : β} (hact : Adds more act act' value)
    (hnext : Adds further (next value) (next' value) result) :
    Adds (more + further) (act >>= next) (act' >>= next') result := by
  obtain ⟨records, records', hrecords, hrecords', hsublist, hlength⟩ := hact
  obtain ⟨later, later', hlater, hlater', hsublist', hlength'⟩ := hnext
  refine ⟨records ++ later, records' ++ later', hrecords.bind hlater, hrecords'.bind hlater',
    hsublist.append hsublist', ?_⟩
  rw [List.length_append, List.length_append, hlength, hlength']
  omega

/-- An element that changes nothing, put anywhere among the others: a loop over them comes to the
same, and what it reports of that element stands between the records of the others. -/
theorem adds_foldlM_insert {step : σ → α → Building σ}
    (hstep : ∀ state element, Appends (step state element)) {before after : List α} {element : α}
    {state between last : σ} {added : List Log.Entry}
    (hbefore : Gives (before.foldlM step state) (.ok between))
    (helement : Reports (step between element) (.ok between) added)
    (hafter : Gives (after.foldlM step between) (.ok last)) :
    Adds added.length ((before ++ after).foldlM step state)
      ((before ++ element :: after).foldlM step state) last := by
  obtain ⟨earlier, hearlier⟩ := hbefore.exists_reports (appends_foldlM hstep before state)
  obtain ⟨later, hlater⟩ := hafter.exists_reports (appends_foldlM hstep after between)
  refine ⟨earlier ++ later, earlier ++ (added ++ later), ?_, ?_, ?_, ?_⟩
  · rw [List.foldlM_append]
    exact hearlier.bind hlater
  · rw [List.foldlM_append]
    exact hearlier.bind (helement.bind hlater)
  · exact (List.Sublist.refl earlier).append (List.sublist_append_right added later)
  · simp only [List.length_append]
    omega

end Building

end Telemetry
