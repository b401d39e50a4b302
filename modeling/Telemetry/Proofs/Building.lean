import Telemetry.Fault

/-!
What computations come to, apart from what they report. `Log.Gives` and `Building.Gives` say that the
result is the same whatever was reported before, `Building.Ensures` only what holds of it; the lemmas
follow the ways in which such computations are put together.
-/

namespace Telemetry

namespace Log

variable {α β : Type}

/-- Is this the result, whatever was reported before? -/
def Gives (act : Noting α) (value : α) : Prop :=
  ∀ journal, (act.run journal).1 = value

theorem gives_pure (value : α) : Gives (pure value) value :=
  fun _ => rfl

theorem gives_note (entry : Entry) : Gives (note entry) () :=
  fun _ => rfl

theorem gives_noteAll (entries : List Entry) : Gives (noteAll entries) () :=
  fun _ => rfl

theorem Gives.bind {act : Noting α} {value : α} {next : α → Noting β} {result : β}
    (hact : Gives act value) (hnext : Gives (next value) result) : Gives (act >>= next) result := by
  intro journal
  have hrun : (act >>= next).run journal =
      (next (act.run journal).1).run (act.run journal).2 := rfl
  rw [hrun, hact journal]
  exact hnext _

theorem gives_mapM {step : α → Noting β} {next : α → β}
    (hstep : ∀ element, Gives (step element) (next element)) (elements : List α) :
    Gives (elements.mapM step) (elements.map next) := by
  induction elements with
  | nil => exact gives_pure []
  | cons element elements ih =>
      rw [List.mapM_cons, List.map_cons]
      exact (hstep element).bind (ih.bind (gives_pure _))

end Log

namespace Building

variable {α β σ : Type}

/-- Is this what the computation comes to, whatever was reported before? -/
def Gives (act : Building α) (outcome : Except Fault α) : Prop :=
  ∀ journal, (act.run.run journal).1 = outcome

theorem gives_pure (value : α) : Gives (pure value) (.ok value) :=
  fun _ => rfl

theorem gives_pure_of_eq {value result : α} (heq : value = result) : Gives (pure value) (.ok result) :=
  fun _ => congrArg Except.ok heq

theorem gives_throw (fault : Fault) : Gives (throw fault : Building α) (.error fault) :=
  fun _ => rfl

theorem gives_liftM {act : Log.Noting α} {value : α} (hact : Log.Gives act value) :
    Gives (liftM act) (.ok value) := by
  intro journal
  have hrun : ((liftM act : Building α).run.run journal).1 = .ok (act.run journal).1 := rfl
  rw [hrun, hact journal]

theorem run_run_bind {ε : Type} (act : ExceptT ε Log.Noting α) (next : α → ExceptT ε Log.Noting β)
    (journal : Log.Journal) :
    (act >>= next).run.run journal =
      match act.run.run journal with
      | (.ok value, journal) => (next value).run.run journal
      | (.error fault, journal) => (.error fault, journal) := by
  have hrun : (act >>= next).run.run journal =
      (ExceptT.bindCont next (act.run.run journal).1).run (act.run.run journal).2 := rfl
  rw [hrun]
  obtain ⟨result, journal⟩ := act.run.run journal
  cases result with
  | ok value => rfl
  | error fault => rfl

theorem Gives.bind {act : Building α} {value : α} {next : α → Building β} {outcome : Except Fault β}
    (hact : Gives act (.ok value)) (hnext : Gives (next value) outcome) :
    Gives (act >>= next) outcome := by
  intro journal
  have hresult := hact journal
  rw [run_run_bind]
  generalize act.run.run journal = reached at *
  obtain ⟨result, journal⟩ := reached
  obtain rfl : result = .ok value := hresult
  exact hnext journal

theorem Gives.bind_error {act : Building α} {fault : Fault} (hact : Gives act (.error fault))
    (next : α → Building β) : Gives (act >>= next) (.error fault) := by
  intro journal
  have hresult := hact journal
  rw [run_run_bind]
  generalize act.run.run journal = reached at *
  obtain ⟨result, journal⟩ := reached
  obtain rfl : result = .error fault := hresult
  rfl

theorem Gives.bind_map {act : Building α} {outcome : Except Fault α} (hact : Gives act outcome)
    {next : α → Building β} {result : α → β} (hnext : ∀ value, Gives (next value) (.ok (result value))) :
    Gives (act >>= next) (result <$> outcome) := by
  cases outcome with
  | ok value => exact hact.bind (hnext value)
  | error fault => exact hact.bind_error next

def faultOf : Except Fault α → Option Fault
  | .ok _ => none
  | .error fault => some fault

/-- The value, unless there is a fault. -/
def outcome (fault? : Option Fault) (value : α) : Except Fault α :=
  match fault? with
  | some fault => .error fault
  | none => .ok value

/-- A loop whose steps keep an invariant and fail for the sake of their element alone. -/
theorem gives_foldlM {step : σ → α → Building σ} {next : σ → α → σ} {fault? : α → Option Fault}
    {Holds : σ → Prop}
    {elements : List α}
    (hstep : ∀ state, Holds state → ∀ element ∈ elements,
      Gives (step state element) (outcome (fault? element) (next state element)))
    (hnext : ∀ state, Holds state → ∀ element, Holds (next state element))
    {state : σ} (hstate : Holds state) :
    Gives (elements.foldlM step state)
      (outcome (elements.findSome? fault?) (elements.foldl next state)) := by
  induction elements generalizing state with
  | nil => exact gives_pure state
  | cons element elements ih =>
      rw [List.foldlM_cons, List.foldl_cons, List.findSome?_cons]
      have hfirst := hstep state hstate element List.mem_cons_self
      cases hfault : fault? element with
      | none =>
          rw [hfault] at hfirst
          refine hfirst.bind (ih ?_ (hnext state hstate element))
          intro state hstate element helement
          exact hstep state hstate element (List.mem_cons_of_mem _ helement)
      | some fault =>
          rw [hfault] at hfirst
          exact hfirst.bind_error _

/-- Does what the computation comes to have the property, unless it ends with a fault? -/
def Ensures (act : Building α) (Holds : α → Prop) : Prop :=
  ∀ journal value, (act.run.run journal).1 = .ok value → Holds value

theorem Gives.ensures {act : Building α} {outcome : Except Fault α} (hact : Gives act outcome) :
    Ensures act fun value => outcome = .ok value :=
  fun journal _ hvalue => (hact journal).symm.trans hvalue

theorem ensures_pure {Holds : α → Prop} {value : α} (hvalue : Holds value) :
    Ensures (pure value) Holds := by
  intro journal result hresult
  rwa [← Except.ok.inj hresult]

theorem Ensures.bind {act : Building α} {next : α → Building β} {First : α → Prop} {Holds : β → Prop}
    (hact : Ensures act First) (hnext : ∀ value, First value → Ensures (next value) Holds) :
    Ensures (act >>= next) Holds := by
  intro journal result hresult
  have hfirst := hact journal
  rw [run_run_bind] at hresult
  generalize act.run.run journal = reached at *
  obtain ⟨outcome, journal⟩ := reached
  cases outcome with
  | ok value => exact hnext value (hfirst value rfl) journal result hresult
  | error fault => cases hresult

theorem ensures_foldlM {step : σ → α → Building σ} {Holds : σ → Prop} {elements : List α}
    (hstep : ∀ state, Holds state → ∀ element ∈ elements, Ensures (step state element) Holds)
    {state : σ} (hstate : Holds state) : Ensures (elements.foldlM step state) Holds := by
  induction elements generalizing state with
  | nil => exact ensures_pure hstate
  | cons element elements ih =>
      rw [List.foldlM_cons]
      refine (hstep state hstate element List.mem_cons_self).bind fun state hstate => ih ?_ hstate
      intro state hstate element helement
      exact hstep state hstate element (List.mem_cons_of_mem _ helement)

end Building

theorem eq_ok_getD_of_isSome {ε α : Type} {outcome : Except ε α}
    (hsome : outcome.toOption.isSome = true) (default : α) :
    outcome = .ok (outcome.toOption.getD default) := by
  cases outcome with
  | error fault => contradiction
  | ok value => rfl

end Telemetry
