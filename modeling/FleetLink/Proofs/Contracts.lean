/-! What holds after work that changes a state, unless it fails. -/

namespace FleetLink

variable {σ ε α β : Type}

/-- From a state as required, the work does not succeed but with a value and a state as promised. -/
def Ensures (pre : σ → Prop) (work : StateT σ (Except ε) α) (post : α → σ → Prop) : Prop :=
  ∀ state value after, pre state → work state = .ok (value, after) → post value after

namespace Ensures

variable {pre : σ → Prop} {work : StateT σ (Except ε) α} {post : α → σ → Prop}

theorem bind {next : α → StateT σ (Except ε) β} {last : β → σ → Prop} (first : Ensures pre work post)
    (later : ∀ value, Ensures (post value) (next value) last) : Ensures pre (work >>= next) last := by
  intro state value after holds run
  change (work state >>= fun done => next done.1 done.2) = _ at run
  cases result : work state with
  | error => rw [result] at run; cases run
  | ok done =>
    rw [result] at run
    exact later done.1 done.2 value after (first state done.1 done.2 holds result) run

/-- What does not depend on the state may be used at once. -/
theorem given {fact : Prop} (ensures : fact → Ensures pre work post) :
    Ensures (fun state => pre state ∧ fact) work post :=
  fun state value after ⟨holds, here⟩ run => ensures here state value after holds run

theorem pure {value : α} (holds : ∀ state, pre state → post value state) :
    Ensures pre (Pure.pure value : StateT σ (Except ε) α) post := by
  intro state result after before run
  cases run
  exact holds state before

theorem throw {error : ε} : Ensures pre (throw error : StateT σ (Except ε) α) post := nofun

theorem map {change : α → β} {last : β → σ → Prop} (first : Ensures pre work post)
    (holds : ∀ value state, post value state → last (change value) state) : Ensures pre (change <$> work) last := by
  intro state value after before run
  change (work state >>= fun done => Pure.pure (change done.1, done.2)) = _ at run
  cases result : work state with
  | error => rw [result] at run; cases run
  | ok done =>
    rw [result] at run
    cases run
    exact holds done.1 done.2 (first state done.1 done.2 before result)

/-- Work without a state in the midst of work with one. -/
theorem lift {outer : Except ε α} {fact : α → Prop} (holds : ∀ value, outer = .ok value → fact value) :
    Ensures pre (StateT.lift outer) fun value state => pre state ∧ fact value := by
  intro state value after before run
  cases result : outer with
  | error => rw [result] at run; cases run
  | ok done =>
    rw [result] at run
    cases run
    exact ⟨before, holds value result⟩

/-- What follows a failure is not reached. -/
theorem fails {error : ε} {next : α → StateT σ (Except ε) β} {last : β → σ → Prop} :
    Ensures pre (MonadExcept.throw error >>= next) last := nofun

/-- Looking at the state changes nothing. -/
theorem look {next : σ → StateT σ (Except ε) β} {last : β → σ → Prop}
    (later : ∀ seen, pre seen → Ensures pre (next seen) last) : Ensures pre (MonadState.get >>= next) last :=
  fun state value after holds run => later state holds state value after holds run

theorem set {next : σ} {last : PUnit → σ → Prop} (holds : ∀ state, pre state → last ⟨⟩ next) :
    Ensures pre (set next : StateT σ (Except ε) PUnit) last := by
  intro state value after before run
  cases run
  exact holds state before

theorem modify {change : σ → σ} {last : PUnit → σ → Prop} (holds : ∀ state, pre state → last ⟨⟩ (change state)) :
    Ensures pre (modify change : StateT σ (Except ε) PUnit) last := by
  intro state value after before run
  cases run
  exact holds state before

variable {invariant : σ → Prop} {good : β → Prop}

theorem mapM {each : α → StateT σ (Except ε) β} {items : List α}
    (step : ∀ item ∈ items, Ensures invariant (each item) fun value state => invariant state ∧ good value) :
    Ensures invariant (items.mapM each) fun values state => invariant state ∧ ∀ value ∈ values, good value := by
  induction items with
  | nil =>
    rw [List.mapM_nil]
    exact pure fun state holds => ⟨holds, nofun⟩
  | cons item rest ih =>
    rw [List.mapM_cons]
    refine (step item List.mem_cons_self).bind fun value => .given fun here => ?_
    refine (ih fun item member => step item (List.mem_cons_of_mem _ member)).bind fun values => ?_
    exact pure fun state ⟨holds, others⟩ => ⟨holds, List.forall_mem_cons.mpr ⟨here, others⟩⟩

theorem forM {each : α → StateT σ (Except ε) PUnit} {items : List α}
    (step : ∀ item ∈ items, Ensures invariant (each item) fun _ => invariant) :
    Ensures invariant (items.forM each) fun _ => invariant := by
  induction items with
  | nil => exact pure fun _ holds => holds
  | cons item rest ih =>
    refine (step item List.mem_cons_self).bind fun _ => ?_
    exact ih fun item member => step item (List.mem_cons_of_mem _ member)

end Ensures

end FleetLink
