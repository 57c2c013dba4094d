/-! Work that may fail and changes a state, taken one step after another. -/

namespace FleetLink

section
variable {ε σ : Type}

/-- A step after another one runs on what that one leaves, unless it failed. -/
theorem bind_run (first : ExceptT ε (StateM σ) α) (next : α → ExceptT ε (StateM σ) β) (state : σ) :
    (first >>= next) state = match first state with
      | (.ok value, after) => next value after
      | (.error error, after) => (.error error, after) := by
  change ExceptT.bind first next state = _
  simp only [ExceptT.bind, ExceptT.mk, bind, StateT.bind]
  rcases first state with ⟨_ | _, _⟩ <;> rfl

theorem pure_run (value : α) (state : σ) : (pure value : ExceptT ε (StateM σ) α) state = (.ok value, state) := rfl

theorem get_run (state : σ) : (get : ExceptT ε (StateM σ) σ) state = (.ok state, state) := rfl

theorem set_run (next state : σ) : (set next : ExceptT ε (StateM σ) PUnit) state = (.ok ⟨⟩, next) := rfl

end

end FleetLink
