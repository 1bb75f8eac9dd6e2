import OpcodeTable.Fault

/-!
What nested loops with an early exit come to when all that they would do is laid out in one list.
-/

set_option autoImplicit false

namespace OpcodeTable

theorem ok_of_bind {ε α β : Type} (first : Except ε α) (next : α → Except ε β) (result : β)
    (done : first >>= next = .ok result) : ∃ middle, first = .ok middle ∧ next middle = .ok result := by
  cases first with
  | error fault => cases done
  | ok middle => exact ⟨middle, rfl, done⟩

theorem ok_of_given {ε α : Type} (outcome : Except ε α) (result : α) (given : outcome.toOption = some result) :
    outcome = .ok result := by
  cases outcome with
  | error fault => cases given
  | ok value => exact congrArg Except.ok (Option.some.inj given)

variable {α σ : Type}

def follow (act : α → σ → Option Fault × σ) : List α → σ → Option Fault × σ
  | [], state => (none, state)
  | step :: rest, state =>
      match act step state with
      | (some fault, after) => (some fault, after)
      | (none, after) => follow act rest after

variable (act : α → σ → Option Fault × σ)

theorem follow_next (step : α) (rest : List α) (state after : σ) (done : act step state = (none, after)) :
    follow act (step :: rest) state = follow act rest after := by
  simp only [follow, done]

theorem follow_failed (step : α) (rest : List α) (state after : σ) (fault : Fault)
    (failed : act step state = (some fault, after)) : follow act (step :: rest) state = (some fault, after) := by
  simp only [follow, failed]

theorem follow_append (first second : List α) (state : σ) :
    follow act (first ++ second) state =
      match follow act first state with
      | (some fault, after) => (some fault, after)
      | (none, after) => follow act second after := by
  induction first generalizing state with
  | nil => rfl
  | cons step rest ih =>
      rcases done : act step state with ⟨_ | fault, after⟩
      · rw [List.cons_append, follow_next act step _ state after done, follow_next act step _ state after done]
        exact ih after
      · rw [List.cons_append, follow_failed act step _ state after fault done,
          follow_failed act step _ state after fault done]

theorem follow_append_done (first second : List α) (state after : σ) (done : follow act first state = (none, after)) :
    follow act (first ++ second) state = follow act second after := by
  rw [follow_append, done]

theorem follow_append_failed (first second : List α) (state after : σ) (fault : Fault)
    (failed : follow act first state = (some fault, after)) :
    follow act (first ++ second) state = (some fault, after) := by
  rw [follow_append, failed]

theorem follow_cases (steps : List α) (state : σ) :
    (∃ after, follow act steps state = (none, after)) ∨
      ∃ before step rest reached fault after, steps = before ++ step :: rest ∧
        follow act before state = (none, reached) ∧ act step reached = (some fault, after) ∧
        follow act steps state = (some fault, after) := by
  induction steps generalizing state with
  | nil => exact Or.inl ⟨state, rfl⟩
  | cons step rest ih =>
      rcases done : act step state with ⟨_ | fault, after⟩
      · rw [follow_next act step rest state after done]
        rcases ih after with ⟨last, all⟩ | ⟨before, stop, more, reached, fault, last, split, passed, failed, all⟩
        · exact Or.inl ⟨last, all⟩
        · refine Or.inr ⟨step :: before, stop, more, reached, fault, last, by rw [split]; rfl, ?_, failed, all⟩
          rw [follow_next act step before state after done]
          exact passed
      · exact Or.inr ⟨[], step, rest, state, fault, after, rfl, rfl, done,
          follow_failed act step rest state after fault done⟩

end OpcodeTable
