/-!
A number that is too large for a word is refused by `fits` and brought back into it by `wrap`.
-/

set_option autoImplicit false

namespace OpcodeTable.Word

def span (bits : Nat) : Nat := Nat.pow 2 bits

def bound (bits : Nat) : Int := span (bits - 1)

def fits (bits : Nat) (number : Int) : Bool := -bound bits ≤ number && number < bound bits

def wrap (bits : Nat) (number : Int) : Int := number.bmod (span bits)

theorem span_half (bits : Nat) (positive : 0 < bits) : (span bits : Int) = 2 * bound bits := by
  obtain ⟨less, rfl⟩ := Nat.exists_eq_add_of_lt positive
  simp [span, bound, Nat.pow_succ]
  omega

theorem wrap_fits (bits : Nat) (positive : 0 < bits) (number : Int) : fits bits (wrap bits number) = true := by
  have whole := span_half bits positive
  have wide : 0 < span bits := Nat.pow_pos (by decide)
  have least := Int.le_bmod (x := number) wide
  have most := Int.bmod_lt (x := number) wide
  simp only [fits, Bool.and_eq_true, decide_eq_true_eq]
  unfold wrap
  omega

theorem wrap_same_iff (bits : Nat) (positive : 0 < bits) (number : Int) :
    wrap bits number = number ↔ fits bits number = true := by
  constructor
  · intro same
    rw [← same]
    exact wrap_fits bits positive number
  · intro inside
    have whole := span_half bits positive
    simp only [fits, Bool.and_eq_true, decide_eq_true_eq] at inside
    exact Int.bmod_eq_of_le_mul_two (by omega) (by omega)

theorem wrap_differs (bits : Nat) (number : Int) : (span bits : Int) ∣ number - wrap bits number :=
  Int.dvd_self_sub_bmod

end OpcodeTable.Word
