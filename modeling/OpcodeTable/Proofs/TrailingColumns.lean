import OpcodeTable.Proofs.Cuts
import OpcodeTable.Proofs.Patterns

set_option autoImplicit false

namespace OpcodeTable.Rule

open Bytes (newline space)
open Pattern (Run run_induction)

theorem columns_other (byte : UInt8) (rest : Bytes) (other : isEncodingLetter byte = false) :
    removeTrailingColumns (byte :: rest) = byte :: removeTrailingColumns rest := by
  apply Bytes.sweep_keep
  simp [findTrailingColumns, other]

theorem encoding_not_newline (byte : UInt8) (encoding : isEncodingLetter byte = true) :
    isNotNewline byte = true := by
  by_cases same : byte = newline
  · subst same
    cases encoding
  · simp [isNotNewline, same]

theorem columns_run (run rest : Bytes) (whole : Run isEncodingLetter run rest) :
    removeTrailingColumns (run ++ rest) =
      if startsColumn rest then removeTrailingColumns (rest.dropWhile isNotNewline)
      else run ++ removeTrailingColumns rest := by
  cases run with
  | nil => exact absurd rfl whole.present
  | cons byte more =>
      obtain ⟨first, others⟩ := List.forall_mem_cons.mp whole.accepted
      have taken : (more ++ rest).takeWhile isEncodingLetter = more := by
        have all := whole.take_while
        rw [List.cons_append, List.takeWhile_cons_of_pos first] at all
        exact (List.cons.inj all).2
      have left : (more ++ rest).dropWhile isEncodingLetter = rest := by
        have all := whole.drop_while
        rwa [List.cons_append, List.dropWhile_cons_of_pos first] at all
      by_cases column : startsColumn rest = true
      · have found : findTrailingColumns byte (more ++ rest) =
            some ⟨[], ((more ++ rest).takeWhile isNotNewline).length⟩ := by
          simp [findTrailingColumns, first, left, column]
        have cut : (more ++ rest).drop ((more ++ rest).takeWhile isNotNewline).length =
            rest.dropWhile isNotNewline := by
          have same : ∀ byte ∈ more, isNotNewline byte = true :=
            fun byte member => encoding_not_newline byte (others byte member)
          rw [drop_taken, List.dropWhile_append_of_pos same]
        rw [if_pos column, List.cons_append, removeTrailingColumns, Bytes.sweep_edit _ byte _ _ found, cut]
        rfl
      · have found : findTrailingColumns byte (more ++ rest) = some ⟨byte :: more, more.length⟩ := by
          simp [findTrailingColumns, first, left, column, taken]
        rw [if_neg column, List.cons_append, removeTrailingColumns, Bytes.sweep_edit _ byte _ _ found,
          List.drop_left]

theorem drop_unbroken (text : Bytes) (unbroken : newline ∉ text) : text.dropWhile isNotNewline = [] := by
  have kept : ∀ byte ∈ text, isNotNewline byte = true := by
    intro byte member
    have other : byte ≠ newline := fun same => unbroken (same ▸ member)
    simp [isNotNewline, other]
  have ends : (text ++ []).dropWhile isNotNewline = [].dropWhile isNotNewline :=
    List.dropWhile_append_of_pos kept
  rwa [List.append_nil] at ends

theorem columns_end (run rest : Bytes) (whole : Run isEncodingLetter run rest) (column : startsColumn rest = true)
    (unbroken : newline ∉ rest) : removeTrailingColumns (run ++ rest) = [] := by
  rw [columns_run run rest whole, if_pos column, drop_unbroken rest unbroken]
  rfl

theorem columns_stay (run rest : Bytes) (whole : Run isEncodingLetter run rest) (alone : startsColumn rest = false) :
    removeTrailingColumns (run ++ rest) = run ++ removeTrailingColumns rest := by
  rw [columns_run run rest whole, if_neg (by simp [alone])]

theorem gap_starts_column (text : Bytes) (present : text ≠ []) (unbroken : newline ∉ text) :
    startsColumn (space :: text) = true := by
  cases text with
  | nil => exact absurd rfl present
  | cons first more =>
      have other : first ≠ newline := fun same => unbroken (by simp [same])
      simp [startsColumn, isNotNewline, other]

theorem column_elsewhere (next : UInt8) (rest : Bytes) (other : next ≠ space) :
    startsColumn (next :: rest) = false := by
  cases rest with
  | nil => rfl
  | cons _ _ => simp [startsColumn, other]

-- A run of encoding letters inside the front is followed by another byte of it, which is no gap.
theorem columns_pass (front back : Bytes) (closed : space ∉ front)
    (ends : ∀ last ∈ front.getLast?, isEncodingLetter last = false) :
    removeTrailingColumns (front ++ back) = front ++ removeTrailingColumns back := by
  induction front using run_induction with
  | nil => rfl
  | other byte rest starts ih =>
      rw [List.mem_cons, not_or] at closed
      have later : ∀ last ∈ rest.getLast?, isEncodingLetter last = false := by
        intro last member
        cases rest with
        | nil => cases member
        | cons _ _ => exact ends last (by rw [List.getLast?_cons_cons]; exact member)
      rw [List.cons_append, columns_other byte _ starts, ih closed.2 later, List.cons_append]
  | run run rest whole ih =>
      cases rest with
      | nil =>
          have last := List.getLast?_eq_some_getLast whole.present
          have other := ends (run.getLast whole.present) (by rw [List.append_nil]; exact last)
          rw [whole.accepted _ (List.getLast_mem whole.present)] at other
          cases other
      | cons next later =>
          have behind : space ∉ next :: later := fun member => closed (List.mem_append_right run member)
          have alone : startsColumn (next :: later ++ back) = false :=
            column_elsewhere next (later ++ back) fun same => behind (by simp [same])
          have last : (run ++ next :: later).getLast? = (next :: later).getLast? := by
            rw [List.getLast?_append, List.getLast?_cons]
            rfl
          rw [last] at ends
          rw [List.append_assoc,
            columns_stay run (next :: later ++ back) ⟨whole.present, whole.accepted, whole.stop⟩ alone,
            ih behind ends, List.append_assoc]

theorem columns_start (text : Bytes) (unbroken : newline ∉ text) : removeTrailingColumns text <+: text := by
  induction text using run_induction with
  | nil => exact List.nil_prefix
  | other byte rest starts ih =>
      rw [List.mem_cons, not_or] at unbroken
      rw [columns_other byte rest starts, List.cons_prefix_cons]
      exact ⟨rfl, ih unbroken.2⟩
  | run run rest whole ih =>
      have behind : newline ∉ rest := fun member => unbroken (List.mem_append_right run member)
      cases column : startsColumn rest with
      | true =>
          rw [columns_end run rest whole column behind]
          exact List.nil_prefix
      | false =>
          rw [columns_stay run rest whole column, List.prefix_append_right_inj]
          exact ih behind

end OpcodeTable.Rule
