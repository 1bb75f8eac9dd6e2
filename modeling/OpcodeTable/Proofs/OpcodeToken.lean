import OpcodeTable.Proofs.TrailingColumns

set_option autoImplicit false

namespace OpcodeTable.Rule

open Bytes (newline space)

structure Token (mark run after : Bytes) : Prop where
  marked : mark = [] ∨ mark = [wideMark]
  present : run ≠ []
  bytes : ∀ byte ∈ run, isTokenByte byte = true
  stop : ∀ byte ∈ after.head?, isTokenByte byte = false

theorem split_token_whole (mark run after : Bytes) (token : Token mark run after) :
    splitToken (mark ++ run ++ after) = (mark ++ run, after) := by
  have stopped : after.takeWhile isTokenByte = [] ∧ after.dropWhile isTokenByte = after := by
    cases after with
    | nil => exact ⟨rfl, rfl⟩
    | cons next later => simp [token.stop next rfl]
  have taken : (run ++ after).takeWhile isTokenByte = run := by
    rw [List.takeWhile_append_of_pos token.bytes, stopped.1, List.append_nil]
  have left : (run ++ after).dropWhile isTokenByte = after := by
    rw [List.dropWhile_append_of_pos token.bytes, stopped.2]
  cases run with
  | nil => exact absurd rfl token.present
  | cons first more =>
      rcases token.marked with rfl | rfl
      · have narrow : ¬ (first == wideMark) = true := by
          intro same
          have byte := token.bytes first List.mem_cons_self
          rw [beq_iff_eq.mp same] at byte
          cases byte
        rw [List.cons_append] at taken left
        rw [List.nil_append, List.cons_append, splitToken, if_neg narrow, taken, left]
      · rw [List.append_assoc, List.singleton_append, splitToken, if_pos (by decide), taken, left]
        rfl

theorem reorder_token (mark run after : Bytes) (token : Token mark run after) :
    reorder (mark ++ run ++ after) =
      if startsColumn after then
        (after.drop 1).takeWhile isNotNewline ++ (mark ++ run) ++ reorder ((after.drop 1).dropWhile isNotNewline)
      else mark ++ run ++ reorder after := by
  have split := split_token_whole mark run after token
  cases whole : mark ++ run with
  | nil => exact absurd (List.append_eq_nil_iff.mp whole).2 token.present
  | cons first more =>
      rw [whole] at split
      by_cases column : startsColumn after = true
      · match after, column with
        | gap :: rest, column =>
            let moved := rest.takeWhile isNotNewline
            have found : findToken first (more ++ gap :: rest) =
                some ⟨moved ++ first :: more, (first :: more).length + moved.length⟩ := by
              rw [findToken, ← List.cons_append, split]
              simp only [column, if_true]
              rfl
            have behind : (more ++ gap :: rest).drop ((first :: more).length + moved.length) =
                rest.dropWhile isNotNewline := by
              have skipped : (more ++ gap :: rest).drop (first :: more).length = rest := by
                rw [List.append_cons, List.length_cons]
                exact List.drop_left' (by simp)
              rw [← List.drop_drop, skipped]
              exact drop_taken isNotNewline rest
            rw [if_pos column, List.cons_append, reorder, Bytes.sweep_edit findToken first _ _ found, behind]
            rfl
      · have found : findToken first (more ++ after) = some ⟨first :: more, more.length⟩ := by
          rw [findToken, ← List.cons_append, split]
          simp only [column]
          rfl
        rw [if_neg column, List.cons_append, reorder, Bytes.sweep_edit findToken first _ _ found, List.drop_left,
          List.cons_append]

theorem reorder_moves (mark run rest : Bytes) (token : Token mark run (space :: rest)) (present : rest ≠ [])
    (unbroken : newline ∉ rest) : reorder (mark ++ run ++ space :: rest) = rest ++ (mark ++ run) := by
  have parts := List.takeWhile_append_dropWhile (p := isNotNewline) (l := rest)
  have left := drop_unbroken rest unbroken
  rw [left, List.append_nil] at parts
  rw [reorder_token mark run _ token, if_pos (gap_starts_column rest present unbroken), List.drop_one, List.tail_cons,
    parts, left]
  exact List.append_nil _

theorem token_stop (text : Bytes) : ∀ byte ∈ (text.dropWhile isTokenByte).head?, isTokenByte byte = false := by
  intro byte first
  have stopped := List.head?_dropWhile_not isTokenByte text
  rw [Option.mem_def.mp first] at stopped
  simpa using stopped

theorem column_behind (after : Bytes) (column : startsColumn after = true) :
    ∃ rest, rest ≠ [] ∧ after = space :: rest := by
  match after, column with
  | gap :: next :: more, column =>
      have same : gap = space := by simpa using (Bool.and_eq_true_iff.mp column).1
      exact ⟨next :: more, List.cons_ne_nil next more, by rw [same]⟩

end OpcodeTable.Rule
