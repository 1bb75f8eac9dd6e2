import OpcodeTable.Proofs.ColumnRuns

set_option autoImplicit false

namespace OpcodeTable.Rule

open Bytes (newline space)
open Utf8 (Glyph encode glyphs Settled basic)
open Pattern (Piece parts replaceAll)

-- A run of the letters `R`, `M`, `I`, `D`, a gap, and the rest of the line.
def trailingColumns : List (Piece Glyph) := ⟨basic isEncodingLetter, .atLeastOnce⟩ :: columnPieces

theorem columns_keep (byte : UInt8) (rest : Bytes) (closed : opensColumn isEncodingLetter (byte :: rest) = false) :
    removeTrailingColumns (byte :: rest) = byte :: removeTrailingColumns rest := by
  cases starts : isEncodingLetter byte with
  | false => exact columns_other byte rest starts
  | true =>
      obtain ⟨run, after, split, whole⟩ := Pattern.run_at isEncodingLetter byte rest starts
      have alone : startsColumn after = false := by rwa [← opens_column_run _ run after whole, ← split]
      obtain ⟨first, more, rfl⟩ := List.exists_cons_of_ne_nil whole.present
      rw [List.cons_append, List.cons.injEq] at split
      obtain ⟨rfl, rfl⟩ := split
      apply kept_in_run removeTrailingColumns isEncodingLetter byte more after whole
      exact fun run letters => columns_stay run after ⟨letters.present, letters.accepted, letters.stop⟩ alone

theorem columns_open (byte : UInt8) (rest : Bytes) (opens : opensColumn isEncodingLetter (byte :: rest) = true) :
    removeTrailingColumns (byte :: rest) = removeTrailingColumns (rest.dropWhile isNotNewline) := by
  obtain ⟨starts, column⟩ := Bool.and_eq_true_iff.mp opens
  have found : findTrailingColumns byte rest = some ⟨[], (rest.takeWhile isNotNewline).length⟩ := by
    simp [findTrailingColumns, starts, column]
  rw [removeTrailingColumns, Bytes.sweep_edit _ byte rest _ found, drop_taken]
  rfl

def ColumnsCut (segment result : Bytes) : Prop :=
  (∃ run rest, FirstColumnRun isEncodingLetter segment result run rest) ∨
    (NoColumnRun isEncodingLetter segment ∧ result = segment)

theorem columns_cut (segment : Bytes) (unbroken : newline ∉ segment) :
    ColumnsCut segment (removeTrailingColumns segment) := by
  induction segment with
  | nil => exact Or.inr ⟨no_column_run_nil isEncodingLetter, rfl⟩
  | cons byte rest ih =>
      have smooth : newline ∉ rest := fun member => unbroken (List.mem_cons_of_mem byte member)
      cases opens : opensColumn isEncodingLetter (byte :: rest) with
      | true =>
          obtain ⟨column, _, first⟩ := first_column_run_here isEncodingLetter byte rest opens
          rw [columns_open byte rest opens, drop_unbroken rest smooth]
          exact Or.inl ⟨_, column, first⟩
      | false =>
          rw [columns_keep byte rest opens]
          rcases ih smooth with ⟨run, column, first⟩ | ⟨none, same⟩
          · exact Or.inl ⟨run, column, first_column_run_cons rfl byte rest _ run column unbroken opens first⟩
          · exact Or.inr ⟨no_column_run_cons rfl byte rest unbroken opens none, by rw [same]⟩

def ColumnFree (text : Bytes) : Prop :=
  ¬ ∃ letter ∈ ascii "RMID", ∃ next, next ≠ newline ∧ [letter, space, next] <:+: text

theorem encoding_letter_iff (byte : UInt8) : isEncodingLetter byte = true ↔ byte ∈ ascii "RMID" := by
  have letters : ascii "RMID" = [0x52, 0x4D, 0x49, 0x44] := rfl
  simp [isEncodingLetter, letters, or_assoc]

theorem opened_column (text : Bytes) (opens : opensColumn isEncodingLetter text = true) : ¬ ColumnFree text := by
  cases text with
  | nil => cases opens
  | cons byte rest =>
      obtain ⟨column, behind, first⟩ := first_column_run_here isEncodingLetter byte rest opens
      obtain ⟨next, more, rfl⟩ := List.exists_cons_of_ne_nil first.more
      have starts := (Bool.and_eq_true_iff.mp opens).2
      rw [behind] at starts
      have line : next ≠ newline := by simpa [startsColumn, isNotNewline] using starts
      obtain ⟨others, last, run⟩ := (List.eq_nil_or_concat _).resolve_left first.present
      have split := first.split
      rw [run] at split
      have letter := first.letters last (by rw [run]; simp)
      intro free
      exact free ⟨last, (encoding_letter_iff last).mp letter, next, line, others, more, by rw [split]; simp⟩

theorem columns_column (letter : UInt8) (rest : Bytes) (next : UInt8) (line : next ≠ newline)
    (starts : isEncodingLetter letter = true) (closed : opensColumn isEncodingLetter (letter :: rest) = false) :
    ¬ [space, next] <+: removeTrailingColumns rest := by
  intro behind
  cases rest with
  | nil => exact absurd (List.prefix_nil.mp behind) (List.cons_ne_nil _ _)
  | cons first more =>
      cases opens : opensColumn isEncodingLetter (first :: more) with
      | true =>
          obtain ⟨again, column⟩ := Bool.and_eq_true_iff.mp opens
          simp [opensColumn, starts, List.dropWhile_cons_of_pos again, column] at closed
      | false =>
          rw [columns_keep first more opens, List.cons_prefix_cons] at behind
          obtain ⟨rfl, behind⟩ := behind
          have gap : (space :: more).dropWhile isEncodingLetter = space :: more := rfl
          rw [opensColumn, starts, gap, Bool.true_and] at closed
          cases more with
          | nil => exact absurd (List.prefix_nil.mp behind) (List.cons_ne_nil _ _)
          | cons second others =>
              have ended : second = newline := by simpa [startsColumn, isNotNewline] using closed
              rw [ended, columns_other newline others rfl, List.cons_prefix_cons] at behind
              exact line behind.1

theorem columns_free (text : Bytes) : ColumnFree (removeTrailingColumns text) := by
  induction counted : text.length using Nat.strongRecOn generalizing text with
  | _ size ih =>
      cases text with
      | nil =>
          rintro ⟨letter, _, next, _, inside⟩
          simp [removeTrailingColumns, Bytes.sweep_nil] at inside
      | cons byte rest =>
          cases opens : opensColumn isEncodingLetter (byte :: rest) with
          | true =>
              have shorter : (rest.dropWhile isNotNewline).length < size := by
                have less := (List.dropWhile_suffix isNotNewline (l := rest)).length_le
                rw [← counted, List.length_cons]
                omega
              rw [columns_open byte rest opens]
              exact ih _ shorter _ rfl
          | false =>
              have later := ih rest.length (by rw [← counted]; simp) rest rfl
              rw [columns_keep byte rest opens]
              rintro ⟨letter, encoding, next, line, inside⟩
              rcases List.infix_cons_iff.mp inside with start | after
              · obtain ⟨rfl, behind⟩ := List.cons_prefix_cons.mp start
                have starts := (encoding_letter_iff letter).mpr encoding
                exact absurd behind (columns_column letter rest next line starts opens)
              · exact later ⟨letter, encoding, next, line, after⟩

theorem free_kept (text : Bytes) (free : ColumnFree text) : removeTrailingColumns text = text := by
  induction text with
  | nil => rfl
  | cons byte rest ih =>
      have closed : opensColumn isEncodingLetter (byte :: rest) = false := by
        rw [← Bool.not_eq_true]
        exact fun opens => opened_column _ opens free
      have later : ColumnFree rest := by
        rintro ⟨letter, encoding, next, line, inside⟩
        exact free ⟨letter, encoding, next, line, inside.trans (List.suffix_cons byte rest).isInfix⟩
      rw [columns_keep byte rest closed, ih later]

theorem letters_agree : Utf8.Agree isEncodingLetter (basic isEncodingLetter) := by
  apply Utf8.basic_agree
  intro byte
  apply Bytes.every_byte _ byte
  decide +kernel

theorem letter_no_gap (glyph : Glyph) (letter : basic isEncodingLetter glyph = true) :
    basic (· == space) glyph = false := by
  cases gap : basic (· == space) glyph with
  | false => rfl
  | true =>
      rw [Utf8.only_character space glyph gap] at letter
      cases letter

-- The search of the pattern and that of the rule go through the same characters.
theorem columns_replaced (text : List Glyph) (settled : ∀ glyph ∈ text, Settled glyph) :
    removeTrailingColumns (encode text) = encode (replaceAll trailingColumns (fun _ => []) text) := by
  induction counted : text.length using Nat.strongRecOn generalizing text with
  | _ size ih =>
      cases text with
      | nil => rfl
      | cons glyph rest =>
          obtain ⟨here, others⟩ := List.forall_mem_cons.mp settled
          have later := ih rest.length (by rw [← counted]; simp) rest others rfl
          cases letter : basic isEncodingLetter glyph with
          | false =>
              have missed : parts trailingColumns (glyph :: rest) = none :=
                Pattern.required_refused _ _ _ _ (by decide) (by simpa using letter)
              have idle : ∀ byte ∈ glyph.bytes, ∀ text, findTrailingColumns byte text = none := by
                intro byte member text
                have other := letters_agree glyph here byte member
                rw [letter] at other
                simp [findTrailingColumns, other]
              rw [Pattern.replace_missed _ _ glyph rest missed, Utf8.encode_cons, Utf8.encode_cons, ← later]
              exact sweep_idle findTrailingColumns glyph.bytes (encode rest) idle
          | true =>
              obtain ⟨run, after, split, whole⟩ := Pattern.run_at _ glyph rest letter
              have wholeBytes := letters_agree.run run after (by rw [← split]; exact settled) whole
              have bytes : encode (glyph :: rest) = encode run ++ encode after := by
                rw [split, Utf8.encode_append]
              have matched : parts trailingColumns (glyph :: rest) = (parts columnPieces after).map (run :: ·) := by
                rw [split]
                exact Pattern.repeated_apart _ _ _ run after whole letter_no_gap
              have behindSettled : ∀ glyph ∈ after, Settled glyph := by
                intro glyph member
                exact settled glyph (by rw [split]; exact List.mem_append_right run member)
              rcases column_read after behindSettled with ⟨none, alone⟩ | ⟨column, behind, rfl, line, some, starts⟩
              · rw [none, Option.map_none] at matched
                obtain ⟨byte, _, single, own⟩ := Utf8.basic_single _ glyph letter
                have closed : opensColumn isEncodingLetter (byte :: encode rest) = false := by
                  have same : byte :: encode rest = encode run ++ encode after := by
                    rw [← bytes, Utf8.encode_cons, single]
                    rfl
                  rw [same, opens_column_run _ _ _ wholeBytes, alone]
                rw [Pattern.replace_missed _ _ glyph rest matched, Utf8.encode_cons, Utf8.encode_cons, ← later, single]
                exact columns_keep byte (encode rest) closed
              · have shorter : behind.length < size := by
                  rw [← counted, split]
                  simp only [List.length_append, List.length_cons]
                  omega
                have line' := List.forall_mem_cons.mp behindSettled
                obtain ⟨gapped, _, left⟩ := column_bytes column behind line'.2 line
                have rest' := ih behind.length shorter behind
                  (fun glyph member => line'.2 glyph (List.mem_append_right column member)) rfl
                have cut := columns_run (encode run) (encode (.scalar space.toNat :: (column ++ behind)))
                  ⟨wholeBytes.present, wholeBytes.accepted, wholeBytes.stop⟩
                rw [if_pos starts, gapped, List.dropWhile_cons_of_pos rfl, left, rest'] at cut
                have taken : run ++ .scalar space.toNat :: (column ++ behind) =
                    [run, [.scalar space.toNat], column].flatten ++ behind := by simp
                rw [some, Option.map_some, split, taken] at matched
                have written := Pattern.replace_matched trailingColumns (fun _ => [])
                  [run, [.scalar space.toNat], column] behind (by simp) matched
                rw [bytes, gapped, cut, split, taken, written]
                rfl

theorem columns_unbroken (segment : Bytes) (unbroken : newline ∉ segment) :
    newline ∉ removeTrailingColumns segment :=
  fun member => unbroken ((columns_start segment unbroken).subset member)

-- On each text line the cut is made at the first run of encoding letters that a column follows, and
-- no such run is left for another cut.
theorem trailing_columns_cut (row : Bytes) :
    removeTrailingColumns row = encode (replaceAll trailingColumns (fun _ => []) (glyphs row)) ∧
      List.Forall₂ ColumnsCut (row.splitOn newline) ((removeTrailingColumns row).splitOn newline) ∧
      (¬ ∃ letter ∈ ascii "RMID", ∃ next, next ≠ newline ∧ [letter, space, next] <:+: removeTrailingColumns row) ∧
      removeTrailingColumns (removeTrailingColumns row) = removeTrailingColumns row := by
  have free := columns_free row
  have linewise : Linewise removeTrailingColumns := sweep_linewise findTrailingColumns trailing_columns_confined
  refine ⟨?_, segments_related removeTrailingColumns linewise ColumnsCut ?_ row, free, free_kept _ free⟩
  · rw [← columns_replaced (glyphs row) (Utf8.glyphs_settled row), Utf8.encode_glyphs]
  · exact fun segment unbroken => ⟨columns_unbroken segment unbroken, columns_cut segment unbroken⟩

example : removeTrailingColumns (ascii "80 /7 RMI x\nDR\nI 8") = ascii "80 /7 \nDR\n" := by decide

end OpcodeTable.Rule
