import Mathlib.Data.List.Forall2
import OpcodeTable.Proofs.Characters
import OpcodeTable.Proofs.Linewise
import OpcodeTable.Proofs.OpcodeToken

set_option autoImplicit false

namespace OpcodeTable.Rule

open Bytes (newline space)
open Utf8 (Glyph encode Settled basic onLine)
open Pattern (Piece Run parts)

structure ColumnRun (letter : UInt8 → Bool) (segment front run rest : Bytes) : Prop where
  split : segment = front ++ run ++ space :: rest
  present : run ≠ []
  letters : ∀ byte ∈ run, letter byte = true
  whole : ∀ last ∈ front.getLast?, letter last = false
  more : rest ≠ []

structure FirstColumnRun (letter : UInt8 → Bool) (segment front run rest : Bytes) : Prop
    extends ColumnRun letter segment front run rest where
  first : ∀ before other after, ColumnRun letter segment before other after → front.length ≤ before.length

def NoColumnRun (letter : UInt8 → Bool) (segment : Bytes) : Prop :=
  ∀ front run rest, ¬ ColumnRun letter segment front run rest

def opensColumn (letter : UInt8 → Bool) : Bytes → Bool
  | [] => false
  | byte :: rest => letter byte && startsColumn (rest.dropWhile letter)

theorem opens_column_run (letter : UInt8 → Bool) (run after : Bytes) (whole : Run letter run after) :
    opensColumn letter (run ++ after) = startsColumn after := by
  have behind := whole.drop_while
  obtain ⟨first, more, rfl⟩ := List.exists_cons_of_ne_nil whole.present
  have here := whole.accepted first List.mem_cons_self
  rw [List.cons_append, List.dropWhile_cons_of_pos here] at behind
  rw [List.cons_append, opensColumn, here, behind, Bool.true_and]

section

variable {letter : UInt8 → Bool} (apart : letter space = false)

include apart

theorem column_run_opens (segment run rest : Bytes) (unbroken : newline ∉ segment)
    (found : ColumnRun letter segment [] run rest) : opensColumn letter segment = true := by
  obtain ⟨split, present, letters, _, more⟩ := found
  obtain ⟨first, others, rfl⟩ := List.exists_cons_of_ne_nil present
  obtain ⟨here, later⟩ := List.forall_mem_cons.mp letters
  subst split
  have smooth : newline ∉ rest := fun member => unbroken (by simp [member])
  have behind : (others ++ space :: rest).dropWhile letter = space :: rest := by
    rw [List.dropWhile_append_of_pos later, List.dropWhile_cons_of_neg (by simp [apart])]
  change (letter first && startsColumn ((others ++ space :: rest).dropWhile letter)) = true
  rw [here, behind, gap_starts_column rest more smooth]
  rfl

theorem column_run_tail (byte : UInt8) (text front run rest : Bytes) (unbroken : newline ∉ byte :: text)
    (closed : opensColumn letter (byte :: text) = false) (found : ColumnRun letter (byte :: text) front run rest) :
    ∃ fewer, front = byte :: fewer ∧ ColumnRun letter text fewer run rest := by
  cases front with
  | nil =>
      rw [column_run_opens apart _ run rest unbroken found] at closed
      cases closed
  | cons first fewer =>
      obtain ⟨split, present, letters, whole, more⟩ := found
      rw [List.cons_append, List.cons_append, List.cons.injEq] at split
      obtain ⟨rfl, split⟩ := split
      refine ⟨fewer, rfl, split, present, letters, ?_, more⟩
      intro last ends
      apply whole
      rw [List.getLast?_cons, Option.mem_def.mp ends]
      rfl

theorem column_run_cons (byte : UInt8) (text front run rest : Bytes) (unbroken : newline ∉ byte :: text)
    (closed : opensColumn letter (byte :: text) = false) (found : ColumnRun letter text front run rest) :
    ColumnRun letter (byte :: text) (byte :: front) run rest := by
  obtain ⟨split, present, letters, whole, more⟩ := found
  refine ⟨by rw [split]; rfl, present, letters, ?_, more⟩
  intro last ends
  cases front with
  | cons first others => exact whole last (by rwa [List.getLast?_cons_cons] at ends)
  | nil =>
      rw [List.getLast?_singleton, Option.mem_def, Option.some.injEq] at ends
      subst ends
      cases starts : letter byte with
      | false => rfl
      | true =>
          -- A letter in front of the run would be the start of it.
          have longer : ColumnRun letter (byte :: text) [] (byte :: run) rest :=
            ⟨by rw [split]; rfl, List.cons_ne_nil byte run, List.forall_mem_cons.mpr ⟨starts, letters⟩, nofun, more⟩
          rw [column_run_opens apart _ _ _ unbroken longer] at closed
          cases closed

theorem first_column_run_cons (byte : UInt8) (text front run rest : Bytes) (unbroken : newline ∉ byte :: text)
    (closed : opensColumn letter (byte :: text) = false) (found : FirstColumnRun letter text front run rest) :
    FirstColumnRun letter (byte :: text) (byte :: front) run rest := by
  refine ⟨column_run_cons apart byte text front run rest unbroken closed found.toColumnRun, ?_⟩
  intro before other after earlier
  obtain ⟨fewer, rfl, inside⟩ := column_run_tail apart byte text before other after unbroken closed earlier
  exact Nat.succ_le_succ (found.first fewer other after inside)

theorem no_column_run_cons (byte : UInt8) (text : Bytes) (unbroken : newline ∉ byte :: text)
    (closed : opensColumn letter (byte :: text) = false) (none : NoColumnRun letter text) :
    NoColumnRun letter (byte :: text) := by
  intro front run rest found
  obtain ⟨fewer, _, inside⟩ := column_run_tail apart byte text front run rest unbroken closed found
  exact none fewer run rest inside

end

theorem no_column_run_nil (letter : UInt8 → Bool) : NoColumnRun letter [] := by
  intro front run rest found
  have empty := found.split
  simp at empty

theorem first_column_run_here (letter : UInt8 → Bool) (byte : UInt8) (text : Bytes)
    (opens : opensColumn letter (byte :: text) = true) :
    ∃ rest, text.dropWhile letter = space :: rest ∧
      FirstColumnRun letter (byte :: text) [] (byte :: text.takeWhile letter) rest := by
  obtain ⟨here, column⟩ := Bool.and_eq_true_iff.mp opens
  obtain ⟨rest, more, behind⟩ := column_behind _ column
  have split : byte :: text = [] ++ (byte :: text.takeWhile letter) ++ space :: rest := by
    rw [← behind, List.nil_append, List.cons_append, List.takeWhile_append_dropWhile]
  have letters : ∀ other ∈ byte :: text.takeWhile letter, letter other = true :=
    List.forall_mem_cons.mpr ⟨here, List.all_eq_true.mp List.all_takeWhile⟩
  exact ⟨rest, behind, ⟨split, List.cons_ne_nil _ _, letters, nofun, more⟩, fun before _ _ _ => Nat.zero_le _⟩

theorem kept_in_run (rule : Bytes → Bytes) (letter : UInt8 → Bool) (byte : UInt8) (more after : Bytes)
    (whole : Run letter (byte :: more) after)
    (stays : ∀ run, Run letter run after → rule (run ++ after) = run ++ rule after) :
    rule (byte :: (more ++ after)) = byte :: rule (more ++ after) := by
  have long := stays (byte :: more) whole
  rw [List.cons_append, List.cons_append] at long
  by_cases single : more = []
  · rwa [single] at long ⊢
  · rw [long, stays more (whole.later single)]

-- What a rule makes of each text line alone it makes of all the lines of a row.
theorem segments_related (rule : Bytes → Bytes) (linewise : Linewise rule) (Related : Bytes → Bytes → Prop)
    (line : ∀ segment, newline ∉ segment → newline ∉ rule segment ∧ Related segment (rule segment)) (row : Bytes) :
    List.Forall₂ Related (row.splitOn newline) ((rule row).splitOn newline) := by
  induction counted : row.length using Nat.strongRecOn generalizing row with
  | _ size ih =>
      by_cases broken : newline ∈ row
      · obtain ⟨first, rest, rfl, unbroken⟩ := List.eq_append_cons_of_mem broken
        have shorter : rest.length < size := by
          rw [← counted, List.length_append, List.length_cons]
          omega
        obtain ⟨kept, related⟩ := line first unbroken
        rw [linewise, List.splitOn_append_cons_self_of_not_mem unbroken,
          List.splitOn_append_cons_self_of_not_mem kept]
        exact .cons related (ih rest.length shorter rest rfl)
      · obtain ⟨kept, related⟩ := line row broken
        rw [List.splitOn_eq_singleton broken, List.splitOn_eq_singleton kept]
        exact .cons related .nil

def columnPieces : List (Piece Glyph) := [⟨basic (· == space), .once⟩, ⟨onLine, .atLeastOnce⟩]

theorem column_bytes (column behind : List Glyph) (settled : ∀ glyph ∈ column ++ behind, Settled glyph)
    (line : Run onLine column behind) :
    encode (.scalar space.toNat :: (column ++ behind)) = space :: (encode column ++ encode behind) ∧
      (encode column ++ encode behind).takeWhile isNotNewline = encode column ∧
      (encode column ++ encode behind).dropWhile isNotNewline = encode behind := by
  have bytes := Utf8.on_line_agree.run column behind settled line
  refine ⟨?_, bytes.take_while, bytes.drop_while⟩
  rw [Utf8.encode_cons, Utf8.encode_append]
  rfl

theorem column_read (text : List Glyph) (settled : ∀ glyph ∈ text, Settled glyph) :
    (parts columnPieces text = none ∧ startsColumn (encode text) = false) ∨
      ∃ column behind, text = .scalar space.toNat :: (column ++ behind) ∧ Run onLine column behind ∧
        parts columnPieces text = some [[.scalar space.toNat], column] ∧ startsColumn (encode text) = true := by
  cases text with
  | nil => exact Or.inl ⟨rfl, rfl⟩
  | cons first rest =>
      obtain ⟨here, later⟩ := List.forall_mem_cons.mp settled
      cases gap : basic (· == space) first with
      | false =>
          refine Or.inl ⟨Pattern.required_refused _ _ _ _ (by decide) (by simpa using gap), ?_⟩
          obtain ⟨byte, more, same, told⟩ := (Utf8.only_agree space (by decide)).head first rest here
          rw [same]
          exact column_elsewhere byte more (by simpa [gap] using told)
      | true =>
          have taken := Pattern.once_taken _ [⟨onLine, .atLeastOnce⟩] first rest gap
          rw [← columnPieces] at taken
          rw [Utf8.only_character space first gap] at taken ⊢
          rw [taken]
          have bytes : encode (.scalar space.toNat :: rest) = space :: encode rest := rfl
          rw [bytes]
          cases rest with
          | nil => exact Or.inl ⟨rfl, rfl⟩
          | cons next others =>
              obtain ⟨byte, more, same, told⟩ := Utf8.on_line_agree.head next others (later next List.mem_cons_self)
              have starts : startsColumn (space :: encode (next :: others)) = onLine next := by
                rw [same, ← told]
                rfl
              rw [starts]
              cases line : onLine next with
              | false =>
                  refine Or.inl ⟨?_, rfl⟩
                  rw [Pattern.required_refused _ _ _ _ (by decide) (by simpa using line), Option.map_none]
              | true =>
                  obtain ⟨column, behind, split, whole⟩ := Pattern.run_at onLine next others line
                  refine Or.inr ⟨column, behind, by rw [split], whole, ?_, rfl⟩
                  rw [split, Pattern.repeated_last _ column behind whole, Option.map_some]

end OpcodeTable.Rule
