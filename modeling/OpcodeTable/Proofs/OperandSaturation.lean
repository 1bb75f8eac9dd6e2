import OpcodeTable.Rule.Operands

/-!
A code that is written into a text may complete the target of a later entry, and the later entry then
replaces it; it completes no target of an earlier entry or of its own.
-/

set_option autoImplicit false

namespace OpcodeTable.Rule

open Bytes (replaceAll findLiteral)

def Apart (a b : Bytes) : Prop := ¬ a <+: b ∧ ¬ b <+: a

instance (a b : Bytes) : Decidable (Apart a b) := inferInstanceAs (Decidable (_ ∧ _))

-- No occurrence of `word` can share a byte with an occurrence of `code`: neither runs into the other.
def Clear (word code : Bytes) : Prop :=
  (∀ n < word.length, Apart (word.drop n) code) ∧ ∀ n < code.length, Apart word (code.drop n)

instance (word code : Bytes) : Decidable (Clear word code) := inferInstanceAs (Decidable (_ ∧ _))

theorem not_start_of_apart (a b rest : Bytes) (apart : Apart a b) : ¬ a <+: b ++ rest := by
  intro start
  rcases List.prefix_or_prefix_of_prefix start (List.prefix_append b rest) with shorter | longer
  · exact apart.1 shorter
  · exact apart.2 longer

theorem infix_append_cases (word code rest : Bytes) (found : word <:+: code ++ rest) :
    word <:+: rest ∨ ∃ n < code.length, word <+: code.drop n ++ rest := by
  induction code with
  | nil => exact Or.inl found
  | cons byte more ih =>
      rw [List.cons_append, List.infix_cons_iff] at found
      rcases found with start | later
      · exact Or.inr ⟨0, by simp, start⟩
      · rcases ih later with after | ⟨n, inside, start⟩
        · exact Or.inl after
        · exact Or.inr ⟨n + 1, by simp [inside], start⟩

theorem literal_miss (target code : Bytes) (byte : UInt8) (rest : Bytes) (miss : ¬ target <+: byte :: rest) :
    findLiteral target code byte rest = none := by
  rw [findLiteral, if_neg (mt List.isPrefixOf_iff_prefix.mp miss)]

theorem literal_elsewhere (head : UInt8) (target code : Bytes) (byte : UInt8) (rest : Bytes)
    (other : byte ≠ head) : findLiteral (head :: target) code byte rest = none := by
  apply literal_miss
  intro start
  exact other (List.cons_prefix_cons.mp start).1.symm

theorem replace_miss (target code : Bytes) (byte : UInt8) (rest : Bytes) (miss : ¬ target <+: byte :: rest) :
    replaceAll target code (byte :: rest) = byte :: replaceAll target code rest := by
  apply Bytes.sweep_keep
  exact literal_miss target code byte rest miss

theorem replace_hit (target code : Bytes) (byte : UInt8) (rest : Bytes) (hit : target <+: byte :: rest) :
    replaceAll target code (byte :: rest) = code ++ replaceAll target code (rest.drop (target.length - 1)) := by
  apply Bytes.sweep_edit (findLiteral target code) byte rest ⟨code, target.length - 1⟩
  rw [findLiteral, if_pos (List.isPrefixOf_iff_prefix.mpr hit)]

theorem replace_first (kind : UInt8 → Bool) (target code : Bytes) (present : target ≠ [])
    (opens : target.head?.any kind = true → code.head?.any kind = true) (byte : UInt8) (rest : Bytes)
    (starts : kind byte = true) :
    ∃ first more, replaceAll target code (byte :: rest) = first :: more ∧ kind first = true := by
  by_cases hit : target <+: byte :: rest
  · cases target with
    | nil => exact absurd rfl present
    | cons head tail =>
        have first : code.head?.any kind = true := by
          rw [(List.cons_prefix_cons.mp hit).1] at opens
          exact opens starts
        rw [replace_hit (head :: tail) code byte rest hit]
        cases code with
        | nil => cases first
        | cons other more => exact ⟨other, _, rfl, first⟩
  · exact ⟨byte, _, replace_miss target code byte rest hit, starts⟩

theorem start_before (target code word text : Bytes) (apart : ∀ n < word.length, Apart (word.drop n) code)
    (start : word <+: replaceAll target code text) : word <+: text := by
  induction text generalizing word with
  | nil => exact start
  | cons byte rest ih =>
      cases word with
      | nil => exact List.nil_prefix
      | cons head tail =>
          by_cases hit : target <+: byte :: rest
          · rw [replace_hit target code byte rest hit] at start
            exact absurd start (not_start_of_apart _ code _ (apart 0 (by simp)))
          · rw [replace_miss target code byte rest hit, List.cons_prefix_cons] at start
            rw [List.cons_prefix_cons]
            refine ⟨start.1, ih tail ?_ start.2⟩
            intro n inside
            exact apart (n + 1) (by simp [inside])

-- A word that a code stays clear of is not in the text after a replacement when it was not there
-- before, or when it is what was replaced.
theorem absent_after_replacement (target code word text : Bytes) (present : word ≠ [])
    (clear : Clear word code) (absent : word = target ∨ ¬ word <:+: text) :
    ¬ word <:+: replaceAll target code text := by
  induction counted : text.length using Nat.strongRecOn generalizing text with
  | _ size ih =>
      have later (rest : Bytes) (behind : rest <:+ text) (shorter : rest.length < size) :
          ¬ word <:+: replaceAll target code rest := by
        refine ih rest.length shorter rest (absent.imp_right ?_) rfl
        intro missing found
        exact missing (found.trans behind.isInfix)
      cases text with
      | nil => exact fun found => present (List.infix_nil.mp found)
      | cons byte rest =>
          intro found
          by_cases hit : target <+: byte :: rest
          · rw [replace_hit target code byte rest hit] at found
            rcases infix_append_cases word code _ found with after | ⟨n, inside, start⟩
            · refine later (rest.drop (target.length - 1)) ?_ ?_ after
              · exact (List.drop_suffix _ rest).trans (List.suffix_cons byte rest)
              · rw [← counted, List.length_drop, List.length_cons]
                omega
            · exact not_start_of_apart word _ _ (clear.2 n inside) start
          · have kept := replace_miss target code byte rest hit
            rw [kept, List.infix_cons_iff, ← kept] at found
            rcases found with start | after
            · have before := start_before target code word (byte :: rest) clear.1 start
              rcases absent with same | missing
              · exact hit (same ▸ before)
              · exact missing before.isInfix
            · exact later rest (List.suffix_cons byte rest) (by simp [← counted]) after

theorem replace_absent (target code text : Bytes) (absent : ¬ target <:+: text) :
    replaceAll target code text = text := by
  induction text with
  | nil => rfl
  | cons byte rest ih =>
      rw [List.infix_cons_iff, not_or] at absent
      rw [replace_miss target code byte rest absent.1, ih absent.2]

structure Saturating (table : List Operand) : Prop where
  present : ∀ entry ∈ table, entry.target ≠ []
  own : ∀ entry ∈ table, Clear entry.target entry.code
  earlier : table.Pairwise fun first second => Clear first.target second.code

theorem absent_through (table : List Operand) (word row : Bytes) (present : word ≠ [])
    (clear : ∀ entry ∈ table, Clear word entry.code) (absent : ¬ word <:+: row) :
    ¬ word <:+: applyOperands table row := by
  induction table generalizing row with
  | nil => exact absent
  | cons entry rest ih =>
      have here := absent_after_replacement entry.target entry.code word row present
        (clear entry List.mem_cons_self) (Or.inr absent)
      exact ih (entry.apply row) (fun other member => clear other (List.mem_cons_of_mem entry member)) here

theorem saturating_absent (table : List Operand) (saturating : Saturating table) (row : Bytes) :
    ∀ entry ∈ table, ¬ entry.target <:+: applyOperands table row := by
  intro entry member
  have present := saturating.present entry member
  obtain ⟨before, after, split⟩ := List.append_of_mem member
  have order := saturating.earlier
  rw [split, List.pairwise_append, List.pairwise_cons] at order
  have replaced := absent_after_replacement entry.target entry.code entry.target (applyOperands before row)
    present (saturating.own entry member) (Or.inl rfl)
  rw [split, applyOperands, List.foldl_append]
  exact absent_through after entry.target _ present order.2.1.1 replaced

theorem apply_operands_idle (table : List Operand) (row : Bytes) (idle : ∀ entry ∈ table, entry.apply row = row) :
    applyOperands table row = row := by
  induction table with
  | nil => rfl
  | cons entry rest ih =>
      obtain ⟨here, later⟩ := List.forall_mem_cons.mp idle
      calc applyOperands (entry :: rest) row = applyOperands rest row := congrArg (applyOperands rest) here
        _ = row := ih later

theorem apply_operands_absent (table : List Operand) (row : Bytes)
    (absent : ∀ entry ∈ table, ¬ entry.target <:+: row) : applyOperands table row = row := by
  apply apply_operands_idle
  intro entry member
  exact replace_absent entry.target entry.code row (absent entry member)

theorem replace_operands_lacking (kinds text : Bytes) (few : text ⊆ kinds)
    (lacking : ∀ entry ∈ operands, ∃ byte ∈ entry.target, byte ∉ kinds) : replaceOperands text = text := by
  apply apply_operands_absent
  intro entry member found
  obtain ⟨byte, inside, other⟩ := lacking entry member
  exact other (few (found.subset inside))

theorem operands_saturating : Saturating operands := ⟨by decide, by decide, by decide +kernel⟩

theorem operands_saturated (row : Bytes) :
    (∀ entry ∈ operands, ¬ entry.target <:+: replaceOperands row) ∧
      replaceOperands (replaceOperands row) = replaceOperands row := by
  have absent := saturating_absent operands operands_saturating row
  exact ⟨absent, apply_operands_absent operands (replaceOperands row) absent⟩

-- The code of `cl` completes a target that comes later in the table, and is replaced in turn.
example : replaceOperands (ascii "shl al, cl") = ascii "shl 0A, L1A" := by decide

end OpcodeTable.Rule
