import OpcodeTable.Rule.Chain

set_option autoImplicit false

namespace OpcodeTable.Rule

open Bytes (Edit sweep)

theorem normalize_after (count : Nat) (row : Bytes) :
    normalize row = applyAll (chain.drop count) (applyAll (chain.take count) row) := by
  rw [normalize, applyAll, applyAll, applyAll, ← List.foldl_append, List.take_append_drop]

def beforeCasing (row : Bytes) : Bytes := applyAll (chain.take 6) row

def afterCasing (text : Bytes) : Bytes := applyAll (chain.drop 7) text

theorem normalize_cased (row : Bytes) : normalize row = afterCasing (lowercase (beforeCasing row)) := by
  simp only [normalize, beforeCasing, afterCasing, applyAll, chain, List.take_succ_cons, List.take_zero,
    List.drop_succ_cons, List.drop_zero, List.foldl_cons, List.foldl_nil]

theorem after_casing_rules (text : Bytes) :
    afterCasing text = reorder (Bytes.replaceAll [Bytes.comma] [] (replaceOperands text)) := by
  simp only [afterCasing, applyAll, chain, List.drop_succ_cons, List.drop_zero, List.foldl_cons, List.foldl_nil]

theorem later_rules (text : Bytes) :
    applyAll (chain.drop 5) text =
      reorder (Bytes.replaceAll [Bytes.comma] [] (replaceOperands (lowercase (joinSubcodes text)))) := by
  simp only [applyAll, chain, List.drop_succ_cons, List.drop_zero, List.foldl_cons, List.foldl_nil]

-- A text that starts across a cut has its first part before the cut and its end right behind it.
theorem start_split (target front back : Bytes) (start : target <+: front ++ back) :
    target <+: front ∨
      (front.length < target.length ∧ target.take front.length = front ∧ target.drop front.length <+: back) := by
  rcases List.prefix_or_prefix_of_prefix start (List.prefix_append front back) with inside | ⟨beyond, split⟩
  · exact Or.inl inside
  · rw [← split, List.prefix_append_right_inj] at start
    by_cases ended : beyond = []
    · rw [ended, List.append_nil] at split
      exact Or.inl (split ▸ List.prefix_rfl)
    · have some := List.length_pos_iff.mpr ended
      refine Or.inr ⟨?_, ?_, ?_⟩
      · rw [← split, List.length_append]
        omega
      · rw [← split, List.take_left]
      · rw [← split, List.drop_left]
        exact start

-- A look at a text that tells nothing about what follows the text.
def Blind {α : Type} (look : Bytes → α) (back : Bytes) : Prop := ∀ text, look (text ++ back) = look text

theorem sweep_cut (find : UInt8 → Bytes → Option Edit) (front back : Bytes)
    (blind : ∀ byte, Blind (find byte) back)
    (reach : ∀ byte text edit, find byte text = some edit → edit.more ≤ text.length) :
    sweep find (front ++ back) = sweep find front ++ sweep find back := by
  induction counted : front.length using Nat.strongRecOn generalizing front with
  | _ size ih =>
      cases front with
      | nil => rfl
      | cons byte more =>
          have same := blind byte more
          rw [List.cons_append]
          cases found : find byte more with
          | none =>
              rw [found] at same
              rw [Bytes.sweep_keep find byte _ same, Bytes.sweep_keep find byte more found, List.cons_append,
                ih more.length (by rw [← counted]; simp) more rfl]
          | some edit =>
              rw [found] at same
              have within := reach byte more edit found
              have shorter : (more.drop edit.more).length < size := by
                rw [← counted, List.length_drop, List.length_cons]
                omega
              rw [Bytes.sweep_edit find byte _ edit same, Bytes.sweep_edit find byte more edit found,
                List.drop_append_of_le_length within, ih _ shorter _ rfl, List.append_assoc]

theorem sweep_idle (find : UInt8 → Bytes → Option Edit) (front back : Bytes)
    (idle : ∀ byte ∈ front, ∀ rest, find byte rest = none) :
    sweep find (front ++ back) = front ++ sweep find back := by
  induction front with
  | nil => rfl
  | cons byte more ih =>
      obtain ⟨here, later⟩ := List.forall_mem_cons.mp idle
      rw [List.cons_append, Bytes.sweep_keep find byte _ (here _), ih later, List.cons_append]

theorem sweep_mem (find : UInt8 → Bytes → Option Edit) (text : Bytes) (byte : UInt8)
    (member : byte ∈ sweep find text) :
    byte ∈ text ∨ ∃ head rest edit, find head rest = some edit ∧ byte ∈ edit.code := by
  induction counted : text.length using Nat.strongRecOn generalizing text with
  | _ size ih =>
      cases text with
      | nil => cases member
      | cons head rest =>
          cases found : find head rest with
          | none =>
              rw [Bytes.sweep_keep find head rest found, List.mem_cons] at member
              rcases member with first | later
              · exact Or.inl (List.mem_cons.mpr (Or.inl first))
              · have inside := ih rest.length (by rw [← counted]; simp) rest later rfl
                exact inside.imp_left (List.mem_cons_of_mem head)
          | some edit =>
              rw [Bytes.sweep_edit find head rest edit found, List.mem_append] at member
              rcases member with written | later
              · exact Or.inr ⟨head, rest, edit, found, written⟩
              · have shorter : (rest.drop edit.more).length < size := by
                  rw [← counted, List.length_drop, List.length_cons]
                  omega
                have inside := ih _ shorter _ later rfl
                exact inside.imp_left fun kept => List.mem_cons_of_mem head (List.mem_of_mem_drop kept)

theorem drop_taken (keep : UInt8 → Bool) (text : Bytes) :
    text.drop (text.takeWhile keep).length = text.dropWhile keep := by
  induction text with
  | nil => rfl
  | cons byte rest ih =>
      by_cases kept : keep byte = true
      · simpa [kept] using ih
      · simp [kept]

theorem drop_spaces_cut (ahead : Bytes → Bool) (front back : Bytes) (blind : Blind ahead back) :
    dropSpaces ahead (front ++ back) = dropSpaces ahead front ++ dropSpaces ahead back := by
  induction front with
  | nil => rfl
  | cons byte more ih =>
      rw [List.cons_append, drop_spaces_cons, drop_spaces_cons, blind more, ih]
      by_cases dropped : (byte == Bytes.space && ahead more) = true
      · rw [if_pos dropped, if_pos dropped]
      · rw [if_neg dropped, if_neg dropped, List.cons_append]

theorem drop_spaces_keep (ahead : Bytes → Bool) (byte : UInt8) (rest : Bytes)
    (kept : byte ≠ Bytes.space ∨ ahead rest = false) :
    dropSpaces ahead (byte :: rest) = byte :: dropSpaces ahead rest := by
  rw [drop_spaces_cons, if_neg]
  rcases kept with other | idle
  · simp [other]
  · simp [idle]

theorem drop_spaces_pass (ahead : Bytes → Bool) (front back : Bytes) (closed : Bytes.space ∉ front) :
    dropSpaces ahead (front ++ back) = front ++ dropSpaces ahead back := by
  induction front with
  | nil => rfl
  | cons byte more ih =>
      rw [List.mem_cons, not_or] at closed
      rw [List.cons_append, drop_spaces_keep ahead byte _ (Or.inl (Ne.symm closed.1)), ih closed.2, List.cons_append]

theorem drop_spaces_sublist (ahead : Bytes → Bool) (text : Bytes) : (dropSpaces ahead text).Sublist text := by
  induction text with
  | nil => exact List.Sublist.slnil
  | cons byte rest ih =>
      rw [drop_spaces_cons]
      by_cases dropped : (byte == Bytes.space && ahead rest) = true
      · rw [if_pos dropped]
        exact ih.cons byte
      · rw [if_neg dropped]
        exact ih.cons_cons byte

end OpcodeTable.Rule
