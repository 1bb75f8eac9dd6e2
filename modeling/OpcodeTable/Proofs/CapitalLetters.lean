import OpcodeTable.Proofs.Linewise
import OpcodeTable.Proofs.LoweredBytes
import OpcodeTable.Proofs.OperandScan

/-!
A later entry of the operand table replaces no part of a code that is there, but for the `1` of one of
them, and its own code puts the `1` back.
-/

set_option autoImplicit false

namespace OpcodeTable.Rule

open Bytes (Edit comma sweep replaceAll)

def isCapital (byte : UInt8) : Bool := 0x41 ≤ byte && byte ≤ 0x5A

def InCode (table : List Operand) (front : Bytes) (byte : UInt8) (back : Bytes) : Prop :=
  ∃ entry ∈ table, ∃ before after, entry.code = before ++ byte :: after ∧ before <:+ front ∧ after <+: back

def Coded (table : List Operand) (text : Bytes) : Prop :=
  ∀ front letter back, text = front ++ letter :: back → isCapital letter = true → InCode table front letter back

-- No target starts inside a code. Where the start of a code is the end of a target, it is the end of what
-- is written for the target as well.
structure Preserving (table : List Operand) : Prop where
  present : ∀ entry ∈ table, entry.target ≠ []
  apart : ∀ entry ∈ table, ∀ other ∈ table, ∀ n < other.code.length, Apart entry.target (other.code.drop n)
  ends : ∀ entry ∈ table, ∀ other ∈ table, ∀ n < other.code.length,
    other.code.take n <:+ entry.target → other.code.take n <:+ entry.code

-- A text ends with the start of a code only where another one does, too.
def EndsAlike (table : List Operand) (front out : Bytes) : Prop :=
  ∀ other ∈ table, ∀ n < other.code.length, other.code.take n <:+ front → other.code.take n <:+ out

theorem EndsAlike.byte {table : List Operand} {front out : Bytes} (alike : EndsAlike table front out) (byte : UInt8) :
    EndsAlike table (front ++ [byte]) (out ++ [byte]) := by
  intro other member n inside ends
  cases n with
  | zero => exact List.nil_suffix
  | succ n =>
      have shorter : n < other.code.length := Nat.lt_of_succ_lt inside
      rw [List.take_succ_eq_append_getElem shorter, List.suffix_concat_iff] at ends ⊢
      refine ends.imp_right ?_
      rintro ⟨start, split, before⟩
      obtain ⟨rfl, same⟩ := List.append_inj' split rfl
      exact ⟨_, by rw [same], alike other member n shorter before⟩

theorem EndsAlike.written {table : List Operand} (preserving : Preserving table) (entry : Operand)
    (listed : entry ∈ table) (front out : Bytes) : EndsAlike table (front ++ entry.target) (out ++ entry.code) := by
  intro other member n inside ends
  rcases List.suffix_or_suffix_of_suffix ends (List.suffix_append front entry.target) with within | ⟨first, split⟩
  · exact List.suffix_append_of_suffix (preserving.ends entry listed other member n inside within)
  · -- The target would stand inside the code.
    have short : first.length < other.code.length := by
      have size := congrArg List.length split
      have some := List.length_pos_iff.mpr (preserving.present entry listed)
      rw [List.length_append, List.length_take] at size
      omega
    have whole : other.code = first ++ (entry.target ++ other.code.drop n) := by
      rw [← List.append_assoc, split, List.take_append_drop]
    have start : entry.target <+: other.code.drop first.length :=
      ⟨other.code.drop n, ((congrArg (List.drop first.length) whole).trans List.drop_left).symm⟩
    exact absurd start (preserving.apart entry listed other member first.length short).1

theorem apply_target (entry : Operand) (present : entry.target ≠ []) (behind : Bytes) :
    entry.apply (entry.target ++ behind) = entry.code ++ entry.apply behind := by
  rw [← scan_one, ← scan_one]
  exact scan_target [entry] (List.pairwise_singleton _ _) entry List.mem_cons_self present behind

-- What a code goes on with behind one of its letters stays behind the letter.
theorem code_follows {table : List Operand} (preserving : Preserving table) (entry other : Operand)
    (listed : entry ∈ table) (member : other ∈ table) (before after rest : Bytes) (letter : UInt8)
    (code : other.code = before ++ letter :: after) (start : after <+: rest) : after <+: entry.apply rest := by
  obtain ⟨behind, rfl⟩ := start
  have apart : ∀ n < after.length, Apart entry.target (after.drop n) := by
    intro n inside
    have later := preserving.apart entry listed other member (before.length + 1 + n) (by simp [code]; omega)
    rwa [← List.drop_drop, code, List.append_cons, List.drop_left' (by simp)] at later
  have kept := scan_keep [entry] after behind (by simpa using apart)
  rw [← scan_one, kept]
  exact List.prefix_append after _

theorem in_code_copied {table : List Operand} (preserving : Preserving table) (entry : Operand) (listed : entry ∈ table)
    (front out rest : Bytes) (letter : UInt8) (alike : EndsAlike table front out) (inside : InCode table front letter rest) :
    InCode table out letter (entry.apply rest) := by
  obtain ⟨other, member, before, after, code, ends, follows⟩ := inside
  have part : other.code.take before.length = before := by rw [code, List.take_left]
  have again := alike other member before.length (by simp [code])
  rw [part] at again
  exact ⟨other, member, before, after, code, again ends,
    code_follows preserving entry other listed member before after rest letter code follows⟩

-- The walk of an entry over a text, `front` being what it has passed and `out` what it has written.
theorem apply_in_code {table : List Operand} (preserving : Preserving table) (entry : Operand) (listed : entry ∈ table)
    (front out text : Bytes) (alike : EndsAlike table front out) (coded : Coded table (front ++ text))
    (start : Bytes) (letter : UInt8) (back : Bytes) (split : entry.apply text = start ++ letter :: back)
    (capital : isCapital letter = true) : InCode table (out ++ start) letter back := by
  induction counted : text.length using Nat.strongRecOn generalizing front out text start with
  | _ size ih =>
      cases text with
      | nil => exact absurd split.symm (List.append_ne_nil_of_right_ne_nil start (List.cons_ne_nil letter back))
      | cons byte rest =>
          by_cases hit : entry.target <+: byte :: rest
          · obtain ⟨behind, whole⟩ := hit
            have some := List.length_pos_iff.mpr (preserving.present entry listed)
            have shorter : behind.length < size := by
              rw [← counted, ← whole, List.length_append]
              omega
            have later (more : Bytes) (remains : entry.apply behind = more ++ letter :: back) :
                InCode table (out ++ (entry.code ++ more)) letter back := by
              rw [← List.append_assoc]
              refine ih behind.length shorter (front ++ entry.target) (out ++ entry.code) behind ?_ ?_ more remains rfl
              · exact EndsAlike.written preserving entry listed front out
              · rwa [List.append_assoc, whole]
            rw [← whole, apply_target entry (preserving.present entry listed), List.append_eq_append_iff] at split
            rcases split with ⟨more, rfl, remains⟩ | ⟨word, code, last⟩
            · exact later more remains
            · cases word with
              | nil =>
                  have again := later [] last.symm
                  rwa [List.append_nil, code, List.append_nil] at again
              | cons first more =>
                  obtain ⟨rfl, rfl⟩ := List.cons.inj last
                  exact ⟨entry, listed, start, more, code, List.suffix_append out start, List.prefix_append more _⟩
          · have kept : entry.apply (byte :: rest) = byte :: entry.apply rest :=
              replace_miss entry.target entry.code byte rest hit
            rw [kept, List.cons_eq_append_iff] at split
            rcases split with ⟨rfl, same⟩ | ⟨more, rfl, later⟩
            · obtain ⟨rfl, rfl⟩ := List.cons.inj same
              rw [List.append_nil]
              exact in_code_copied preserving entry listed front out rest letter alike (coded front letter rest rfl capital)
            · rw [List.append_cons]
              refine ih rest.length (by rw [← counted]; simp) (front ++ [byte]) (out ++ [byte]) rest (alike.byte byte) ?_
                more later rfl
              rwa [← List.append_cons]

theorem apply_coded {table : List Operand} (preserving : Preserving table) (entry : Operand) (listed : entry ∈ table)
    (text : Bytes) (coded : Coded table text) : Coded table (entry.apply text) := by
  intro front letter back split capital
  have alike : EndsAlike table [] [] := fun _ _ _ _ ends => ends
  exact apply_in_code preserving entry listed [] [] text alike coded front letter back split capital

theorem apply_operands_coded {table : List Operand} (preserving : Preserving table) (text : Bytes)
    (coded : Coded table text) : Coded table (applyOperands table text) := by
  apply List.foldlRecOn table (fun text entry => entry.apply text) coded
  intro before held entry listed
  exact apply_coded preserving entry listed before held

theorem operands_preserving : Preserving operands :=
  ⟨operands_saturating.present, by decide +kernel, by decide +kernel⟩

theorem coded_letter (table : List Operand) (text : Bytes) (coded : Coded table text) (byte : UInt8)
    (member : byte ∈ text) (capital : isCapital byte = true) : ∃ entry ∈ table, byte ∈ entry.code := by
  obtain ⟨front, back, rfl⟩ := List.append_of_mem member
  obtain ⟨entry, listed, before, after, code, _, _⟩ := coded front byte back rfl capital
  exact ⟨entry, listed, by simp [code]⟩

theorem code_letters : ∀ entry ∈ operands, ∀ byte ∈ entry.code, isCapital byte = true → byte ∈ ascii "ABCDILMR" := by
  have capitals : ∀ entry ∈ operands, entry.code.filter isCapital ⊆ ascii "ABCDILMR" := by decide
  intro entry member byte inside capital
  exact capitals entry member (List.mem_filter.mpr ⟨inside, capital⟩)

theorem lowercase_no_capital (text : Bytes) : ∀ byte ∈ lowercase text, isCapital byte = false := by
  have low (byte : UInt8) : isCapital byte = true → byte < 0x80 := by
    apply Bytes.every_byte _ byte
    decide +kernel
  have lowers (byte : UInt8) : isCapital (lowerLetter byte) = false := by
    apply Bytes.every_byte _ byte
    decide +kernel
  intro byte member
  rw [← Bool.not_eq_true]
  intro capital
  rcases lowercase_bytes text byte member (low byte capital) with lowered | letter
  · obtain ⟨own, _, rfl⟩ := List.mem_map.mp lowered
    rw [lowers own] at capital
    cases capital
  · have small : (ascii "ik").filter isCapital = [] := by decide
    exact List.filter_eq_nil_iff.mp small byte letter capital

theorem commas_removed (text : Bytes) : replaceAll [comma] [] text = text.filter (· != comma) := by
  induction text with
  | nil => rfl
  | cons byte rest ih =>
      by_cases same : byte = comma
      · rw [replace_hit [comma] [] byte rest (by simp [same]), List.filter_cons_of_neg (by simp [same]), ← ih]
        rfl
      · rw [replace_miss [comma] [] byte rest (by simp [Ne.symm same]), List.filter_cons_of_pos (by simp [same]), ih]

theorem sweep_subset (find : UInt8 → Bytes → Option Edit)
    (own : ∀ byte rest edit, find byte rest = some edit → edit.code ⊆ byte :: rest) (text : Bytes) :
    sweep find text ⊆ text := by
  induction counted : text.length using Nat.strongRecOn generalizing text with
  | _ size ih =>
      cases text with
      | nil => exact List.Subset.refl []
      | cons byte rest =>
          cases found : find byte rest with
          | none =>
              rw [Bytes.sweep_keep find byte rest found]
              exact List.cons_subset_cons byte (ih rest.length (by rw [← counted]; simp) rest rfl)
          | some edit =>
              have shorter : (rest.drop edit.more).length < size := by
                rw [← counted, List.length_drop, List.length_cons]
                omega
              rw [Bytes.sweep_edit find byte rest edit found]
              have later := List.Subset.trans (ih _ shorter (rest.drop edit.more) rfl) (List.drop_subset edit.more rest)
              exact List.append_subset.mpr ⟨own byte rest edit found, List.subset_cons_of_subset byte later⟩

theorem reorder_subset (text : Bytes) : reorder text ⊆ text := by
  apply sweep_subset
  intro byte rest edit found
  have parts := split_token_parts (byte :: rest)
  rw [findToken] at found
  rcases split : splitToken (byte :: rest) with ⟨token, after⟩
  simp only [split] at found parts
  rw [← parts]
  cases token with
  | nil => cases found
  | cons first more =>
      simp only at found
      split at found
      · cases found
        have column := (List.takeWhile_sublist isNotNewline).trans (List.drop_sublist 1 after)
        have behind := List.Subset.trans column.subset (List.subset_append_right (first :: more) after)
        exact List.append_subset.mpr ⟨behind, List.subset_append_left _ after⟩
      · cases found
        exact List.subset_append_left _ after

theorem eight_rules (row : Bytes) :
    applyAll (chain.take 8) row = replaceOperands (lowercase (joinSubcodes (applyAll (chain.take 5) row))) := by
  simp only [applyAll, chain, List.take_succ_cons, List.take_zero, List.foldl_cons, List.foldl_nil]

theorem normalize_alphabet (row : Bytes) :
    comma ∉ normalize row ∧ (∀ byte ∈ normalize row, isCapital byte = true → byte ∈ ascii "ABCDILMR") ∧
      Coded operands (applyAll (chain.take 8) row) := by
  have coded : Coded operands (applyAll (chain.take 8) row) := by
    rw [eight_rules]
    apply apply_operands_coded operands_preserving
    intro front letter back split capital
    rw [lowercase_no_capital _ letter (by rw [split]; simp)] at capital
    cases capital
  have kept : ∀ byte ∈ normalize row, byte ∈ applyAll (chain.take 8) row ∧ byte ≠ comma := by
    intro byte member
    rw [normalize_after 5, later_rules, ← eight_rules, commas_removed] at member
    obtain ⟨inside, other⟩ := List.mem_filter.mp (reorder_subset _ member)
    exact ⟨inside, bne_iff_ne.mp other⟩
  refine ⟨fun member => (kept comma member).2 rfl, ?_, coded⟩
  intro byte member capital
  obtain ⟨entry, listed, inside⟩ := coded_letter operands _ coded byte (kept byte member).1 capital
  exact code_letters entry listed byte inside capital

example : normalize (ascii "D3 /4 SHL r/m32, CL") = ascii "shl MC L1Ad3/4" := by decide +kernel

end OpcodeTable.Rule
