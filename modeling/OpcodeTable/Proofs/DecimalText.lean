import OpcodeTable.Yaml.Node

set_option autoImplicit false

namespace OpcodeTable

namespace Text

theorem digit_value (c : Char) (digit : c.isDigit = true) :
    digitValue? c = some (c.toNat - '0'.toNat) ∧ c.toNat - '0'.toNat < 10 := by
  obtain ⟨least, most⟩ := Char.isDigit_iff_toNat.mp digit
  have within : '0' ≤ c ∧ c ≤ '9' := ⟨UInt32.le_iff_toNat_le.mpr least, UInt32.le_iff_toNat_le.mpr most⟩
  have zero : '0'.toNat = 48 := rfl
  have nine : '9'.toNat = 57 := rfl
  refine ⟨?_, by omega⟩
  rw [digitValue?, if_pos within]
  rfl

theorem digits_from (text : List Char) (digits : ∀ c ∈ text, c.isDigit = true) (value : Nat) :
    digitsFrom 10 text value = some (Nat.ofDigitChars 10 text value) := by
  induction text generalizing value with
  | nil => rfl
  | cons c rest ih =>
      obtain ⟨here, later⟩ := List.forall_mem_cons.mp digits
      obtain ⟨read, small⟩ := digit_value c here
      rw [digitsFrom, read, Nat.ofDigitChars_cons, Nat.mul_comm 10 value]
      dsimp only
      rw [if_pos small, ih later]

section Canonical

variable (number : Nat)

theorem canonical_digits : ∀ c ∈ Nat.toDigits 10 number, c.isDigit = true :=
  fun _ member => Nat.isDigit_of_mem_toDigits (by decide) (by decide) member

theorem canonical_plain (mark : Char) (other : mark.isDigit = false) : mark ∉ Nat.toDigits 10 number := by
  intro member
  rw [canonical_digits number mark member] at other
  cases other

theorem leading_digit (positive : 0 < number) : (Nat.toDigits 10 number).head? ≠ some '0' := by
  have first : ∀ digit < 10, 0 < digit → [Nat.digitChar digit].head? ≠ some '0' := by decide
  induction number using Nat.strongRecOn with
  | _ number ih =>
      by_cases single : number < 10
      · rw [Nat.toDigits_of_lt_base single]
        exact first number single positive
      · have shorter := ih (number / 10) (by omega) (by omega)
        obtain ⟨first, more, split⟩ := List.exists_cons_of_ne_nil (Nat.toDigits_ne_nil (n := number / 10) (b := 10))
        rw [Nat.toDigits_of_base_le (by decide) (by omega), split, List.cons_append]
        rwa [split] at shorter

theorem numeral_canonical : Numeral.of (Nat.toDigits 10 number) = ⟨10, false, Nat.toDigits 10 number⟩ := by
  by_cases zero : number = 0
  · subst zero
    rfl
  · have leading := leading_digit number (by omega)
    unfold Numeral.of
    split
    · rename_i written
      rw [written]
    · rename_i written
      rw [written] at leading
      exact absurd rfl leading
    · rfl

theorem digits_canonical : digits? 10 (Nat.toDigits 10 number) = some number := by
  have filled : ¬ (Nat.toDigits 10 number).isEmpty = true := by simp [Nat.toDigits_ne_nil]
  rw [digits?, if_neg filled, digits_from _ (canonical_digits number), Nat.ofDigitChars_toDigits (by decide) (by decide)]

theorem numeral_value_canonical : (Numeral.of (Nat.toDigits 10 number)).value? = some number := by
  rw [numeral_canonical]
  exact digits_canonical number

theorem unsigned_canonical : unsigned? (Nat.toDigits 10 number) = some number := by
  have together : ¬ (Nat.toDigits 10 number).contains '_' = true := by
    rw [List.contains_iff_mem]
    exact canonical_plain number '_' (by decide)
  rw [unsigned?, numeral_canonical]
  dsimp only
  rw [if_neg together]
  exact digits_canonical number

end Canonical

theorem integer_text (number : Int) :
    (toString number).toList = (if number < 0 then ['-'] else []) ++ Nat.toDigits 10 number.natAbs := by
  rw [Int.toString_eq_repr, Int.repr_eq_if]
  by_cases negative : number < 0
  · have least : ¬ 0 ≤ number := by omega
    have same : (-number).toNat = number.natAbs := by omega
    rw [if_neg least, if_pos negative, String.toList_append, Nat.toList_repr, same]
    rfl
  · have least : 0 ≤ number := by omega
    have same : number.toNat = number.natAbs := by omega
    rw [if_pos least, if_neg negative, Nat.toList_repr, same, List.nil_append]

theorem signed_plain (read : List Char → Option Nat) (number : Nat) :
    signed read (Nat.toDigits 10 number) = (read (Nat.toDigits 10 number)).map Int.ofNat := by
  unfold signed
  split
  · rename_i written
    exact absurd (written ▸ List.mem_cons_self) (canonical_plain number '+' (by decide))
  · rename_i written
    exact absurd (written ▸ List.mem_cons_self) (canonical_plain number '-' (by decide))
  · rfl

-- However the digits are read, a sign before them does not get in the way.
theorem signed_text (read : List Char → Option Nat)
    (reads : ∀ number, read (Nat.toDigits 10 number) = some number) (number : Int) :
    signed read (toString number).toList = some number := by
  rw [integer_text]
  by_cases negative : number < 0
  · have back : -((number.natAbs : Nat) : Int) = number := by omega
    rw [if_pos negative, List.singleton_append, signed, reads]
    exact congrArg some back
  · have back : Int.ofNat number.natAbs = number := by
      rw [Int.ofNat_eq_natCast]
      omega
    rw [if_neg negative, List.nil_append, signed_plain, reads, Option.map_some, back]

theorem integer_canonical (number : Int) : integer? (toString number) = some number :=
  signed_text unsigned? unsigned_canonical number

theorem integer_text_last (number : Int) : ∃ last, (toString number).toList.getLast? = some last ∧ last.isDigit = true := by
  have filled : Nat.toDigits 10 number.natAbs ≠ [] := Nat.toDigits_ne_nil
  refine ⟨(Nat.toDigits 10 number.natAbs).getLast filled, ?_, canonical_digits _ _ (List.getLast_mem filled)⟩
  rw [integer_text, List.getLast?_append, List.getLast?_eq_some_getLast filled, Option.some_or]

end Text

namespace Yaml

open Text

theorem date_divided (text : List Char) (whole : '-' ∉ text) : Time.date? text = none := by
  have undivided : ∀ rest, rest <:+ text → Time.mark? '-' rest = none := by
    intro rest inside
    cases rest with
    | nil => rfl
    | cons c more =>
        have other : ¬ (c == '-') = true := by
          rw [beq_iff_eq]
          rintro rfl
          exact whole (inside.subset List.mem_cons_self)
        rw [Time.mark?, if_neg other]
  rw [Time.date?]
  cases year : Time.number? 4 4 text with
  | none => rfl
  | some read =>
      rw [Time.number?] at year
      split at year
      · cases year
      · obtain ⟨_, _, rfl⟩ := Option.map_eq_some_iff.mp year
        simp only [Option.bind_eq_bind, Option.bind_some, undivided _ (List.drop_suffix _ text), Option.bind_none]

theorem date_signed (digits : List Char) : Time.date? ('-' :: digits) = none := rfl

theorem integer_no_time (number : Int) : Time.ofChars? (toString number).toList = none := by
  have undated : Time.date? (toString number).toList = none := by
    rw [integer_text]
    by_cases negative : number < 0
    · rw [if_pos negative]
      exact date_signed _
    · rw [if_neg negative]
      exact date_divided _ (canonical_plain _ '-' (by decide))
  rw [Time.ofChars?, undated]

theorem integer_no_keyword (number : Int) : Scalar.keywords.lookup (toString number) = none := by
  have wordy : ∀ key ∈ Scalar.keywords.map Prod.fst, (key.toList.getLast?.any Char.isDigit) = false := by
    decide
  rw [List.lookup_eq_none_iff]
  intro entry member
  rw [bne_iff_ne]
  intro same
  obtain ⟨last, ends, digit⟩ := integer_text_last number
  have ending := wordy entry.1 (List.mem_map_of_mem member)
  rw [← same, ends, Option.any_some, digit] at ending
  cases ending

theorem integer_first (number : Int) :
    let first := (toString number).toList.headD ' '
    (first == '.') = false ∧ (first.isDigit || first == '+' || first == '-') = true := by
  rw [integer_text]
  by_cases negative : number < 0
  · rw [if_pos negative]
    exact ⟨rfl, rfl⟩
  · rw [if_neg negative, List.nil_append]
    cases written : Nat.toDigits 10 number.natAbs with
    | nil => exact absurd written Nat.toDigits_ne_nil
    | cons first rest =>
        have digit : first.isDigit = true := canonical_digits _ first (written ▸ List.mem_cons_self)
        have other : (first == '.') = false := by
          rw [beq_eq_false_iff_ne]
          rintro rfl
          cases digit
        exact ⟨other, by simp [digit]⟩

theorem integer_number (number : Int) (fits : Word.fits 64 number = true) :
    Scalar.number? (toString number) = some (.whole number) := by
  have together : Scalar.withoutUnderscores (toString number).toList = (toString number).toList := by
    rw [Scalar.withoutUnderscores, List.filter_eq_self]
    intro c member
    rw [bne_iff_ne]
    rintro rfl
    rw [integer_text, List.mem_append] at member
    rcases member with sign | digit
    · split at sign <;> simp at sign
    · exact canonical_plain _ '_' (by decide) digit
  have kept : Scalar.fits (toString number).toList number = true := by rw [Scalar.fits, fits, Bool.true_or]
  have whole : Scalar.whole? (toString number).toList = some number := by
    rw [Scalar.whole?, signed_text _ numeral_value_canonical, Option.filter_some, if_pos kept]
  rw [Scalar.number?, together]
  simp only [whole]

theorem integer_scalar (number : Int) (fits : Word.fits 64 number = true) :
    scalarValue .implicit (toString number) = some (.whole number) := by
  obtain ⟨noPoint, numeric⟩ := integer_first number
  have resolved : Scalar.resolve true (toString number) = .whole number := by
    rw [Scalar.resolve, integer_no_keyword]
    dsimp only
    rw [noPoint, numeric, integer_no_time, integer_number number fits]
    rfl
  exact congrArg some resolved

end Yaml

end OpcodeTable
