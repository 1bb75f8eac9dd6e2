import OpcodeTable.Proofs.Portions

set_option autoImplicit false

namespace OpcodeTable.Rule

open Utf8 (Glyph glyphs encode)

theorem lower_from_strays (bytes : Bytes) (rest : List Glyph) :
    lowerFrom false (bytes.map .stray ++ rest) [] = bytes.map .stray ++ lowerFrom false rest [] := by
  induction bytes with
  | nil => rfl
  | cons byte more ih => rw [List.map_cons, List.cons_append, lower_from_cons, List.cons_append, ← ih]; rfl

theorem lower_from_rune (inWord : Bool) (rune : Rune) (rest : List Glyph) :
    lowerFrom inWord (rune.glyphs ++ rest) [] =
      (if staysInWord inWord rune.head then lowerHere inWord rune.head rest else rune.glyphs) ++
        lowerFrom (staysInWord inWord rune.head) rest [] := by
  cases rune with
  | whole code =>
      rw [Rune.glyphs, Rune.head, List.singleton_append, lower_from_cons]
      by_cases inside : staysInWord inWord (.scalar code) = true
      · rw [if_pos inside]
      · rw [if_neg inside, lowerHere, if_neg inside]
  | broken lead tails few =>
      have outside : staysInWord inWord (.stray lead) = false := by cases inWord <;> rfl
      rw [Rune.glyphs, List.cons_append, lower_from_cons, Rune.head, lowerHere, outside, lower_from_strays]
      rfl

theorem ignorable_here (glyph : Glyph) (rest : List Glyph) (ignorable : isCaseIgnorable glyph = true) :
    lowerHere true glyph rest = [glyph] := by
  cases glyph with
  | stray byte => cases ignorable
  | scalar code =>
      have other : Glyph.scalar code ≠ .scalar capitalSigma := by
        rintro same
        rw [same] at ignorable
        revert ignorable
        decide
      have kept : lowerGlyph (.scalar code) = [.scalar code] := by
        rw [lowerGlyph, Unicode.ignorable_kept code ignorable, List.map_singleton]
      rw [lowerHere, lowerInWord, if_neg other, kept, if_pos rfl, ite_self]

theorem sigma_form_closed (reach room : Nat) (rest : List Rune)
    (fits : (encode (lowerFrom true (rest.flatMap Rune.glyphs) [])).length ≤ room) :
    sigmaForm true reach room rest =
      .ok (if casedFollows reach (rest.flatMap Rune.glyphs) then smallSigma else finalSigma) := by
  induction rest generalizing reach room with
  | nil => cases reach <;> rfl
  | cons rune more ih =>
      cases reach with
      | zero => rfl
      | succ reach =>
          have follows : casedFollows (reach + 1) ((rune :: more).flatMap Rune.glyphs) =
              if isCaseIgnorable rune.head then casedFollows reach (more.flatMap Rune.glyphs)
              else isCased rune.head := by
            cases rune <;> rfl
          rw [sigmaForm, follows]
          by_cases ignorable : isCaseIgnorable rune.head = true
          · have inside : staysInWord true rune.head = true := by simp [staysInWord, ignorable]
            have size : rune.size = (encode [rune.head]).length := by
              rw [Rune.size, Rune.bytes, rune_alone rune true inside]
            rw [List.flatMap_cons, lower_from_rune, inside, if_pos rfl, ignorable_here rune.head _ ignorable,
              Utf8.encode_append, List.length_append, ← size] at fits
            rw [if_pos ignorable, if_pos ignorable, if_pos (by omega), ih reach _ (by omega)]
          · rw [if_neg ignorable, if_neg ignorable]

theorem lower_rune_closed (inWord : Bool) (room : Nat) (rune : Rune) (rest : List Rune)
    (fits : (encode (lowerFrom inWord ((rune :: rest).flatMap Rune.glyphs) [])).length ≤ room) :
    ∃ text, lowerRune true inWord room rune rest = .ok text ∧
      lowerFrom inWord ((rune :: rest).flatMap Rune.glyphs) [] =
        text ++ lowerFrom (staysInWord inWord rune.head) (rest.flatMap Rune.glyphs) [] := by
  rw [List.flatMap_cons, lower_from_rune] at fits ⊢
  refine ⟨_, ?_, rfl⟩
  rw [Utf8.encode_append, List.length_append] at fits
  have fitted (text : List Glyph) (small : (encode text).length ≤ room) : fit room text = .ok text := if_pos small
  unfold lowerRune
  by_cases inside : staysInWord inWord rune.head = true
  · rw [if_neg (by simp [inside]), if_pos inside]
    rw [if_pos inside, inside] at fits
    by_cases sigma : (inWord && rune.head == .scalar capitalSigma) = true
    · rw [Bool.and_eq_true, beq_iff_eq] at sigma
      have written : lowerHere inWord rune.head (rest.flatMap Rune.glyphs) =
          [.scalar (if casedFollows sigmaReach (rest.flatMap Rune.glyphs) then smallSigma else finalSigma)] := by
        rw [lowerHere, inside, sigma.1, lowerInWord, if_pos sigma.2]
        rfl
      have size : (encode (lowerHere inWord rune.head (rest.flatMap Rune.glyphs))).length = 2 := by
        rw [written]
        split <;> rfl
      have final : (encode [.scalar finalSigma]).length = 2 := rfl
      rw [if_pos (by simp [sigma]), fitted [.scalar finalSigma] (by omega)]
      simp only [bind, Except.bind]
      rw [sigma_form_closed _ _ _ (by omega), written]
      rfl
    · have written : lowerHere inWord rune.head (rest.flatMap Rune.glyphs) = lowerGlyph rune.head := by
        rw [lowerHere, if_pos inside]
        cases inWord with
        | false => rfl
        | true => rw [if_pos rfl, lowerInWord, if_neg (by simpa using sigma)]
      rw [written] at fits ⊢
      rw [if_neg sigma, fitted _ (by omega)]
  · rw [if_pos (by simp [inside]), if_neg inside]
    rw [if_neg inside] at fits
    exact fitted rune.glyphs (by omega)

theorem convert_closed (inWord : Bool) (room : Nat) (text : List Rune)
    (fits : (encode (lowerFrom inWord (text.flatMap Rune.glyphs) [])).length ≤ room) :
    convert true inWord room text = ⟨text, lowerFrom inWord (text.flatMap Rune.glyphs) [], false⟩ := by
  induction text generalizing inWord room with
  | nil => rfl
  | cons rune rest ih =>
      obtain ⟨here, made, split⟩ := lower_rune_closed inWord room rune rest fits
      rw [split, Utf8.encode_append, List.length_append] at fits
      rw [convert, made]
      simp only
      rw [ih _ _ (by omega), split]

theorem lowercase_one_portion (row : Bytes) (short : row.length ≤ portionSize)
    (fits : (fullLowercase row).length ≤ portionSize) : lowercase row = fullLowercase row := by
  rw [fullLowercase, ← runes_glyphs] at fits ⊢
  have called := convert_closed false portionSize (runes row) fits
  rw [lowercase]
  cases text : runes row with
  | nil => rfl
  | cons rune rest =>
      rw [text] at called
      have whole : Buffer.call ⟨row.length, 0, none⟩ (rune :: rest) =
          ⟨rune :: rest, lowerFrom false ((rune :: rest).flatMap Rune.glyphs) [], false⟩ :=
        (if_pos short).trans called
      have beyond (buffer : Buffer) (text : List Rune) : lowerPortions row.length text.length buffer text = [] := by
        induction text with
        | nil => rfl
        | cons _ _ ih => exact ih
      rw [lowerPortions, Buffer.next, whole]
      simp only [Bool.false_and, Bool.false_eq_true, if_false, List.length_cons, Nat.add_sub_cancel, beyond,
        List.append_nil]

-- What rules the portions out of account.
def Undivided (row : Bytes) : Prop :=
  .scalar capitalSigma ∉ glyphs row ∨ row.length ≤ portionSize ∧ (fullLowercase row).length ≤ portionSize

theorem lowercase_undivided (row : Bytes) (undivided : Undivided row) : lowercase row = fullLowercase row := by
  rcases undivided with settled | ⟨short, fits⟩
  · exact (lowercase_lowered row).unique (full_lowercase_lowered row) settled
  · exact lowercase_one_portion row short fits

-- With one more byte in front of it, the capital sigma of this row is the end of a portion.
def sigmaRow : Bytes := ascii "A" ++ List.replicate 124 0x61 ++ [0xCE, 0xA3] ++ ascii " b"

def loweredRow (sigma : Bytes) : Bytes := List.replicate 125 0x61 ++ sigma ++ ascii " b"

theorem sigma_row_lowered : lowercase sigmaRow = loweredRow [0xCF, 0x82] ∧
    ∀ first ∈ [Bytes.newline, 0x77], lowercase (first :: sigmaRow) = first :: loweredRow [0xCF, 0x83] := by
  decide +kernel

end OpcodeTable.Rule
