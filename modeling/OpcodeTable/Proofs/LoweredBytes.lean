import OpcodeTable.Proofs.Portions

/-!
The basic bytes of a lower-cased text are the lower-case forms of basic bytes, but for the letters `i` and
`k`: two characters of several bytes have these in their lower-case form.
-/

set_option autoImplicit false

namespace OpcodeTable.Rule

open Bytes (newline)
open Utf8 (Glyph glyphs encode encodeScalar Beyond beyond_bytes glyphs_basic)

-- Only the kelvin sign is shifted below 0x80.
theorem shifts_beyond : ∀ entry ∈ Unicode.lowerShifts, entry.last < 0x80 ∨
    (0x80 ≤ (entry.first : Int) + entry.shift ∧ (entry.last : Int) + entry.shift < 0x200000) ∨
    (entry.first = entry.last ∧ (entry.first : Int) + entry.shift = 0x6B) := by
  decide +kernel

theorem lower_form_beyond (code : Nat) (beyond : Beyond (.scalar code)) :
    ∀ lower ∈ Unicode.lowerForm code, Beyond (.scalar lower) ∨ lower = 0x69 ∨ lower = 0x6B := by
  intro lower member
  unfold Unicode.lowerForm at member
  split at member
  · simp only [List.mem_cons, List.not_mem_nil, or_false] at member
    rcases member with rfl | rfl
    · exact Or.inr (Or.inl rfl)
    · exact Or.inl (by simp [Beyond])
  · split at member
    · rename_i shift found
      obtain ⟨entry, inside, first, last, _, rfl⟩ := Unicode.shift_entry _ code shift found
      have range := shifts_beyond entry inside
      rw [List.mem_singleton] at member
      simp only [Beyond] at beyond ⊢
      omega
    · rw [List.mem_singleton] at member
      exact Or.inl (member ▸ beyond)

theorem sigma_bytes (code : Nat) (small : code = smallSigma ∨ code = finalSigma) :
    ∀ byte ∈ (Glyph.scalar code).bytes, 0x80 ≤ byte := by
  apply beyond_bytes
  rcases small with rfl | rfl
  · simp [Beyond, smallSigma]
  · simp [Beyond, finalSigma]

theorem beyond_forms (glyph : Glyph) (beyond : Beyond glyph) (form : List Glyph) (own : form ∈ forms glyph) :
    ∀ byte ∈ encode form, 0x80 ≤ byte ∨ byte ∈ ascii "ik" := by
  intro byte member
  obtain ⟨lower, written, inside⟩ := List.mem_flatMap.mp member
  unfold forms at own
  split at own
  · have small : ∃ code, lower = .scalar code ∧ (code = smallSigma ∨ code = finalSigma) := by
      simp only [List.mem_cons, List.not_mem_nil, or_false] at own
      rcases own with rfl | rfl
      · exact ⟨smallSigma, List.mem_singleton.mp written, Or.inl rfl⟩
      · exact ⟨finalSigma, List.mem_singleton.mp written, Or.inr rfl⟩
    obtain ⟨code, rfl, form⟩ := small
    exact Or.inl (sigma_bytes code form byte inside)
  · rw [List.mem_singleton.mp own] at written
    cases glyph with
    | stray other =>
        cases List.mem_singleton.mp written
        exact Or.inl (beyond_bytes _ beyond byte inside)
    | scalar code =>
        have letters : encodeScalar 0x69 ++ encodeScalar 0x6B ⊆ ascii "ik" := by decide
        obtain ⟨lowered, read, rfl⟩ := List.mem_map.mp written
        rcases lower_form_beyond code beyond lowered read with far | rfl | rfl
        · exact Or.inl (beyond_bytes _ far byte inside)
        · exact Or.inr (letters (List.mem_append_left _ inside))
        · exact Or.inr (letters (List.mem_append_right _ inside))

theorem lowers_bytes (text letters : List Glyph) (lowers : Lowers text letters) :
    ∀ byte ∈ encode letters, ∃ glyph ∈ text, ∃ form ∈ forms glyph, byte ∈ encode form := by
  induction lowers with
  | nil => nofun
  | @cons glyph form rest out own later ih =>
      intro byte member
      rw [Utf8.encode_append, List.mem_append] at member
      rcases member with here | elsewhere
      · exact ⟨glyph, List.mem_cons_self, form, own, here⟩
      · obtain ⟨other, inside, more⟩ := ih byte elsewhere
        exact ⟨other, List.mem_cons_of_mem glyph inside, more⟩

theorem lowercase_bytes (text : Bytes) :
    ∀ byte ∈ lowercase text, byte < 0x80 → byte ∈ lowered text ∨ byte ∈ ascii "ik" := by
  intro byte member basic
  obtain ⟨letters, lowers, written⟩ := lowercase_lowered text
  rw [written] at member
  obtain ⟨glyph, read, form, own, inside⟩ := lowers_bytes (glyphs text) letters lowers byte member
  rcases glyphs_basic text glyph read with ⟨upper, present, small, rfl⟩ | beyond
  · rw [basic_forms upper small, List.mem_singleton] at own
    rw [own, encode, List.flatMap_singleton, Utf8.Glyph.bytes, (basic_letter upper small).2.1,
      List.mem_singleton] at inside
    exact Or.inl (List.mem_map.mpr ⟨upper, present, inside.symm⟩)
  · rcases beyond_forms glyph beyond form own byte inside with high | letter
    · exact absurd basic (UInt8.not_lt.mpr high)
    · exact Or.inr letter

theorem lowercase_unbroken (text : Bytes) (unbroken : newline ∉ text) : newline ∉ lowercase text := by
  have only (byte : UInt8) : lowerLetter byte = newline → byte = newline := by
    apply Bytes.every_byte _ byte
    decide +kernel
  intro member
  rcases lowercase_bytes text newline member (by decide) with lowered | letter
  · obtain ⟨byte, inside, same⟩ := List.mem_map.mp lowered
    exact unbroken (only byte same ▸ inside)
  · exact absurd letter (by decide)

end OpcodeTable.Rule
