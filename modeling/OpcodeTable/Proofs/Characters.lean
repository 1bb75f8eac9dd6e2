import OpcodeTable.Proofs.Encoding
import OpcodeTable.Proofs.Patterns
import OpcodeTable.Rule.Columns

set_option autoImplicit false

namespace OpcodeTable.Utf8

open Bytes (newline)
open Pattern (Run)

def Settled (glyph : Glyph) : Prop := (∃ byte : UInt8, byte < 0x80 ∧ glyph = .scalar byte.toNat) ∨ Beyond glyph

theorem glyphs_settled (text : Bytes) : ∀ glyph ∈ glyphs text, Settled glyph := by
  intro glyph member
  refine (glyphs_basic text glyph member).imp_left ?_
  rintro ⟨byte, _, basic, same⟩
  exact ⟨byte, basic, same⟩

-- A kind of character that is told from any one byte of the character.
def Agree (accepts : UInt8 → Bool) (kind : Glyph → Bool) : Prop :=
  ∀ glyph, Settled glyph → ∀ byte ∈ glyph.bytes, accepts byte = kind glyph

def basic (accepts : UInt8 → Bool) : Glyph → Bool
  | .scalar code => decide (code < 0x80) && accepts code.toUInt8
  | .stray _ => false

def onLine (glyph : Glyph) : Bool := glyph != .scalar newline.toNat

theorem basic_agree (accepts : UInt8 → Bool) (low : ∀ byte, accepts byte = true → byte < 0x80) :
    Agree accepts (basic accepts) := by
  intro glyph settled byte member
  rcases settled with ⟨own, small, rfl⟩ | beyond
  · rw [Glyph.bytes, one_written own small, List.mem_singleton] at member
    subst member
    have number : byte.toNat < 0x80 := UInt8.lt_iff_toNat_lt.mp small
    simp [basic, number, byte_of_number byte.toNat byte rfl]
  · have high := beyond_bytes glyph beyond byte member
    have refused : accepts byte = false := by
      cases accepted : accepts byte with
      | false => rfl
      | true => exact absurd (low byte accepted) (UInt8.not_lt.mpr high)
    rw [refused]
    cases glyph with
    | stray _ => rfl
    | scalar code => simp [basic, Nat.not_lt.mpr beyond.1]

theorem basic_single (accepts : UInt8 → Bool) (glyph : Glyph) (accepted : basic accepts glyph = true) :
    ∃ byte : UInt8, glyph = .scalar byte.toNat ∧ glyph.bytes = [byte] ∧ accepts byte = true := by
  cases glyph with
  | stray _ => cases accepted
  | scalar code =>
      simp only [basic, Bool.and_eq_true, decide_eq_true_iff] at accepted
      have same : code.toUInt8.toNat = code := by
        rw [Nat.toUInt8, UInt8.toNat_ofNat', Nat.mod_eq_of_lt (by omega)]
      have small : code.toUInt8 < 0x80 := by
        rw [UInt8.lt_iff_toNat_lt, same]
        exact accepted.1
      have written := one_written code.toUInt8 small
      rw [same] at written
      exact ⟨code.toUInt8, by rw [same], written, accepted.2⟩

theorem only_character (byte : UInt8) (glyph : Glyph) (only : basic (· == byte) glyph = true) :
    glyph = .scalar byte.toNat := by
  obtain ⟨own, same, _, told⟩ := basic_single _ glyph only
  rw [same, beq_iff_eq.mp told]

theorem only_agree (byte : UInt8) (small : byte < 0x80) : Agree (· == byte) (basic (· == byte)) := by
  apply basic_agree
  intro other same
  rwa [beq_iff_eq.mp same]

theorem on_line_agree : Agree Rule.isNotNewline onLine := by
  intro glyph settled byte member
  rcases settled with ⟨own, small, rfl⟩ | beyond
  · rw [Glyph.bytes, one_written own small, List.mem_singleton] at member
    rw [Bool.eq_iff_iff]
    simp [Rule.isNotNewline, onLine, member, UInt8.toNat_inj]
  · have high := beyond_bytes glyph beyond byte member
    have other : byte ≠ newline := by
      rintro rfl
      exact absurd high (by decide)
    have apart : glyph ≠ .scalar newline.toNat := by
      rintro rfl
      exact absurd beyond.1 (by decide)
    rw [Bool.eq_iff_iff]
    simp [Rule.isNotNewline, onLine, other, apart]

variable {accepts : UInt8 → Bool} {kind : Glyph → Bool}

theorem Agree.head (agree : Agree accepts kind) (glyph : Glyph) (rest : List Glyph) (settled : Settled glyph) :
    ∃ byte more, encode (glyph :: rest) = byte :: more ∧ accepts byte = kind glyph := by
  obtain ⟨byte, more, bytes⟩ := List.exists_cons_of_ne_nil (bytes_present glyph)
  refine ⟨byte, more ++ encode rest, ?_, agree glyph settled byte (by simp [bytes])⟩
  rw [encode_cons, bytes, List.cons_append]

theorem Agree.run (agree : Agree accepts kind) (run after : List Glyph) (settled : ∀ glyph ∈ run ++ after, Settled glyph)
    (whole : Run kind run after) : Run accepts (encode run) (encode after) := by
  refine ⟨?_, ?_, ?_⟩
  · obtain ⟨glyph, more, rfl⟩ := List.exists_cons_of_ne_nil whole.present
    exact List.append_ne_nil_of_left_ne_nil (bytes_present glyph) _
  · intro byte member
    obtain ⟨glyph, inside, own⟩ := List.mem_flatMap.mp member
    rw [agree glyph (settled glyph (List.mem_append_left after inside)) byte own, whole.accepted glyph inside]
  · cases after with
    | nil => nofun
    | cons next later =>
        obtain ⟨byte, more, same, told⟩ := agree.head next later (settled next (by simp))
        intro first member
        rw [same, List.head?_cons, Option.mem_def, Option.some.injEq] at member
        rw [← member, told, whole.stop next rfl]

end OpcodeTable.Utf8
