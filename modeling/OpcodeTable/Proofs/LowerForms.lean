import OpcodeTable.Proofs.CaseTables
import OpcodeTable.Proofs.Encoding
import OpcodeTable.Rule.Lowercase

set_option autoImplicit false

namespace OpcodeTable.Rule

open Utf8 (Glyph glyphs encode)

def forms (glyph : Glyph) : List (List Glyph) :=
  if glyph = .scalar capitalSigma then [[.scalar smallSigma], [.scalar finalSigma]] else [lowerGlyph glyph]

inductive Lowers : List Glyph → List Glyph → Prop where
  | nil : Lowers [] []
  | cons {glyph : Glyph} {form rest out : List Glyph} (own : form ∈ forms glyph) (later : Lowers rest out) :
      Lowers (glyph :: rest) (form ++ out)

theorem Lowers.single {glyph : Glyph} {form : List Glyph} (own : form ∈ forms glyph) : Lowers [glyph] form := by
  have alone := Lowers.cons own .nil
  rwa [List.append_nil] at alone

theorem Lowers.append {text back out tail : List Glyph} (front : Lowers text out) (after : Lowers back tail) :
    Lowers (text ++ back) (out ++ tail) := by
  induction front with
  | nil => exact after
  | cons own _ ih =>
      rw [List.cons_append, List.append_assoc]
      exact .cons own ih

-- Only a capital sigma leaves a choice.
theorem Lowers.unique {text out other : List Glyph} (lowers : Lowers text out) (again : Lowers text other)
    (settled : .scalar capitalSigma ∉ text) : out = other := by
  induction lowers generalizing other with
  | nil =>
      cases again
      rfl
  | cons own _ ih =>
      cases again with
      | cons same later =>
          rw [List.mem_cons, not_or] at settled
          rw [forms, if_neg (Ne.symm settled.1), List.mem_singleton] at own same
          rw [own, same, ih later settled.2]

theorem lower_glyph_form (glyph : Glyph) : lowerGlyph glyph ∈ forms glyph := by
  unfold forms
  split
  · rename_i sigma
    rw [sigma]
    decide
  · exact List.mem_singleton_self _

theorem uncased_lower (glyph : Glyph) (uncased : isCased glyph = false) : lowerGlyph glyph = [glyph] := by
  cases glyph with
  | scalar code => rw [lowerGlyph, Unicode.uncased_kept code uncased, List.map_singleton]
  | stray byte => rfl

theorem uncased_form (glyph : Glyph) (uncased : isCased glyph = false) : [glyph] ∈ forms glyph := by
  have own := lower_glyph_form glyph
  rwa [uncased_lower glyph uncased] at own

theorem in_word_form (glyph : Glyph) (rest : List Glyph) : lowerInWord glyph rest ∈ forms glyph := by
  unfold lowerInWord forms
  split
  · split <;> simp
  · exact List.mem_singleton_self _

theorem outside_uncased (inWord : Bool) (glyph : Glyph) (outside : ¬ staysInWord inWord glyph = true) :
    isCased glyph = false := by
  rw [staysInWord, Bool.or_eq_true, not_or, Bool.not_eq_true] at outside
  exact outside.1

theorem lower_here_form (inWord : Bool) (glyph : Glyph) (rest : List Glyph) :
    lowerHere inWord glyph rest ∈ forms glyph := by
  unfold lowerHere
  split
  · split
    · exact in_word_form glyph rest
    · exact lower_glyph_form glyph
  · rename_i outside
    exact uncased_form glyph (outside_uncased inWord glyph outside)

theorem lower_from_lowers (inWord : Bool) (text : List Glyph) : Lowers text (lowerFrom inWord text []) := by
  induction text generalizing inWord with
  | nil => exact .nil
  | cons glyph rest ih =>
      rw [lower_from_cons]
      exact .cons (lower_here_form inWord glyph rest) (ih _)

def IsLowered (text out : Bytes) : Prop := ∃ letters, Lowers (glyphs text) letters ∧ out = encode letters

theorem full_lowercase_lowered (text : Bytes) : IsLowered text (fullLowercase text) :=
  ⟨_, lower_from_lowers false (glyphs text), rfl⟩

theorem IsLowered.unique {text out other : Bytes} (lowered : IsLowered text out) (again : IsLowered text other)
    (settled : .scalar capitalSigma ∉ glyphs text) : out = other := by
  obtain ⟨letters, lowers, rfl⟩ := lowered
  obtain ⟨others, same, rfl⟩ := again
  rw [lowers.unique same settled]

theorem IsLowered.nothing {out : Bytes} (lowered : IsLowered [] out) : out = [] := by
  obtain ⟨letters, lowers, rfl⟩ := lowered
  cases lowers
  rfl

def lowerLetter (byte : UInt8) : UInt8 := if 0x41 ≤ byte ∧ byte ≤ 0x5A then byte + 0x20 else byte

def lowered (text : Bytes) : Bytes := text.map lowerLetter

theorem basic_letter (byte : UInt8) (basic : byte < 0x80) :
    Unicode.lowerForm byte.toNat = [(lowerLetter byte).toNat] ∧
      Utf8.encodeScalar (lowerLetter byte).toNat = [lowerLetter byte] ∧ byte.toNat ≠ capitalSigma := by
  have facts : byte < 0x80 → Unicode.lowerForm byte.toNat = [(lowerLetter byte).toNat] ∧
      Utf8.encodeScalar (lowerLetter byte).toNat = [lowerLetter byte] ∧ byte.toNat ≠ capitalSigma := by
    apply Bytes.every_byte _ byte
    decide +kernel
  exact facts basic

theorem basic_forms (byte : UInt8) (basic : byte < 0x80) :
    forms (.scalar byte.toNat) = [[.scalar (lowerLetter byte).toNat]] := by
  obtain ⟨form, _, other⟩ := basic_letter byte basic
  rw [forms, if_neg (by simpa using other), lowerGlyph, form, List.map_singleton]

theorem basic_glyphs (byte : UInt8) (rest : Bytes) (basic : byte < 0x80) :
    glyphs (byte :: rest) = .scalar byte.toNat :: glyphs rest :=
  Utf8.glyphs_scalar byte rest byte.toNat 0 (by simp [Utf8.headScalar, basic])

theorem IsLowered.cons {byte : UInt8} {rest out : Bytes} (basic : byte < 0x80) (lowers : IsLowered rest out) :
    IsLowered (byte :: rest) (lowerLetter byte :: out) := by
  obtain ⟨letters, lowers, rfl⟩ := lowers
  refine ⟨.scalar (lowerLetter byte).toNat :: letters, ?_, ?_⟩
  · rw [basic_glyphs byte rest basic]
    exact .cons (by rw [basic_forms byte basic]; exact List.mem_singleton_self _) lowers
  · rw [Utf8.encode_cons, Utf8.Glyph.bytes, (basic_letter byte basic).2.1]
    rfl

theorem IsLowered.basic {byte : UInt8} {rest out : Bytes} (lowers : IsLowered (byte :: rest) out)
    (basic : byte < 0x80) : ∃ more, out = lowerLetter byte :: more ∧ IsLowered rest more := by
  obtain ⟨letters, lowers, rfl⟩ := lowers
  rw [basic_glyphs byte rest basic] at lowers
  cases lowers with
  | @cons _ form _ out own later =>
      rw [basic_forms byte basic, List.mem_singleton] at own
      refine ⟨encode out, ?_, out, later, rfl⟩
      rw [own, Utf8.encode_append, Utf8.encode_cons, Utf8.Glyph.bytes, (basic_letter byte basic).2.1]
      rfl

theorem IsLowered.basics {front rest out : Bytes} (lowers : IsLowered (front ++ rest) out)
    (basic : ∀ byte ∈ front, byte < 0x80) : ∃ more, out = lowered front ++ more ∧ IsLowered rest more := by
  induction front generalizing out with
  | nil => exact ⟨out, rfl, lowers⟩
  | cons byte more ih =>
      obtain ⟨here, later⟩ := List.forall_mem_cons.mp basic
      obtain ⟨next, rfl, others⟩ := lowers.basic here
      obtain ⟨last, rfl, ended⟩ := ih others later
      exact ⟨last, rfl, ended⟩

end OpcodeTable.Rule
