import OpcodeTable.Utf8

/-!
A byte is basic when it is below 0x80. A character of one byte is that byte, and no byte of a longer one
is basic.
-/

set_option autoImplicit false

namespace OpcodeTable.Utf8

theorem within_range (low high byte : UInt8) (inside : within low high byte = true) :
    low.toNat ≤ byte.toNat ∧ byte.toNat ≤ high.toNat := by
  simpa [within, UInt8.le_iff_toNat_le] using inside

theorem tail_range (byte : UInt8) (tail : isTail byte = true) : 0x80 ≤ byte.toNat ∧ byte.toNat ≤ 0xBF :=
  within_range 0x80 0xBF byte tail

theorem within_tail (low high byte : UInt8) (bounds : 0x80 ≤ low ∧ high ≤ 0xBF) (inside : within low high byte = true) :
    isTail byte = true := by
  simp only [within, isTail, Bool.and_eq_true, decide_eq_true_iff] at inside ⊢
  exact ⟨UInt8.le_trans bounds.1 inside.1, UInt8.le_trans inside.2 bounds.2⟩

theorem second_after_tail (low least high most lead second : UInt8) (bounds : 0x80 ≤ least ∧ most ≤ 0xBF)
    (follows : secondAfter low least high most lead second = true) : isTail second = true := by
  unfold secondAfter at follows
  split at follows
  · exact within_tail least 0xBF second ⟨bounds.1, by decide⟩ follows
  · split at follows
    · exact within_tail 0x80 most second ⟨by decide, bounds.2⟩ follows
    · exact follows

theorem second_after_least (low least high most lead second : UInt8)
    (follows : secondAfter low least high most lead second = true) (lowest : lead.toNat = low.toNat) :
    least.toNat ≤ second.toNat ∧ second.toNat ≤ 0xBF := by
  rw [secondAfter, if_pos (by rw [UInt8.toNat_inj.mp lowest, beq_self_eq_true])] at follows
  exact within_range least 0xBF second follows

-- A character of several bytes, or a byte that belongs to no character.
def Beyond : Glyph → Prop
  | .scalar code => 0x80 ≤ code ∧ code < 0x200000
  | .stray byte => 0x80 ≤ byte

theorem high_byte (code : Nat) (range : 0x80 ≤ code ∧ code < 0x100) : 0x80 ≤ code.toUInt8 := by
  rw [UInt8.le_iff_toNat_le]
  simp only [Nat.toUInt8, UInt8.toNat_ofNat', UInt8.reduceToNat]
  omega

theorem beyond_bytes (glyph : Glyph) (beyond : Beyond glyph) : ∀ byte ∈ glyph.bytes, 0x80 ≤ byte := by
  cases glyph with
  | stray byte => simpa [Glyph.bytes, Beyond] using beyond
  | scalar code =>
      obtain ⟨low, high⟩ := beyond
      simp only [Glyph.bytes, encodeScalar, if_neg (Nat.not_lt.mpr low)]
      split
      · simp only [List.forall_mem_cons, List.not_mem_nil, false_imp_iff, implies_true, and_true]
        exact ⟨high_byte _ (by omega), high_byte _ (by omega)⟩
      · split
        · simp only [List.forall_mem_cons, List.not_mem_nil, false_imp_iff, implies_true, and_true]
          exact ⟨high_byte _ (by omega), high_byte _ (by omega), high_byte _ (by omega)⟩
        · simp only [List.forall_mem_cons, List.not_mem_nil, false_imp_iff, implies_true, and_true]
          exact ⟨high_byte _ (by omega), high_byte _ (by omega), high_byte _ (by omega), high_byte _ (by omega)⟩

theorem head_scalar_range (lead : UInt8) (text : Bytes) (code more : Nat) (high : ¬ lead < 0x80)
    (found : headScalar lead text = some (code, more)) : Beyond (.scalar code) := by
  unfold headScalar at found
  rw [if_neg high] at found
  split at found
  · rename_i lower
    have range := within_range 0xC2 0xDF lead lower
    split at found
    · split at found
      · cases found
        simp only [UInt8.reduceToNat, Beyond, payload] at range ⊢
        omega
      · cases found
    · cases found
  · split at found
    · rename_i lower
      split at found
      · rename_i second third _
        split at found
        · rename_i follows
          cases found
          rw [Bool.and_eq_true] at follows
          have range := within_range 0xE0 0xEF lead lower
          have least := second_after_least 0xE0 0xA0 0xED 0x9F lead second follows.1
          simp only [UInt8.reduceToNat, Beyond, payload] at range least ⊢
          omega
        · cases found
      · cases found
    · split at found
      · rename_i lower
        split at found
        · rename_i second third fourth _
          split at found
          · rename_i follows
            cases found
            simp only [Bool.and_eq_true] at follows
            have range := within_range 0xF0 0xF4 lead lower
            have least := second_after_least 0xF0 0x90 0xF4 0x8F lead second follows.1.1
            simp only [UInt8.reduceToNat, Beyond, payload] at range least ⊢
            omega
          · cases found
        · cases found
      · cases found

theorem head_scalar_reach (lead : UInt8) (text : Bytes) (code more : Nat)
    (found : headScalar lead text = some (code, more)) : more ≤ text.length := by
  unfold headScalar at found
  split at found
  · cases found
    exact Nat.zero_le _
  · split at found
    · split at found
      · split at found
        · cases found
          simp
        · cases found
      · cases found
    · split at found
      · split at found
        · split at found
          · cases found
            simp
          · cases found
        · cases found
      · split at found
        · split at found
          · split at found
            · cases found
              simp
            · cases found
          · cases found
        · cases found

theorem glyphs_basic (text : Bytes) :
    ∀ glyph ∈ glyphs text, (∃ byte ∈ text, byte < 0x80 ∧ glyph = .scalar byte.toNat) ∨ Beyond glyph := by
  induction counted : text.length using Nat.strongRecOn generalizing text with
  | _ size ih =>
      cases text with
      | nil => nofun
      | cons byte rest =>
          have later (skipped : Nat) : ∀ glyph ∈ glyphs (rest.drop skipped),
              (∃ other ∈ byte :: rest, other < 0x80 ∧ glyph = .scalar other.toNat) ∨ Beyond glyph := by
            intro glyph member
            have shorter : (rest.drop skipped).length < size := by
              rw [← counted, List.length_drop, List.length_cons]
              omega
            refine (ih _ shorter _ rfl glyph member).imp_left ?_
            rintro ⟨other, inside, basic, same⟩
            exact ⟨other, List.mem_cons_of_mem byte (List.mem_of_mem_drop inside), basic, same⟩
          cases found : headScalar byte rest with
          | none =>
              have high : 0x80 ≤ byte := by
                rw [← UInt8.not_lt]
                intro basic
                simp [headScalar, basic] at found
              rw [Utf8.glyphs_stray byte rest found, List.forall_mem_cons]
              exact ⟨Or.inr high, later 0⟩
          | some head =>
              rw [Utf8.glyphs_scalar byte rest head.1 head.2 found, List.forall_mem_cons]
              refine ⟨?_, later head.2⟩
              by_cases basic : byte < 0x80
              · have own : headScalar byte rest = some (byte.toNat, 0) := by simp [headScalar, basic]
                cases found.symm.trans own
                exact Or.inl ⟨byte, List.mem_cons_self, basic, rfl⟩
              · exact Or.inr (head_scalar_range byte rest head.1 head.2 basic found)

theorem byte_of_number (number : Nat) (byte : UInt8) (same : number = byte.toNat) : number.toUInt8 = byte := by
  rw [same]
  exact UInt8.ofNat_toNat

theorem one_written (lead : UInt8) (basic : lead < 0x80) : encodeScalar lead.toNat = [lead] := by
  have small : lead.toNat < 0x80 := UInt8.lt_iff_toNat_lt.mp basic
  rw [encodeScalar, if_pos small, byte_of_number _ lead rfl]

theorem two_written (lead second : UInt8) (lower : within 0xC2 0xDF lead = true) (tail : isTail second = true) :
    encodeScalar ((lead.toNat % 32) * 64 + payload second) = [lead, second] := by
  have range := within_range 0xC2 0xDF lead lower
  have bounds := tail_range second tail
  simp only [UInt8.reduceToNat, payload] at range ⊢
  rw [encodeScalar, if_neg (by omega), if_pos (by omega), byte_of_number _ lead (by omega),
    byte_of_number _ second (by omega)]

theorem three_written (lead second third : UInt8) (lower : within 0xE0 0xEF lead = true)
    (follows : secondOfThree lead second = true) (tail : isTail third = true) :
    encodeScalar ((lead.toNat % 16) * 4096 + payload second * 64 + payload third) = [lead, second, third] := by
  have range := within_range 0xE0 0xEF lead lower
  have least := second_after_least 0xE0 0xA0 0xED 0x9F lead second follows
  have follower := second_after_tail 0xE0 0xA0 0xED 0x9F lead second (by decide) follows
  have bounds := And.intro (tail_range second follower) (tail_range third tail)
  simp only [UInt8.reduceToNat, payload] at range least ⊢
  rw [encodeScalar, if_neg (by omega), if_neg (by omega), if_pos (by omega), byte_of_number _ lead (by omega),
    byte_of_number _ second (by omega), byte_of_number _ third (by omega)]

theorem four_written (lead second third fourth : UInt8) (lower : within 0xF0 0xF4 lead = true)
    (follows : secondOfFour lead second = true) (tail : isTail third = true ∧ isTail fourth = true) :
    encodeScalar ((lead.toNat % 8) * 262144 + payload second * 4096 + payload third * 64 + payload fourth) =
      [lead, second, third, fourth] := by
  have range := within_range 0xF0 0xF4 lead lower
  have least := second_after_least 0xF0 0x90 0xF4 0x8F lead second follows
  have follower := second_after_tail 0xF0 0x90 0xF4 0x8F lead second (by decide) follows
  have bounds := And.intro (tail_range second follower) (And.intro (tail_range third tail.1) (tail_range fourth tail.2))
  simp only [UInt8.reduceToNat, payload] at range least ⊢
  rw [encodeScalar, if_neg (by omega), if_neg (by omega), if_neg (by omega), byte_of_number _ lead (by omega),
    byte_of_number _ second (by omega), byte_of_number _ third (by omega), byte_of_number _ fourth (by omega)]

theorem scalar_written (lead : UInt8) (text : Bytes) (code more : Nat)
    (found : headScalar lead text = some (code, more)) : encodeScalar code ++ text.drop more = lead :: text := by
  unfold headScalar at found
  split at found
  · rename_i basic
    cases found
    rw [one_written lead basic]
    rfl
  · split at found
    · rename_i lower
      split at found
      · split at found
        · rename_i tail
          cases found
          rw [two_written _ _ lower tail]
          rfl
        · cases found
      · cases found
    · split at found
      · rename_i lower
        split at found
        · split at found
          · rename_i follows
            rw [Bool.and_eq_true] at follows
            cases found
            rw [three_written _ _ _ lower follows.1 follows.2]
            rfl
          · cases found
        · cases found
      · split at found
        · rename_i lower
          split at found
          · split at found
            · rename_i follows
              simp only [Bool.and_eq_true] at follows
              cases found
              rw [four_written _ _ _ _ lower follows.1.1 ⟨follows.1.2, follows.2⟩]
              rfl
            · cases found
          · cases found
        · cases found

theorem encode_glyphs (text : Bytes) : encode (glyphs text) = text := by
  induction counted : text.length using Nat.strongRecOn generalizing text with
  | _ size ih =>
      cases text with
      | nil => rfl
      | cons byte rest =>
          cases found : headScalar byte rest with
          | none =>
              have later := ih rest.length (by rw [← counted]; simp) rest rfl
              rw [glyphs_stray byte rest found, encode, List.flatMap_cons, ← encode, later]
              rfl
          | some head =>
              have shorter : (rest.drop head.2).length < size := by
                rw [← counted, List.length_drop, List.length_cons]
                omega
              have later := ih _ shorter (rest.drop head.2) rfl
              rw [glyphs_scalar byte rest head.1 head.2 found, encode, List.flatMap_cons, ← encode, later]
              exact scalar_written byte rest head.1 head.2 found

theorem bytes_present (glyph : Glyph) : glyph.bytes ≠ [] := by
  cases glyph with
  | stray byte => exact List.cons_ne_nil byte []
  | scalar code =>
      rw [Glyph.bytes]
      unfold encodeScalar
      split
      · exact List.cons_ne_nil _ _
      · split
        · exact List.cons_ne_nil _ _
        · split
          · exact List.cons_ne_nil _ _
          · exact List.cons_ne_nil _ _

theorem encode_cons (glyph : Glyph) (rest : List Glyph) : encode (glyph :: rest) = glyph.bytes ++ encode rest := rfl

theorem encode_append (front back : List Glyph) : encode (front ++ back) = encode front ++ encode back :=
  List.flatMap_append

end OpcodeTable.Utf8
