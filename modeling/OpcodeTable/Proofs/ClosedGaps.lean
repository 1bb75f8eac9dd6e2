import OpcodeTable.Proofs.Characters
import OpcodeTable.Proofs.Cuts

/-!
As a pattern a rule replaces the space and the pair by the pair and goes on behind it. That agrees with
judging each space alone because no character of a pair is a space: one that is passed over needs no
judging.
-/

set_option autoImplicit false

namespace OpcodeTable.Rule

open Bytes (space slash isUpperHex isDigit)
open Utf8 (Glyph encode glyphs Settled basic)
open Pattern (Piece parts replaceAll)

def startsPair (first second : UInt8 → Bool) : Bytes → Bool
  | high :: low :: _ => first high && second low
  | _ => false

theorem byte_pair_starts : startsBytePair = startsPair isUpperHex isUpperHex := by
  funext text
  match text with
  | [] => rfl
  | [_] => rfl
  | _ :: _ :: _ => rfl

theorem subcode_starts : startsSubcode = startsPair (· == slash) isDigit := by
  funext text
  match text with
  | [] => rfl
  | [_] => rfl
  | _ :: _ :: _ => rfl

theorem starts_pair_cons (first second : UInt8 → Bool) (byte : UInt8) (rest : Bytes) :
    startsPair first second (byte :: rest) = (first byte && rest.head?.any second) := by
  cases rest with
  | nil => exact (Bool.and_false (first byte)).symm
  | cons low more => rfl

def pairPieces (first second : UInt8 → Bool) : List (Piece Glyph) := [⟨basic first, .once⟩, ⟨basic second, .once⟩]

def gapPair (first second : UInt8 → Bool) : List (Piece Glyph) :=
  ⟨basic (· == space), .once⟩ :: pairPieces first second

def withoutGap (taken : List (List Glyph)) : List Glyph := taken.tail.flatten

theorem gap_replaced (first second : UInt8 → Bool) (high low : Glyph) (behind : List Glyph)
    (pair : parts (pairPieces first second) (high :: low :: behind) = some [[high], [low]]) :
    replaceAll (gapPair first second) withoutGap (.scalar space.toNat :: high :: low :: behind) =
      high :: low :: replaceAll (gapPair first second) withoutGap behind := by
  have matched := Pattern.once_taken (basic (· == space)) (pairPieces first second) (.scalar space.toNat)
    (high :: low :: behind) rfl
  rw [← gapPair, pair, Option.map_some] at matched
  exact Pattern.replace_matched _ withoutGap [[.scalar space.toNat], [high], [low]] behind (by simp) matched

def NoGap (kind : UInt8 → Bool) : Prop := ∀ byte, kind byte = true → byte < 0x80 ∧ byte ≠ space

theorem NoGap.agree {kind : UInt8 → Bool} (apart : NoGap kind) : Utf8.Agree kind (basic kind) :=
  Utf8.basic_agree kind fun byte own => (apart byte own).1

theorem NoGap.refused {kind : UInt8 → Bool} (apart : NoGap kind) : kind space = false :=
  Bool.eq_false_iff.mpr fun own => (apart space own).2 rfl

section

variable {first second : UInt8 → Bool} (left : NoGap first) (right : NoGap second)

include left right

theorem pair_read (text : List Glyph) (settled : ∀ glyph ∈ text, Settled glyph) :
    (parts (pairPieces first second) text = none ∧ startsPair first second (encode text) = false) ∨
      ∃ (high low : UInt8) (behind : List Glyph), first high = true ∧ second low = true ∧
        text = .scalar high.toNat :: .scalar low.toNat :: behind ∧
        parts (pairPieces first second) text = some [[.scalar high.toNat], [.scalar low.toNat]] := by
  cases text with
  | nil => exact Or.inl ⟨rfl, rfl⟩
  | cons one rest =>
      obtain ⟨here, later⟩ := List.forall_mem_cons.mp settled
      cases opens : basic first one with
      | false =>
          obtain ⟨byte, more, bytes, told⟩ := left.agree.head one rest here
          rw [bytes, starts_pair_cons, told, opens]
          exact Or.inl ⟨Pattern.required_refused _ _ _ _ (by decide) (by simpa using opens), rfl⟩
      | true =>
          obtain ⟨high, rfl, single, kind⟩ := Utf8.basic_single first one opens
          have taken := Pattern.once_taken _ [⟨basic second, .once⟩] (.scalar high.toNat) rest opens
          rw [pairPieces, taken, Utf8.encode_cons, single, List.singleton_append, starts_pair_cons, kind, Bool.true_and]
          cases rest with
          | nil => exact Or.inl ⟨rfl, rfl⟩
          | cons two behind =>
              cases ends : basic second two with
              | false =>
                  obtain ⟨byte, more, bytes, told⟩ := right.agree.head two behind (later two List.mem_cons_self)
                  rw [bytes, Pattern.required_refused _ _ _ _ (by decide) (by simpa using ends)]
                  exact Or.inl ⟨rfl, told.trans ends⟩
              | true =>
                  obtain ⟨low, rfl, _, other⟩ := Utf8.basic_single second two ends
                  refine Or.inr ⟨high, low, behind, kind, other, rfl, ?_⟩
                  rw [Pattern.once_taken _ [] _ behind ends]
                  rfl

theorem pair_written (high low : UInt8) (behind : List Glyph) (opens : first high = true) (ends : second low = true) :
    encode (.scalar high.toNat :: .scalar low.toNat :: behind) = high :: low :: encode behind := by
  rw [Utf8.encode_cons, Utf8.encode_cons, Glyph.bytes, Glyph.bytes, Utf8.one_written high (left high opens).1,
    Utf8.one_written low (right low ends).1]
  rfl

theorem gap_dropped (high low : UInt8) (back : Bytes) (opens : first high = true) (ends : second low = true) :
    dropSpaces (startsPair first second) (space :: high :: low :: back) =
      high :: low :: dropSpaces (startsPair first second) back := by
  have pair : startsPair first second (high :: low :: back) = true := Bool.and_eq_true_iff.mpr ⟨opens, ends⟩
  rw [drop_spaces_cons, if_pos (by simp [pair]), drop_spaces_keep _ high _ (Or.inl (left high opens).2),
    drop_spaces_keep _ low _ (Or.inl (right low ends).2)]

-- The rule judges a space at a time; the search of the pattern goes on behind what it has taken.
theorem gaps_replaced (text : List Glyph) (settled : ∀ glyph ∈ text, Settled glyph) :
    dropSpaces (startsPair first second) (encode text) = encode (replaceAll (gapPair first second) withoutGap text) := by
  induction counted : text.length using Nat.strongRecOn generalizing text with
  | _ size ih =>
      cases text with
      | nil => rfl
      | cons glyph rest =>
          obtain ⟨here, others⟩ := List.forall_mem_cons.mp settled
          have later := ih rest.length (by rw [← counted]; simp) rest others rfl
          cases gap : basic (· == space) glyph with
          | false =>
              have closed : space ∉ glyph.bytes := by
                intro member
                have own := Utf8.only_agree space (by decide) glyph here space member
                rw [gap] at own
                cases own
              have missed : parts (gapPair first second) (glyph :: rest) = none :=
                Pattern.required_refused _ _ _ _ (by decide) (by simpa using gap)
              rw [Utf8.encode_cons, drop_spaces_pass _ _ _ closed, later, Pattern.replace_missed _ _ glyph rest missed,
                Utf8.encode_cons]
          | true =>
              have taken := Pattern.once_taken _ (pairPieces first second) glyph rest gap
              rw [← gapPair] at taken
              obtain rfl := Utf8.only_character space glyph gap
              rcases pair_read left right rest others with
                ⟨none, alone⟩ | ⟨high, low, behind, opens, ends, rfl, some⟩
              · rw [none, Option.map_none] at taken
                have kept := drop_spaces_keep (startsPair first second) space (encode rest) (Or.inr alone)
                rw [Pattern.replace_missed _ _ _ rest taken, Utf8.encode_cons, Utf8.encode_cons, ← later]
                exact kept
              · have shorter : behind.length < size := by
                  rw [← counted, List.length_cons, List.length_cons, List.length_cons]
                  omega
                have behind' := ih behind.length shorter behind (fun other member => others other (by simp [member])) rfl
                calc dropSpaces (startsPair first second)
                      (encode (.scalar space.toNat :: .scalar high.toNat :: .scalar low.toNat :: behind))
                    = dropSpaces (startsPair first second) (space :: high :: low :: encode behind) := by
                      rw [Utf8.encode_cons, pair_written left right high low behind opens ends]
                      rfl
                  _ = high :: low :: encode (replaceAll (gapPair first second) withoutGap behind) := by
                      rw [gap_dropped left right high low _ opens ends, behind']
                  _ = _ := by
                      rw [gap_replaced first second _ _ behind some, pair_written left right high low _ opens ends]

theorem pair_blind (text : Bytes) : Blind (startsPair first second) (space :: text) := by
  intro front
  match front with
  | [] =>
      rw [List.nil_append, starts_pair_cons, left.refused]
      rfl
  | [byte] =>
      change (first byte && second space) = false
      rw [right.refused, Bool.and_false]
  | _ :: _ :: _ => rfl

theorem gaps_shortened (spaces : Nat) (high low : UInt8) (back : Bytes) (opens : first high = true)
    (ends : second low = true) :
    dropSpaces (startsPair first second) (List.replicate (spaces + 1) space ++ high :: low :: back) =
      List.replicate spaces space ++ high :: low :: dropSpaces (startsPair first second) back := by
  induction spaces with
  | zero => exact gap_dropped left right high low back opens ends
  | succ spaces ih =>
      have closed : startsPair first second (List.replicate (spaces + 1) space ++ high :: low :: back) = false :=
        pair_blind left right _ []
      rw [List.replicate_succ, List.cons_append, drop_spaces_keep _ space _ (Or.inr closed), ih, List.replicate_succ,
        List.cons_append]

end

theorem drop_spaces_others (ahead : Bytes → Bool) (row : Bytes) :
    (dropSpaces ahead row).filter (· != space) = row.filter (· != space) := by
  induction row with
  | nil => rfl
  | cons byte rest ih =>
      rw [drop_spaces_cons]
      by_cases dropped : (byte == space && ahead rest) = true
      · have gap : byte = space := beq_iff_eq.mp (Bool.and_eq_true_iff.mp dropped).1
        rw [if_pos dropped, ih, List.filter_cons_of_neg (by simp [gap])]
      · rw [if_neg dropped, List.filter_cons, List.filter_cons, ih]

theorem drop_spaces_end (ahead : Bytes → Bool) (closed : ahead [] = false) (row : Bytes) :
    (dropSpaces ahead row).getLast? = row.getLast? := by
  induction row with
  | nil => rfl
  | cons byte rest ih =>
      rw [drop_spaces_cons]
      by_cases dropped : (byte == space && ahead rest) = true
      · obtain ⟨next, more, rfl⟩ : ∃ next more, rest = next :: more := by
          apply List.exists_cons_of_ne_nil
          rintro rfl
          simp [closed] at dropped
        rw [if_pos dropped, ih, List.getLast?_cons_cons]
      · rw [if_neg dropped, List.getLast?_cons, List.getLast?_cons, ih]

-- A rule that closes the gap in front of two characters, each of its own kind: it takes away spaces only, and
-- of several in front of such a pair the last one.
structure ClosesGaps (rule : Bytes → Bytes) (first second : UInt8 → Bool) : Prop where
  replaces : ∀ row, rule row = encode (replaceAll (gapPair first second) withoutGap (glyphs row))
  shorter : ∀ row, (rule row).Sublist row
  others : ∀ row, (rule row).filter (· != space) = row.filter (· != space)
  idle : ∀ row, space ∉ row → rule row = row
  ends : ∀ row, (rule row).getLast? = row.getLast?
  shortens : ∀ front spaces high low back, first high = true → second low = true →
    rule (front ++ List.replicate (spaces + 1) space ++ high :: low :: back) =
      rule front ++ List.replicate spaces space ++ high :: low :: rule back

theorem pair_closes (first second : UInt8 → Bool) (left : NoGap first) (right : NoGap second) :
    ClosesGaps (dropSpaces (startsPair first second)) first second := by
  refine ⟨?_, drop_spaces_sublist _, drop_spaces_others _, ?_, drop_spaces_end _ rfl, ?_⟩
  · intro row
    rw [← gaps_replaced left right (glyphs row) (Utf8.glyphs_settled row), Utf8.encode_glyphs]
  · intro row closed
    have passed := drop_spaces_pass (startsPair first second) row [] closed
    rw [List.append_nil] at passed
    exact passed.trans (List.append_nil row)
  · intro front spaces high low back opens ends
    have cut := drop_spaces_cut (startsPair first second) front _
      (pair_blind left right (List.replicate spaces space ++ high :: low :: back))
    rw [← List.cons_append, ← List.replicate_succ, gaps_shortened left right spaces high low back opens ends] at cut
    rw [List.append_assoc, List.append_assoc, cut]

theorem digit_no_gap : NoGap isUpperHex ∧ NoGap (· == slash) ∧ NoGap isDigit := by
  refine ⟨fun byte => ?_, fun byte => ?_, fun byte => ?_⟩
  all_goals
    apply Bytes.every_byte _ byte
    decide +kernel

theorem joins_close_gaps :
    ClosesGaps joinBytePairs isUpperHex isUpperHex ∧ ClosesGaps joinSubcodes (· == slash) isDigit := by
  obtain ⟨hex, mark, digit⟩ := digit_no_gap
  constructor
  · rw [joinBytePairs, byte_pair_starts]
    exact pair_closes isUpperHex isUpperHex hex hex
  · rw [joinSubcodes, subcode_starts]
    exact pair_closes (· == slash) isDigit mark digit

example : joinBytePairs (ascii " 0F  38 F 0A B") = ascii "0F 38 F0A B" := by decide

end OpcodeTable.Rule
