import OpcodeTable.Proofs.Linewise
import OpcodeTable.Proofs.OperandSaturation
import OpcodeTable.Proofs.TrailingColumns

/-!
The first four rules treat the encoding letter and the gap after it as a wall: what they do before it is
settled by the text before it, and what they do behind it leaves a text there. The fifth rule then cuts at
a place that is settled by the text before the wall.
-/

set_option autoImplicit false

namespace OpcodeTable.Rule

open Bytes (Edit newline space sweep replaceAll findLiteral)
open Pattern (Run run_induction)

theorem wall_unbroken (letter : UInt8) (encoding : isEncodingLetter letter = true) (text : Bytes)
    (unbroken : newline ∉ text) : newline ∉ letter :: space :: text := by
  have letterOther : newline ≠ letter := by
    rintro rfl
    cases encoding
  have gapOther : newline ≠ space := by decide
  simp [letterOther, gapOther, unbroken]

theorem columns_forget (front : Bytes) (letter : UInt8) (encoding : isEncodingLetter letter = true)
    (unbroken : newline ∉ front) : ∃ kept, ∀ text, text ≠ [] → newline ∉ text →
      removeTrailingColumns (front ++ letter :: space :: text) = kept := by
  have atWall (run : Bytes) (inside : ∀ byte ∈ run, isEncodingLetter byte = true) (text : Bytes)
      (filled : text ≠ []) (smooth : newline ∉ text) :
      removeTrailingColumns (run ++ letter :: space :: text) = [] := by
    have letters : ∀ byte ∈ run ++ [letter], isEncodingLetter byte = true := by
      rw [List.forall_mem_append]
      exact ⟨inside, by simpa using encoding⟩
    have behind : newline ∉ space :: text := fun member =>
      wall_unbroken letter encoding text smooth (List.mem_cons_of_mem letter member)
    have ended := columns_end (run ++ [letter]) (space :: text) ⟨by simp, letters, by simp; rfl⟩
      (gap_starts_column text filled smooth) behind
    rwa [List.append_assoc] at ended
  induction front using run_induction with
  | nil => exact ⟨[], atWall [] nofun⟩
  | other byte rest starts ih =>
      obtain ⟨kept, known⟩ := ih fun member => unbroken (List.mem_cons_of_mem byte member)
      refine ⟨byte :: kept, fun text filled smooth => ?_⟩
      rw [List.cons_append, columns_other byte _ starts, known text filled smooth]
  | run run rest whole ih =>
      cases rest with
      | nil =>
          rw [List.append_nil]
          exact ⟨[], atWall run whole.accepted⟩
      | cons next later =>
          have behind : newline ∉ next :: later := fun member => unbroken (List.mem_append_right run member)
          have beyond (text : Bytes) : Run isEncodingLetter run (next :: later ++ letter :: space :: text) :=
            ⟨whole.present, whole.accepted, whole.stop⟩
          -- Two bytes settle whether a column follows, and the letter is the second at the latest.
          have same (text : Bytes) : startsColumn (next :: later ++ letter :: space :: text) =
              startsColumn (next :: later ++ [letter]) := by
            cases later with
            | nil => rfl
            | cons _ _ => rfl
          cases column : startsColumn (next :: later ++ [letter]) with
          | true =>
              refine ⟨[], fun text filled smooth => ?_⟩
              rw [List.append_assoc]
              apply columns_end run _ (beyond text) ((same text).trans column)
              rw [List.mem_append, not_or]
              exact ⟨behind, wall_unbroken letter encoding text smooth⟩
          | false =>
              obtain ⟨kept, known⟩ := ih behind
              refine ⟨run ++ kept, fun text filled smooth => ?_⟩
              rw [List.append_assoc, columns_stay run _ (beyond text) ((same text).trans column),
                known text filled smooth]

-- A search that neither looks nor edits across an encoding letter with a gap behind it.
structure Passes (find : UInt8 → Bytes → Option Edit) (letter : UInt8) : Prop where
  blind : ∀ text byte, Blind (find byte) (letter :: space :: text)
  reach : ∀ byte text edit, find byte text = some edit → edit.more ≤ text.length
  letter : ∀ text, find letter (space :: text) = none
  gap : ∀ text, find space text = none
  smooth : ∀ byte text edit, find byte text = some edit → newline ∉ edit.code

theorem Passes.unbroken {find : UInt8 → Bytes → Option Edit} {letter : UInt8} (passes : Passes find letter)
    (text : Bytes) (unbroken : newline ∉ text) : newline ∉ sweep find text := by
  intro member
  rcases sweep_mem find text newline member with before | ⟨head, rest, edit, found, written⟩
  · exact unbroken before
  · exact passes.smooth head rest edit found written

theorem sweep_passes (find : UInt8 → Bytes → Option Edit) (letter : UInt8) (passes : Passes find letter)
    (front text : Bytes) :
    sweep find (front ++ letter :: space :: text) = sweep find front ++ letter :: space :: sweep find text := by
  rw [sweep_cut find front _ (passes.blind text) passes.reach, Bytes.sweep_keep find letter _ (passes.letter text),
    Bytes.sweep_keep find space _ (passes.gap text)]

theorem encoding_cases (letter : UInt8) (encoding : isEncodingLetter letter = true) :
    letter = 0x52 ∨ letter = 0x4D ∨ letter = 0x49 ∨ letter = 0x44 := by
  simpa [isEncodingLetter, or_assoc] using encoding

theorem literal_blind (target code start back : Bytes)
    (apart : ∀ n < target.length, 0 < n → Apart (target.drop n) start) (byte : UInt8) :
    Blind (findLiteral target code byte) (start ++ back) := by
  intro text
  have same : target <+: byte :: (text ++ (start ++ back)) ↔ target <+: byte :: text := by
    constructor
    · intro whole
      rcases start_split target (byte :: text) (start ++ back) whole with inside | ⟨within, _, beyond⟩
      · exact inside
      · exact absurd beyond (not_start_of_apart _ start back (apart _ within (by simp)))
    · intro inside
      exact inside.trans (List.prefix_append (byte :: text) _)
  by_cases hit : target <+: byte :: text
  · rw [findLiteral, findLiteral, if_pos (List.isPrefixOf_iff_prefix.mpr (same.mpr hit)),
      if_pos (List.isPrefixOf_iff_prefix.mpr hit)]
  · rw [literal_miss target code byte _ (mt same.mp hit), literal_miss target code byte text hit]

def wideTarget : Bytes := ascii "REX.W + "

theorem wide_passes (letter : UInt8) (encoding : isEncodingLetter letter = true) :
    Passes (findLiteral wideTarget (ascii "w")) letter := by
  have apart : (∀ n < wideTarget.length, Apart (wideTarget.drop n) [letter, space]) ∧
      newline ∉ wideTarget ∧ wideTarget ≠ [] := by
    rcases encoding_cases letter encoding with rfl | rfl | rfl | rfl <;> decide
  obtain ⟨apart, unbroken, present⟩ := apart
  refine ⟨?_, (literal_confined wideTarget _ present unbroken).reach, ?_, ?_, ?_⟩
  · intro text byte
    exact literal_blind wideTarget _ [letter, space] text (fun n within _ => apart n within) byte
  · intro text
    exact literal_miss _ _ letter _ (not_start_of_apart wideTarget [letter, space] text (apart 0 (by decide)))
  · intro text
    rfl
  · intro byte text edit found
    simp only [findLiteral, Option.ite_none_right_eq_some] at found
    rw [← Option.some.inj found.2]
    decide

theorem size_mark_elsewhere (byte : UInt8) (text : Bytes) (slash : byte ≠ Bytes.slash)
    (operand : isOperandLetter byte = false) : findSizeMark byte text = none := by
  have unmarked : isSizeMark (byte :: text) = false := by
    match text with
    | [] | [_] => rfl
    | _ :: _ :: _ => simp [isSizeMark, operand]
  simp [findSizeMark, slash, unmarked]

theorem size_mark_passes (letter : UInt8) (encoding : isEncodingLetter letter = true) :
    Passes findSizeMark letter := by
  have marks : isOperandLetter letter = false ∧ isSizeLetter letter = false ∧ letter ≠ space ∧
      letter ≠ Bytes.slash := by
    rcases encoding_cases letter encoding with rfl | rfl | rfl | rfl <;> decide
  obtain ⟨operand, size, gap, slash⟩ := marks
  have look (text : Bytes) : Blind isSizeMark (letter :: space :: text) := by
    intro front
    match front with
    | [] => cases text <;> simp [isSizeMark, operand]
    | [_] => simp [isSizeMark, size]
    | [_, _] => simp [isSizeMark, gap]
    | _ :: _ :: _ :: _ => rfl
  refine ⟨?_, size_mark_confined.reach, ?_, ?_, ?_⟩
  · intro text byte front
    have here := look text (byte :: front)
    rw [List.cons_append] at here
    rw [findSizeMark, findSizeMark, look text front, here]
  · intro text
    exact size_mark_elsewhere letter _ slash operand
  · intro text
    exact size_mark_elsewhere space text (by decide) rfl
  · intro byte text edit found
    rw [findSizeMark] at found
    split at found
    · rw [← Option.some.inj found]
      exact List.not_mem_nil
    · split at found
      · rw [← Option.some.inj found]
        exact List.not_mem_nil
      · cases found

theorem register_mark_passes (letter : UInt8) (encoding : isEncodingLetter letter = true) :
    Passes findRegisterMark letter := by
  have marks : letter ≠ 0x2B ∧ (letter == space) = false ∧ (letter == 0x72) = false ∧
      isSizeLetter letter = false := by
    rcases encoding_cases letter encoding with rfl | rfl | rfl | rfl <;> decide
  obtain ⟨plus, gap, mark, size⟩ := marks
  refine ⟨?_, register_mark_confined.reach, ?_, fun _ => rfl, ?_⟩
  · intro text byte front
    by_cases same : byte = 0x2B
    · subst same
      match front with
      | [] => cases text <;> simp [findRegisterMark, gap]
      | [_] => simp [findRegisterMark, mark]
      | [_, _] => simp [findRegisterMark, size]
      | _ :: _ :: _ :: _ => rfl
    · rw [register_mark_elsewhere byte _ same, register_mark_elsewhere byte _ same]
  · intro text
    exact register_mark_elsewhere letter _ plus
  · intro byte text edit found
    unfold findRegisterMark at found
    split at found
    · split at found
      · rw [← Option.some.inj found]
        exact List.not_mem_nil
      · cases found
    · cases found

theorem gap_blind (text : Bytes) : Blind startsBytePair (space :: text) := by
  intro front
  match front with
  | [] => cases text <;> rfl
  | [_] => simp [startsBytePair, Bytes.isUpperHex, Bytes.isDigit, space]
  | _ :: _ :: _ => rfl

theorem drop_spaces_last (ahead : Bytes → Bool) (text : Bytes) (last : UInt8) (other : last ≠ space) :
    ∃ kept, dropSpaces ahead (text ++ [last]) = kept ++ [last] ∧ kept.Sublist text := by
  induction text with
  | nil => exact ⟨[], drop_spaces_keep ahead last [] (Or.inl other), List.Sublist.slnil⟩
  | cons byte rest ih =>
      obtain ⟨kept, same, inside⟩ := ih
      rw [List.cons_append, drop_spaces_cons, same]
      by_cases dropped : (byte == space && ahead (rest ++ [last])) = true
      · exact ⟨kept, by rw [if_pos dropped], inside.cons byte⟩
      · exact ⟨byte :: kept, by rw [if_neg dropped, List.cons_append], inside.cons_cons byte⟩

-- What stands behind the operand encoding: its first byte neither continues an opcode nor starts a mark.
structure Description where
  first : UInt8
  more : Bytes
  opens : Bytes.isUpperHex first = false ∧ first ∉ ascii "/ricR+"
  unbroken : newline ∉ first :: more

def Description.text (description : Description) : Bytes := description.first :: description.more

structure Unmarked (text : Bytes) : Prop where
  unbroken : newline ∉ text
  opens : ∃ first more, text = first :: more ∧ first ∉ ascii "/ric+"

theorem Unmarked.present {text : Bytes} (unmarked : Unmarked text) : text ≠ [] := by
  obtain ⟨first, more, rfl, _⟩ := unmarked.opens
  exact List.cons_ne_nil first more

theorem widened_description (description : Description) :
    ∃ widened : Description, replaceAll wideTarget (ascii "w") description.text = widened.text := by
  obtain ⟨first, more, ⟨digit, opens⟩, unbroken⟩ := description
  have other : first ≠ 0x52 := fun same => opens (by rw [same]; decide)
  have kept : findLiteral wideTarget (ascii "w") first more = none :=
    literal_elsewhere 0x52 (ascii "EX.W + ") (ascii "w") first more other
  have same := Bytes.sweep_keep _ first more kept
  refine ⟨⟨first, replaceAll wideTarget (ascii "w") more, ⟨digit, opens⟩, ?_⟩, same⟩
  have smooth := (wide_passes 0x52 rfl).unbroken (first :: more) unbroken
  rwa [same] at smooth

theorem joined_description (description : Description) : Unmarked (joinBytePairs description.text) := by
  obtain ⟨first, more, ⟨digit, opens⟩, unbroken⟩ := description
  have smooth : newline ∉ joinBytePairs (first :: more) :=
    fun member => unbroken ((drop_spaces_sublist startsBytePair _).subset member)
  refine ⟨smooth, ?_⟩
  by_cases dropped : (first == space && startsBytePair more) = true
  · have pair := (Bool.and_eq_true_iff.mp dropped).2
    match more, pair with
    | high :: low :: rest, pair =>
        have upper := (Bool.and_eq_true_iff.mp pair).1
        have marks : (ascii "/ric+").filter Bytes.isUpperHex = [] := by decide
        have kept : high ≠ space := by
          rintro rfl
          cases upper
        refine ⟨high, joinBytePairs (low :: rest), ?_, ?_⟩
        · rw [Description.text, joinBytePairs, drop_spaces_cons, if_pos dropped,
            drop_spaces_keep startsBytePair high _ (Or.inl kept)]
        · exact fun member => List.filter_eq_nil_iff.mp marks high member upper
  · refine ⟨first, joinBytePairs more, ?_, ?_⟩
    · rw [Description.text, joinBytePairs, drop_spaces_cons, if_neg dropped]
    · have fewer : ascii "/ric+" ⊆ ascii "/ricR+" := by decide
      exact fun member => opens (fewer member)

theorem unmarked_sweep (find : UInt8 → Bytes → Option Edit) (letter : UInt8) (passes : Passes find letter)
    (idle : ∀ byte rest, byte ∉ ascii "/ric+" → find byte rest = none) (text : Bytes) (unmarked : Unmarked text) :
    Unmarked (sweep find text) := by
  refine ⟨passes.unbroken text unmarked.unbroken, ?_⟩
  obtain ⟨first, more, rfl, opens⟩ := unmarked.opens
  exact ⟨first, sweep find more, Bytes.sweep_keep find first more (idle first more opens), opens⟩

theorem size_mark_idle (byte : UInt8) (rest : Bytes) (other : byte ∉ ascii "/ric+") :
    findSizeMark byte rest = none := by
  apply size_mark_elsewhere
  · intro same
    exact other (by rw [same]; decide)
  · cases operand : isOperandLetter byte with
    | false => rfl
    | true =>
        have marks : byte = 0x72 ∨ byte = 0x69 ∨ byte = 0x63 := by
          simpa [isOperandLetter, or_assoc] using operand
        rcases marks with rfl | rfl | rfl <;> exact absurd (by decide) other

theorem register_mark_idle (byte : UInt8) (rest : Bytes) (other : byte ∉ ascii "/ric+") :
    findRegisterMark byte rest = none := by
  apply register_mark_elsewhere
  intro same
  exact other (by rw [same]; decide)

theorem first_rules_wall (front : Bytes) (letter : UInt8) (encoding : isEncodingLetter letter = true)
    (unbroken : newline ∉ front) :
    ∃ before, newline ∉ before ∧ ∀ description : Description, ∃ text, Unmarked text ∧
      applyAll (chain.take 4) (front ++ letter :: space :: description.text) = before ++ letter :: space :: text := by
  have wide := wide_passes letter encoding
  have size := size_mark_passes letter encoding
  have register := register_mark_passes letter encoding
  have other : letter ≠ space := by
    rintro rfl
    cases encoding
  obtain ⟨kept, joined, inside⟩ :=
    drop_spaces_last startsBytePair (replaceAll wideTarget (ascii "w") front) letter other
  have smooth : newline ∉ kept := fun member => wide.unbroken front unbroken (inside.subset member)
  refine ⟨removeRegisterMarks (removeSizeMarks kept), register.unbroken _ (size.unbroken kept smooth), ?_⟩
  intro description
  obtain ⟨widened, first⟩ := widened_description description
  have second := joined_description widened
  have third := unmarked_sweep findSizeMark letter size size_mark_idle _ second
  have fourth := unmarked_sweep findRegisterMark letter register register_mark_idle _ third
  refine ⟨_, fourth, ?_⟩
  have pairs : joinBytePairs (replaceAll wideTarget (ascii "w") front ++ letter :: space :: widened.text) =
      kept ++ letter :: space :: joinBytePairs widened.text := by
    have gap : startsBytePair widened.text = false := by
      obtain ⟨first, more, ⟨digit, _⟩, _⟩ := widened
      cases more with
      | nil => rfl
      | cons _ _ => simp [Description.text, startsBytePair, digit]
    have cut := drop_spaces_cut startsBytePair (replaceAll wideTarget (ascii "w") front ++ [letter])
      (space :: widened.text) (gap_blind widened.text)
    rw [joined, drop_spaces_keep startsBytePair space _ (Or.inr gap), List.append_assoc, List.append_assoc] at cut
    exact cut
  calc applyAll (chain.take 4) (front ++ letter :: space :: description.text)
      = removeRegisterMarks (removeSizeMarks (joinBytePairs
          (replaceAll wideTarget (ascii "w") (front ++ letter :: space :: description.text)))) := rfl
    _ = removeRegisterMarks (removeSizeMarks (kept ++ letter :: space :: joinBytePairs widened.text)) := by
      rw [replaceAll, sweep_passes _ letter wide, ← replaceAll, ← replaceAll, first, pairs]
    _ = _ := by
      rw [removeSizeMarks, removeRegisterMarks, sweep_passes _ letter size, sweep_passes _ letter register]

theorem description_irrelevant (front : Bytes) (letter : UInt8) (first second : Description)
    (unbroken : newline ∉ front) (encoding : letter ∈ ascii "RMID") :
    normalize (front ++ letter :: space :: first.text) = normalize (front ++ letter :: space :: second.text) := by
  have letters : ∀ byte ∈ ascii "RMID", isEncodingLetter byte = true := List.all_eq_true.mp (by decide)
  obtain ⟨before, smooth, walled⟩ := first_rules_wall front letter (letters letter encoding) unbroken
  obtain ⟨kept, forgets⟩ := columns_forget before letter (letters letter encoding) smooth
  have five (description : Description) :
      applyAll (chain.take 5) (front ++ letter :: space :: description.text) = kept := by
    obtain ⟨text, unmarked, same⟩ := walled description
    rw [← forgets text unmarked.present unmarked.unbroken, ← same]
    rfl
  rw [normalize_after 5 (front ++ letter :: space :: first.text), five first,
    normalize_after 5 (front ++ letter :: space :: second.text), five second]

def printed : Description := ⟨0x56, ascii "alid Valid", by decide, by decide⟩

-- It starts with a gap, and would be joined to an opcode, lose its marks and be cut once more.
def misleading : Description := ⟨0x20, ascii "0F /rb + rd MI REX.W + 90", by decide, by decide⟩

theorem misleading_irrelevant :
    newline ∉ ascii "01 /r ADD r/m32, r32 M" ∧ 0x52 ∈ ascii "RMID" ∧
      normalize (ascii "01 /r ADD r/m32, r32 MR  0F /rb + rd MI REX.W + 90") =
        normalize (ascii "01 /r ADD r/m32, r32 MR Valid Valid") :=
  ⟨by decide, by decide, description_irrelevant (ascii "01 /r ADD r/m32, r32 M") 0x52 misleading printed
    (by decide) (by decide)⟩

end OpcodeTable.Rule
