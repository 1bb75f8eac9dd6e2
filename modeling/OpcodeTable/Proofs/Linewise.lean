import OpcodeTable.Proofs.Cuts
import OpcodeTable.Proofs.Encoding

set_option autoImplicit false

namespace OpcodeTable.Rule

open Bytes (Edit newline sweep findLiteral)
open Utf8 (Glyph)

def Linewise (rule : Bytes → Bytes) : Prop :=
  ∀ first rest, rule (first ++ newline :: rest) = rule first ++ newline :: rule rest

def SeesLine {α : Type} (look : Bytes → α) : Prop :=
  ∀ text rest, look (text ++ newline :: rest) = look text

structure Confined (find : UInt8 → Bytes → Option Edit) : Prop where
  absent : ∀ rest, find newline rest = none
  sight : ∀ byte, SeesLine (find byte)
  reach : ∀ byte text edit, find byte text = some edit → edit.more ≤ text.length

theorem fold_linewise {ι : Type} (apply : ι → Bytes → Bytes) (rules : List ι)
    (linewise : ∀ rule ∈ rules, Linewise (apply rule)) :
    Linewise fun row => rules.foldl (fun text rule => apply rule text) row := by
  induction rules with
  | nil =>
      intro first rest
      rfl
  | cons rule more ih =>
      intro first rest
      have here := linewise rule List.mem_cons_self first rest
      have later := ih fun other member => linewise other (List.mem_cons_of_mem rule member)
      simp only [List.foldl_cons]
      rw [here]
      exact later (apply rule first) (apply rule rest)

theorem join_linewise (rule : Bytes → Bytes) (linewise : Linewise rule) (lines : List Bytes)
    (present : lines ≠ []) : rule ([newline].intercalate lines) = [newline].intercalate (lines.map rule) := by
  induction lines with
  | nil => exact absurd rfl present
  | cons line more ih =>
      cases more with
      | nil => simp
      | cons next others =>
          have tail := ih (by simp)
          rw [List.map_cons] at tail
          rw [List.intercalate_cons_cons, List.map_cons, List.map_cons, List.intercalate_cons_cons,
            List.append_assoc, List.singleton_append, linewise, tail, List.append_assoc, List.singleton_append]

theorem split_linewise (rule : Bytes → Bytes) (linewise : Linewise rule) (row : Bytes) :
    rule row = [newline].intercalate ((row.splitOn newline).map rule) := by
  rw [← join_linewise rule linewise _ (List.splitOn_ne_nil newline row), List.intercalate_splitOn]

-- An edit never takes up a newline, so the search before it and the one after it do not meet.
theorem sweep_linewise (find : UInt8 → Bytes → Option Edit) (confined : Confined find) :
    Linewise (sweep find) := by
  intro first rest
  have sight : ∀ byte, Blind (find byte) (newline :: rest) := fun byte text => confined.sight byte text rest
  rw [sweep_cut find first (newline :: rest) sight confined.reach,
    Bytes.sweep_keep find newline rest (confined.absent rest)]

theorem drop_spaces_linewise (ahead : Bytes → Bool) (sight : SeesLine ahead) : Linewise (dropSpaces ahead) := by
  intro first rest
  rw [drop_spaces_cut ahead first (newline :: rest) (fun text => sight text rest),
    drop_spaces_keep ahead newline rest (Or.inl (by decide))]

theorem byte_pair_sees_line : SeesLine startsBytePair := by
  intro text rest
  match text with
  | [] => cases rest <;> rfl
  | [high] => simp [startsBytePair, Bytes.isUpperHex, Bytes.isDigit, newline]
  | _ :: _ :: _ => rfl

theorem subcode_sees_line : SeesLine startsSubcode := by
  intro text rest
  match text with
  | [] => cases rest <;> rfl
  | [mark] => simp [startsSubcode, Bytes.isDigit, newline]
  | _ :: _ :: _ => rfl

theorem prefix_sees_line (target : Bytes) (unbroken : newline ∉ target) : SeesLine target.isPrefixOf := by
  intro text rest
  induction target generalizing text with
  | nil => simp
  | cons byte more ih =>
      have other : byte ≠ newline := fun same => unbroken (by simp [same])
      cases text with
      | nil => simp [List.isPrefixOf, other]
      | cons head tail =>
          simp only [List.cons_append, List.isPrefixOf]
          rw [ih (fun member => unbroken (List.mem_cons_of_mem byte member))]

theorem literal_confined (target code : Bytes) (present : target ≠ []) (unbroken : newline ∉ target) :
    Confined (findLiteral target code) := by
  refine ⟨?_, ?_, ?_⟩
  · intro rest
    have same := prefix_sees_line target unbroken [] rest
    cases target with
    | nil => exact absurd rfl present
    | cons byte more =>
        rw [List.nil_append] at same
        simp [findLiteral, same]
  · intro byte text rest
    have same := prefix_sees_line target unbroken (byte :: text) rest
    rw [List.cons_append] at same
    rw [findLiteral, findLiteral, same]
  · intro byte text edit found
    unfold findLiteral at found
    split at found
    · rename_i matched
      cases found
      have short := (List.isPrefixOf_iff_prefix.mp matched).length_le
      simp only [List.length_cons] at short
      simp only
      omega
    · cases found

theorem replace_linewise (target code : Bytes) (present : target ≠ []) (unbroken : newline ∉ target) :
    Linewise (Bytes.replaceAll target code) :=
  sweep_linewise _ (literal_confined target code present unbroken)

theorem size_mark_sees_line : SeesLine isSizeMark := by
  intro text rest
  match text with
  | [] =>
      match rest with
      | [] => rfl
      | [_] => rfl
      | _ :: _ :: _ => rfl
  | [operand] =>
      cases rest with
      | nil => rfl
      | cons _ _ => simp [isSizeMark, isSizeLetter, newline]
  | [_, _] => simp [isSizeMark, newline, Bytes.space]
  | _ :: _ :: _ :: _ => rfl

theorem size_mark_length (text : Bytes) (marked : isSizeMark text = true) : 3 ≤ text.length := by
  match text with
  | [] | [_] | [_, _] => cases marked
  | _ :: _ :: _ :: _ => simp

theorem size_mark_confined : Confined findSizeMark := by
  refine ⟨?_, ?_, ?_⟩
  · intro rest
    have same := size_mark_sees_line [] rest
    rw [List.nil_append] at same
    rw [findSizeMark, if_neg (by simp [newline, Bytes.slash]), same]
    rfl
  · intro byte text rest
    have here := size_mark_sees_line (byte :: text) rest
    rw [List.cons_append] at here
    rw [findSizeMark, findSizeMark, size_mark_sees_line, here]
  · intro byte text edit found
    unfold findSizeMark at found
    split at found
    · rename_i marked
      cases found
      exact size_mark_length text (Bool.and_eq_true_iff.mp marked).2
    · split at found
      · rename_i marked
        cases found
        have long := size_mark_length (byte :: text) marked
        simp only [List.length_cons] at long
        simp only
        omega
      · cases found

theorem register_mark_elsewhere (byte : UInt8) (text : Bytes) (other : byte ≠ 0x2B) :
    findRegisterMark byte text = none := by
  unfold findRegisterMark
  split
  · exact absurd rfl other
  · rfl

theorem register_mark_confined : Confined findRegisterMark := by
  refine ⟨fun rest => register_mark_elsewhere newline rest (by decide), ?_, ?_⟩
  · intro byte text rest
    by_cases plus : byte = 0x2B
    · subst plus
      match text with
      | [] =>
          match rest with
          | [] | [_] => rfl
          | _ :: _ :: _ => simp [findRegisterMark, newline, Bytes.space]
      | [_] =>
          match rest with
          | [] => rfl
          | _ :: _ => simp [findRegisterMark, newline]
      | [_, _] => simp [findRegisterMark, isSizeLetter, newline]
      | _ :: _ :: _ :: _ => rfl
    · rw [register_mark_elsewhere byte _ plus, register_mark_elsewhere byte text plus]
  · intro byte text edit found
    unfold findRegisterMark at found
    split at found
    · split at found
      · cases found
        simp
      · cases found
    · cases found

theorem take_sees_line (keep : UInt8 → Bool) (stop : keep newline = false) :
    SeesLine (List.takeWhile keep) := by
  intro text rest
  induction text with
  | nil => simp [stop]
  | cons byte more ih =>
      rw [List.cons_append, List.takeWhile_cons, List.takeWhile_cons, ih]

theorem drop_at_newline (skip : UInt8 → Bool) (stop : skip newline = false) (text rest : Bytes) :
    (text ++ newline :: rest).dropWhile skip = text.dropWhile skip ++ newline :: rest := by
  induction text with
  | nil => simp [stop]
  | cons byte more ih =>
      rw [List.cons_append, List.dropWhile_cons, List.dropWhile_cons, ih]
      split
      · rfl
      · rfl

theorem column_sees_line : SeesLine startsColumn := by
  intro text rest
  match text with
  | [] =>
      cases rest with
      | nil => rfl
      | cons _ _ => simp [startsColumn, newline, Bytes.space]
  | [_] => simp [startsColumn, isNotNewline]
  | _ :: _ :: _ => rfl

theorem trailing_columns_confined : Confined findTrailingColumns := by
  refine ⟨fun _ => rfl, ?_, ?_⟩
  · intro byte text rest
    rw [findTrailingColumns, findTrailingColumns, drop_at_newline isEncodingLetter rfl,
      column_sees_line, take_sees_line isNotNewline rfl, take_sees_line isEncodingLetter rfl]
  · intro byte text edit found
    unfold findTrailingColumns at found
    split at found
    · cases found
    · split at found
      · cases found
        exact (List.takeWhile_prefix _).length_le
      · cases found
        exact (List.takeWhile_prefix _).length_le

theorem split_token_line (text rest : Bytes) :
    splitToken (text ++ newline :: rest) =
      ((splitToken text).1, (splitToken text).2 ++ newline :: rest) := by
  cases text with
  | nil => rfl
  | cons byte more =>
      have run := take_sees_line isTokenByte rfl more rest
      have after := drop_at_newline isTokenByte rfl more rest
      have wholeRun := take_sees_line isTokenByte rfl (byte :: more) rest
      have wholeAfter := drop_at_newline isTokenByte rfl (byte :: more) rest
      rw [List.cons_append] at wholeRun wholeAfter
      simp only [List.cons_append, splitToken, run, after, wholeRun, wholeAfter]
      split
      · cases more.takeWhile isTokenByte with
        | nil => rfl
        | cons _ _ => rfl
      · rfl

theorem split_token_parts (text : Bytes) : (splitToken text).1 ++ (splitToken text).2 = text := by
  cases text with
  | nil => rfl
  | cons byte more =>
      simp only [splitToken]
      split
      · have parts := List.takeWhile_append_dropWhile (p := isTokenByte) (l := more)
        cases run : more.takeWhile isTokenByte with
        | nil => rfl
        | cons _ _ =>
            rw [run] at parts
            simp only
            rw [List.cons_append, parts]
      · exact List.takeWhile_append_dropWhile

theorem column_line (after rest : Bytes) (starts : startsColumn after = true) :
    ((after ++ newline :: rest).drop 1).takeWhile isNotNewline = (after.drop 1).takeWhile isNotNewline := by
  cases after with
  | nil => cases starts
  | cons gap column => exact take_sees_line isNotNewline rfl column rest

theorem token_confined : Confined findToken := by
  refine ⟨fun _ => rfl, ?_, ?_⟩
  · intro byte text rest
    have same := split_token_line (byte :: text) rest
    rw [List.cons_append] at same
    simp only [findToken, same]
    rcases splitToken (byte :: text) with ⟨token, after⟩
    cases token with
    | nil => rfl
    | cons _ _ =>
        simp only [column_sees_line after rest]
        split
        · rename_i starts
          rw [column_line after rest starts]
        · rfl
  · intro byte text edit found
    have parts := congrArg List.length (split_token_parts (byte :: text))
    simp only [findToken] at found
    rcases split : splitToken (byte :: text) with ⟨token, after⟩
    simp only [split] at found parts
    simp only [List.length_append, List.length_cons] at parts
    cases token with
    | nil => cases found
    | cons _ _ =>
        simp only at found
        split at found
        · rename_i starts
          cases found
          cases after with
          | nil => cases starts
          | cons gap column =>
              have short := (List.takeWhile_prefix isNotNewline (l := column)).length_le
              simp only [List.drop_one, List.tail_cons, List.length_cons] at parts ⊢
              omega
        · cases found
          simp only [List.length_cons] at parts ⊢
          omega

-- A newline is no part of a character of several bytes.
theorem head_scalar_sees_line (lead : UInt8) : SeesLine (Utf8.headScalar lead) := by
  intro text rest
  have tail : Utf8.isTail newline = false := rfl
  have second (low least high most : UInt8) (bounds : 0x80 ≤ least ∧ most ≤ 0xBF) :
      Utf8.secondAfter low least high most lead newline = false := by
    rw [← Bool.not_eq_true]
    intro follows
    rw [Utf8.second_after_tail low least high most lead newline bounds follows] at tail
    cases tail
  have three : Utf8.secondOfThree lead newline = false := second 0xE0 0xA0 0xED 0x9F (by decide)
  have four : Utf8.secondOfFour lead newline = false := second 0xF0 0x90 0xF4 0x8F (by decide)
  rcases text with _ | ⟨_, _ | ⟨_, _ | ⟨_, _⟩⟩⟩
  · rcases rest with _ | ⟨_, _ | ⟨_, _⟩⟩ <;> simp [Utf8.headScalar, tail, three, four]
  · rcases rest with _ | ⟨_, _⟩ <;> simp [Utf8.headScalar, tail]
  · simp [Utf8.headScalar, tail]
  · rfl

theorem glyphs_at_newline (first rest : Bytes) :
    Utf8.glyphs (first ++ newline :: rest) =
      Utf8.glyphs first ++ Glyph.scalar newline.toNat :: Utf8.glyphs rest := by
  induction counted : first.length using Nat.strongRecOn generalizing first with
  | _ size ih =>
      cases first with
      | nil => exact Utf8.glyphs_scalar newline rest _ _ rfl
      | cons byte more =>
          have same := head_scalar_sees_line byte more rest
          rw [List.cons_append]
          cases found : Utf8.headScalar byte more with
          | none =>
              rw [found] at same
              rw [Utf8.glyphs_stray byte _ same, Utf8.glyphs_stray byte more found, List.cons_append,
                ih more.length (by rw [← counted]; simp) more rfl]
          | some head =>
              rw [found] at same
              have within := Utf8.head_scalar_reach byte more head.1 head.2 found
              have shorter : (more.drop head.2).length < size := by
                rw [← counted, List.length_drop, List.length_cons]
                omega
              rw [Utf8.glyphs_scalar byte _ head.1 head.2 same, Utf8.glyphs_scalar byte more head.1 head.2 found,
                List.drop_append_of_le_length within, ih _ shorter _ rfl, List.cons_append]

theorem newline_neutral :
    isCased (.scalar newline.toNat) = false ∧ isCaseIgnorable (.scalar newline.toNat) = false := by
  decide

theorem cased_follows_line (reach : Nat) (text rest : List Glyph) :
    casedFollows reach (text ++ .scalar newline.toNat :: rest) = casedFollows reach text := by
  induction reach generalizing text with
  | zero => cases text <;> rfl
  | succ reach ih =>
      cases text with
      | nil => simp [casedFollows, newline_neutral]
      | cons glyph more =>
          rw [List.cons_append, casedFollows, casedFollows, ih]

theorem lower_at_newline (inWord : Bool) (first rest : List Glyph) :
    lowerFrom inWord (first ++ .scalar newline.toNat :: rest) [] =
      lowerFrom inWord first [] ++ .scalar newline.toNat :: lowerFrom false rest [] := by
  induction first generalizing inWord with
  | nil =>
      have outside : staysInWord inWord (.scalar newline.toNat) = false := by
        simp [staysInWord, newline_neutral]
      rw [List.nil_append, lower_from_cons, lowerHere, outside]
      rfl
  | cons glyph more ih =>
      have here : lowerHere inWord glyph (more ++ .scalar newline.toNat :: rest) = lowerHere inWord glyph more := by
        simp only [lowerHere, lowerInWord, cased_follows_line]
      rw [List.cons_append, lower_from_cons, lower_from_cons, here, ih, List.append_assoc]

theorem full_lowercase_linewise : Linewise fullLowercase := by
  intro first rest
  rw [fullLowercase, glyphs_at_newline, lower_at_newline]
  simp only [Utf8.encode, List.flatMap_append, List.flatMap_cons, fullLowercase]
  rfl

theorem replace_operands_linewise : Linewise replaceOperands := by
  have suitable : ∀ entry ∈ operands, entry.target ≠ [] ∧ newline ∉ entry.target := by decide
  apply fold_linewise Operand.apply operands
  intro entry member
  obtain ⟨present, unbroken⟩ := suitable entry member
  exact replace_linewise entry.target entry.code present unbroken

theorem early_rules_linewise : ∀ step ∈ chain.take 6, Linewise step.apply := by
  simp only [chain, List.take_succ_cons, List.take_zero, List.forall_mem_cons]
  refine ⟨?_, ?_, ?_, ?_, ?_, ?_, List.forall_mem_nil _⟩
  · exact replace_linewise _ _ (by decide) (by decide)
  · exact drop_spaces_linewise startsBytePair byte_pair_sees_line
  · exact sweep_linewise findSizeMark size_mark_confined
  · exact sweep_linewise findRegisterMark register_mark_confined
  · exact sweep_linewise findTrailingColumns trailing_columns_confined
  · exact drop_spaces_linewise startsSubcode subcode_sees_line

theorem late_rules_linewise : ∀ step ∈ chain.drop 7, Linewise step.apply := by
  simp only [chain, List.drop_succ_cons, List.drop_zero, List.forall_mem_cons]
  refine ⟨?_, ?_, ?_, List.forall_mem_nil _⟩
  · exact replace_operands_linewise
  · exact replace_linewise _ _ (by decide) (by decide)
  · exact sweep_linewise findToken token_confined

end OpcodeTable.Rule
