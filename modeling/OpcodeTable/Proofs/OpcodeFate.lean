import OpcodeTable.Proofs.DescriptionColumns
import OpcodeTable.Proofs.LoweredDigits

/-!
The first four rules close up the opcode and change none of its digits, and the last five keep them
together. Only the fifth rule can cut into them, when they end in the letter `D` and a column follows: it
takes the letters for the operand encoding.
-/

set_option autoImplicit false

namespace OpcodeTable.Rule

open Bytes (Edit newline space isUpperHex sweep replaceAll findLiteral)

structure OpcodeByte where
  high : UInt8
  low : UInt8
  hex : isUpperHex high = true ∧ isUpperHex low = true

def OpcodeByte.digits (byte : OpcodeByte) : Bytes := [byte.high, byte.low]

def opcodeText (opcode : List OpcodeByte) : Bytes := [space].intercalate (opcode.map OpcodeByte.digits)

def opcodeDigits (opcode : List OpcodeByte) : Bytes := opcode.flatMap OpcodeByte.digits

def Gapped (text : Bytes) : Prop := text = [] ∨ ∃ more, text = space :: more

def Paired (text : Bytes) : Prop :=
  ∃ high low more, text = high :: low :: more ∧ isUpperHex high = true ∧ isUpperHex low = true

theorem Gapped.follows {text : Bytes} (gapped : Gapped text) : Follows text := by
  rcases gapped with rfl | ⟨more, rfl⟩
  · exact .nothing
  · exact .gap more

theorem Paired.follows {text : Bytes} (paired : Paired text) : Follows text := by
  obtain ⟨high, low, more, rfl, upper⟩ := paired
  exact .pair high low more upper

theorem OpcodeByte.digits_hex (byte : OpcodeByte) : ∀ digit ∈ byte.digits, isUpperHex digit = true := by
  simp [OpcodeByte.digits, byte.hex.1, byte.hex.2]

theorem opcode_digits_hex (opcode : List OpcodeByte) : ∀ byte ∈ opcodeDigits opcode, isUpperHex byte = true := by
  intro byte member
  obtain ⟨pair, _, inside⟩ := List.mem_flatMap.mp member
  exact pair.digits_hex byte inside

theorem opcode_text_next (first second : OpcodeByte) (more : List OpcodeByte) :
    opcodeText (first :: second :: more) = first.digits ++ space :: opcodeText (second :: more) := by
  simp [opcodeText, List.intercalate]

theorem opcode_text_bytes (opcode : List OpcodeByte) :
    ∀ byte ∈ opcodeText opcode, byte = space ∨ isUpperHex byte = true := by
  induction opcode with
  | nil => nofun
  | cons first more ih =>
      have own : ∀ byte ∈ first.digits, byte = space ∨ isUpperHex byte = true :=
        fun byte member => Or.inr (first.digits_hex byte member)
      cases more with
      | nil => simpa [opcodeText, List.intercalate] using own
      | cons second later =>
          rw [opcode_text_next, List.forall_mem_append, List.forall_mem_cons]
          exact ⟨own, Or.inl rfl, ih⟩

theorem join_opcode (opcode : List OpcodeByte) (present : opcode ≠ []) (rest : Bytes) :
    joinBytePairs (opcodeText opcode ++ rest) = opcodeDigits opcode ++ joinBytePairs rest := by
  induction opcode with
  | nil => exact absurd rfl present
  | cons first more ih =>
      have closed := digits_closed first.digits first.digits_hex
      cases more with
      | nil =>
          have text : opcodeText [first] = first.digits := by simp [opcodeText, List.intercalate]
          have digits : opcodeDigits [first] = first.digits := by simp [opcodeDigits]
          rw [text, digits]
          exact drop_spaces_pass startsBytePair first.digits rest closed
      | cons second later =>
          have ahead : startsBytePair (opcodeText (second :: later) ++ rest) = true := by
            cases later with
            | nil => simp [opcodeText, List.intercalate, OpcodeByte.digits, startsBytePair, second.hex]
            | cons third last => simp [opcode_text_next, OpcodeByte.digits, startsBytePair, second.hex]
          have gap : joinBytePairs (space :: (opcodeText (second :: later) ++ rest)) =
              joinBytePairs (opcodeText (second :: later) ++ rest) := by
            rw [joinBytePairs, drop_spaces_cons, if_pos (by simp [ahead])]
          calc joinBytePairs (opcodeText (first :: second :: later) ++ rest)
              = joinBytePairs (first.digits ++ space :: (opcodeText (second :: later) ++ rest)) := by
                rw [opcode_text_next, List.append_assoc, List.cons_append]
            _ = first.digits ++ joinBytePairs (space :: (opcodeText (second :: later) ++ rest)) :=
                drop_spaces_pass startsBytePair first.digits _ closed
            _ = first.digits ++ (opcodeDigits (second :: later) ++ joinBytePairs rest) := by
                rw [gap, ih (List.cons_ne_nil second later)]
            _ = opcodeDigits (first :: second :: later) ++ joinBytePairs rest := by
                rw [← List.append_assoc]
                rfl

structure Idle (find : UInt8 → Bytes → Option Edit) : Prop where
  gap : ∀ rest, find space rest = none
  digit : ∀ byte, isUpperHex byte = true → ∀ rest, find byte rest = none
  smooth : ∀ text, newline ∉ text → newline ∉ sweep find text

theorem wide_idle : Idle (findLiteral wideTarget (ascii "w")) :=
  ⟨fun _ => rfl, fun byte hex rest => literal_elsewhere 0x52 _ _ byte rest (upper_digit byte hex).wide,
    (wide_passes 0x52 rfl).unbroken⟩

theorem size_mark_idle_digits : Idle findSizeMark :=
  ⟨fun rest => size_mark_elsewhere space rest (by decide) rfl,
    fun byte hex rest => size_mark_elsewhere byte rest (upper_digit byte hex).slash (upper_digit byte hex).operand,
    (size_mark_passes 0x52 rfl).unbroken⟩

theorem register_mark_idle_digits : Idle findRegisterMark :=
  ⟨fun rest => register_mark_elsewhere space rest (by decide),
    fun byte hex rest => register_mark_elsewhere byte rest (upper_digit byte hex).plus,
    (register_mark_passes 0x52 rfl).unbroken⟩

theorem Idle.pass {find : UInt8 → Bytes → Option Edit} (idle : Idle find) (front back : Bytes)
    (bytes : ∀ byte ∈ front, byte = space ∨ isUpperHex byte = true) :
    sweep find (front ++ back) = front ++ sweep find back := by
  apply sweep_idle
  intro byte member rest
  rcases bytes byte member with rfl | hex
  · exact idle.gap rest
  · exact idle.digit byte hex rest

theorem Idle.gapped {find : UInt8 → Bytes → Option Edit} (idle : Idle find) (text : Bytes) (gapped : Gapped text) :
    Gapped (sweep find text) := by
  rcases gapped with rfl | ⟨more, rfl⟩
  · exact Or.inl rfl
  · exact Or.inr ⟨_, Bytes.sweep_keep find space more (idle.gap more)⟩

theorem Idle.paired {find : UInt8 → Bytes → Option Edit} (idle : Idle find) (text : Bytes) (paired : Paired text) :
    Paired (sweep find text) := by
  obtain ⟨high, low, more, rfl, upper⟩ := paired
  refine ⟨high, low, sweep find more, ?_, upper⟩
  rw [Bytes.sweep_keep find high _ (idle.digit high upper.1 _),
    Bytes.sweep_keep find low _ (idle.digit low upper.2 _)]

theorem paired_before (text : Bytes) (paired : Paired (replaceAll wideTarget (ascii "w") text)) : Paired text := by
  obtain ⟨high, low, more, same, upper⟩ := paired
  have apart : ∀ n < [high, low].length, Apart ([high, low].drop n) (ascii "w") := by
    have other (byte : UInt8) (hex : isUpperHex byte = true) : byte ≠ 0x77 := by
      rintro rfl
      cases hex
    have code : ascii "w" = [0x77] := rfl
    intro n inside
    rw [code]
    match n, inside with
    | 0, _ => simp [Apart, (other high upper.1).symm]
    | 1, _ => simp [Apart, other low upper.2, (other low upper.2).symm]
  have start : [high, low] <+: replaceAll wideTarget (ascii "w") text := ⟨more, by rw [same]; rfl⟩
  obtain ⟨later, split⟩ := start_before wideTarget (ascii "w") [high, low] text apart start
  exact ⟨high, low, later, split.symm, upper⟩

theorem join_gapped (text : Bytes) (gapped : Gapped text) :
    Gapped (joinBytePairs text) ∨ Paired (joinBytePairs text) ∧ ∃ more, text = space :: more ∧ Paired more := by
  rcases gapped with rfl | ⟨more, rfl⟩
  · exact Or.inl (Or.inl rfl)
  · by_cases pair : startsBytePair more = true
    · match more, pair with
      | high :: low :: later, pair =>
          have upper := Bool.and_eq_true_iff.mp pair
          refine Or.inr ⟨⟨high, low, joinBytePairs later, ?_, upper⟩, high :: low :: later, rfl, ?_⟩
          · have kept := drop_spaces_pass startsBytePair [high, low] later
              (digits_closed _ (by simp [upper]))
            rw [joinBytePairs, drop_spaces_cons, if_pos (by simp [pair])]
            exact kept
          · exact ⟨high, low, later, rfl, upper⟩
    · refine Or.inl (Or.inr ⟨joinBytePairs more, ?_⟩)
      exact drop_spaces_keep startsBytePair space more (Or.inr (by simpa using pair))

-- After four rules the digits stand together. What follows them is a gap, or more of an opcode when
-- more of an opcode followed them from the start.
theorem first_rules_digits (opcode : List OpcodeByte) (rest : Bytes) (present : opcode ≠ [])
    (unbroken : newline ∉ rest) (gapped : Gapped rest) :
    ∃ tail, applyAll (chain.take 4) (opcodeText opcode ++ rest) = opcodeDigits opcode ++ tail ∧
      newline ∉ tail ∧ (Gapped tail ∨ Paired tail ∧ ∃ more, rest = space :: more ∧ Paired more) := by
  have hex : ∀ byte ∈ opcodeDigits opcode, byte = space ∨ isUpperHex byte = true :=
    fun byte member => Or.inr (opcode_digits_hex opcode byte member)
  let widened := replaceAll wideTarget (ascii "w") rest
  have wide : Gapped widened := wide_idle.gapped rest gapped
  have smooth : newline ∉ widened := wide_idle.smooth rest unbroken
  have joined : newline ∉ joinBytePairs widened :=
    fun member => smooth ((drop_spaces_sublist startsBytePair widened).subset member)
  refine ⟨removeRegisterMarks (removeSizeMarks (joinBytePairs widened)), ?_, ?_, ?_⟩
  · calc applyAll (chain.take 4) (opcodeText opcode ++ rest)
        = removeRegisterMarks (removeSizeMarks (joinBytePairs
            (replaceAll wideTarget (ascii "w") (opcodeText opcode ++ rest)))) := rfl
      _ = removeRegisterMarks (removeSizeMarks (opcodeDigits opcode ++ joinBytePairs widened)) := by
        rw [replaceAll, wide_idle.pass _ rest (opcode_text_bytes opcode), join_opcode opcode present]
        rfl
      _ = _ := by
        rw [removeSizeMarks, removeRegisterMarks, size_mark_idle_digits.pass _ _ hex,
          register_mark_idle_digits.pass _ _ hex]
  · exact register_mark_idle_digits.smooth _ (size_mark_idle_digits.smooth _ joined)
  · rcases join_gapped widened wide with gap | ⟨paired, more, split, behind⟩
    · exact Or.inl (register_mark_idle_digits.gapped _ (size_mark_idle_digits.gapped _ gap))
    · refine Or.inr ⟨register_mark_idle_digits.paired _ (size_mark_idle_digits.paired _ paired), ?_⟩
      rcases gapped with rfl | ⟨before, rfl⟩
      · exact absurd split (List.cons_ne_nil space more).symm
      · have same : widened = space :: replaceAll wideTarget (ascii "w") before :=
          Bytes.sweep_keep _ space before (wide_idle.gap before)
        rw [same, List.cons.injEq] at split
        exact ⟨before, rfl, paired_before before (split.2 ▸ behind)⟩

theorem trim_split (drop : UInt8 → Bool) (text : Bytes) :
    ∃ run, text = Bytes.trimRight drop text ++ run ∧ (∀ byte ∈ run, drop byte = true) ∧
      ∀ last ∈ (Bytes.trimRight drop text).getLast?, drop last = false := by
  refine ⟨(text.reverse.takeWhile drop).reverse, ?_, ?_, ?_⟩
  · rw [Bytes.trimRight, ← List.reverse_append, List.takeWhile_append_dropWhile, List.reverse_reverse]
  · intro byte member
    exact List.all_eq_true.mp List.all_takeWhile byte (List.mem_reverse.mp member)
  · intro last ended
    rw [Bytes.trimRight, List.getLast?_reverse] at ended
    have stopped := List.head?_dropWhile_not drop text.reverse
    rw [Option.mem_def.mp ended] at stopped
    simpa using stopped

theorem trim_subset (drop : UInt8 → Bool) (text : Bytes) : Bytes.trimRight drop text ⊆ text := by
  obtain ⟨run, split, _⟩ := trim_split drop text
  intro byte member
  rw [split]
  exact List.mem_append_left run member

theorem digits_not_encoding (digits : Bytes) (hex : ∀ byte ∈ digits, isUpperHex byte = true)
    (other : ∀ last ∈ digits.getLast?, (last == 0x44) = false) :
    ∀ last ∈ digits.getLast?, isEncodingLetter last = false := by
  intro last ended
  rw [(upper_digit last (hex last (List.mem_of_getLast? ended))).encoding]
  exact other last ended

-- The letters `D` at the end of the digits pass for an operand encoding when a column follows.
theorem columns_after_encoding (digits tail : Bytes) (hex : ∀ byte ∈ digits, isUpperHex byte = true)
    (encoded : digits.getLast? = some 0x44) (gapped : Gapped tail) (unbroken : newline ∉ tail) :
    removeTrailingColumns (digits ++ tail) =
      if startsColumn tail then Bytes.trimRight (· == 0x44) digits else digits ++ tail := by
  obtain ⟨run, split, trimmed, ends⟩ := trim_split (· == 0x44) digits
  have core : ∀ byte ∈ Bytes.trimRight (· == 0x44) digits, isUpperHex byte = true :=
    fun byte member => hex byte (trim_subset (· == 0x44) digits member)
  have present : run ≠ [] := by
    rintro rfl
    rw [List.append_nil] at split
    rw [split] at encoded
    exact absurd (ends 0x44 encoded) (by decide)
  have letters : ∀ byte ∈ run, isEncodingLetter byte = true := by
    intro byte member
    have same : byte = 0x44 := by simpa using trimmed byte member
    rw [same]
    rfl
  have stop : ∀ byte ∈ tail.head?, isEncodingLetter byte = false := by
    rcases gapped with rfl | ⟨more, rfl⟩
    · nofun
    · rintro byte ⟨⟩
      rfl
  have passed := columns_pass _ (run ++ tail) (digits_closed _ core) (digits_not_encoding _ core ends)
  rw [← List.append_assoc, ← split] at passed
  by_cases column : startsColumn tail = true
  · rw [if_pos column, passed, columns_end run tail ⟨present, letters, stop⟩ column unbroken, List.append_nil]
  · have kept : removeTrailingColumns tail = tail := by
      rcases gapped with rfl | ⟨more, rfl⟩
      · rfl
      · cases more with
        | nil => rfl
        | cons first later =>
            have behind : newline ∉ first :: later := fun member => unbroken (List.mem_cons_of_mem space member)
            exact absurd (gap_starts_column (first :: later) (List.cons_ne_nil first later) behind) column
    rw [if_neg column, passed, columns_stay run tail ⟨present, letters, stop⟩ (by simpa using column), kept,
      ← List.append_assoc, ← split]

theorem column_after_digits (digits tail : Bytes) (unbroken : newline ∉ tail) :
    (∃ byte more, digits ++ tail = digits ++ space :: byte :: more) ↔ startsColumn tail = true := by
  constructor
  · rintro ⟨byte, more, same⟩
    rw [List.append_cancel_left same] at unbroken ⊢
    apply gap_starts_column (byte :: more) (List.cons_ne_nil byte more)
    exact fun member => unbroken (List.mem_cons_of_mem space member)
  · intro column
    match tail, column with
    | first :: second :: more, column =>
        have gap : first = space := by simpa using (Bool.and_eq_true_iff.mp column).1
        exact ⟨second, more, by rw [gap]⟩

theorem opcode_fate (opcode : List OpcodeByte) (rest : Bytes) (present : opcode ≠ [])
    (unbroken : newline ∉ rest) (gapped : Gapped rest) :
    let line := opcodeText opcode ++ rest
    let digits := opcodeDigits opcode
    let joined := applyAll (chain.take 4) line
    digits <+: joined ∧
      (digits.getLast? ≠ some 0x44 → lowered digits <:+: normalize line) ∧
      (digits.getLast? = some 0x44 → (¬ ∃ more, rest = space :: more ∧ Paired more) →
        ((∃ byte more, joined = digits ++ space :: byte :: more) →
          normalize line = lowered (Bytes.trimRight (· == 0x44) digits)) ∧
        ((¬ ∃ byte more, joined = digits ++ space :: byte :: more) → lowered digits <:+: normalize line)) := by
  intro line digits joined
  have hex := opcode_digits_hex opcode
  obtain ⟨tail, closedUp, smooth, behind⟩ := first_rules_digits opcode rest present unbroken gapped
  change joined = digits ++ tail at closedUp
  have five : normalize line = applyAll (chain.drop 5) (removeTrailingColumns (digits ++ tail)) := by
    rw [← closedUp]
    exact normalize_after 5 line
  refine ⟨⟨tail, closedUp.symm⟩, ?_, ?_⟩
  · intro other
    have unencoded : ∀ last ∈ digits.getLast?, (last == 0x44) = false := by
      intro last ended
      rw [beq_eq_false_iff_ne]
      rintro rfl
      exact other ended
    have follows : Follows tail := behind.elim Gapped.follows fun paired => paired.1.follows
    rw [five, columns_pass digits tail (digits_closed digits hex) (digits_not_encoding digits hex unencoded)]
    exact digits_survive digits _ hex (follows.shorter (columns_start tail smooth))
  · intro encoded unpaired
    have gap : Gapped tail := behind.resolve_right fun paired => unpaired paired.2
    have column := column_after_digits digits tail smooth
    rw [columns_after_encoding digits tail hex encoded gap smooth] at five
    constructor
    · intro follows
      rw [closedUp] at follows
      rw [five, if_pos (column.mp follows)]
      apply digits_alone
      exact fun byte member => hex byte (trim_subset (· == 0x44) digits member)
    · intro alone
      rw [closedUp] at alone
      rw [five, if_neg (mt column.mpr alone)]
      exact digits_survive digits tail hex gap.follows

def shiftDouble : List OpcodeByte := [⟨0x30, 0x46, by decide⟩, ⟨0x41, 0x44, by decide⟩]

theorem shift_double_fate :
    shiftDouble ≠ [] ∧ newline ∉ ascii " /r SHRD r/m16, r16, CL" ∧ Gapped (ascii " /r SHRD r/m16, r16, CL") ∧
      normalize (ascii "0F AD /r SHRD r/m16, r16, CL") = ascii "0fa" := by
  have gapped : Gapped (ascii " /r SHRD r/m16, r16, CL") := Or.inr ⟨_, rfl⟩
  have unpaired : ¬ ∃ more, ascii " /r SHRD r/m16, r16, CL" = space :: more ∧ Paired more := by
    rintro ⟨_, ⟨⟩, _, _, _, ⟨⟩, upper, _⟩
    cases upper
  have fate := opcode_fate shiftDouble (ascii " /r SHRD r/m16, r16, CL") (by decide) (by decide) gapped
  exact ⟨by decide, by decide, gapped, (fate.2.2 rfl unpaired).1 ⟨0x2F, ascii "r SHRD r/m16, r16, CL", by decide⟩⟩

end OpcodeTable.Rule
