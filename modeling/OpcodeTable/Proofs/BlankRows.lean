import OpcodeTable.Proofs.ColumnCut
import OpcodeTable.Proofs.OpcodeFate
import OpcodeTable.Proofs.RowClasses

/-!
Every rule but one leaves a byte at the start of a row, the one it finds there or another. Only the cut of
the trailing columns can take that byte, and with it the whole text line.
-/

set_option autoImplicit false

namespace OpcodeTable.Rule

open Bytes (newline space comma isLowerHex replaceAll sweep_keep sweep_edit)

def opensRow (byte : UInt8) : Bool := Row.isOpcodeLead byte || byte == wideMark

def opensLowered (byte : UInt8) : Bool := isLowerHex byte || (ascii "rwRMI").contains byte

structure RowStart (byte : UInt8) : Prop where
  gap : byte ≠ space
  slash : byte ≠ Bytes.slash
  operand : isOperandLetter byte = false
  plus : byte ≠ 0x2B
  encoding : isEncodingLetter byte = true → byte = 0x52 ∨ byte = 0x44
  basic : byte < 0x80
  lower : opensLowered (lowerLetter byte) = true

theorem row_start (byte : UInt8) (opens : opensRow byte = true) : RowStart byte := by
  have facts : opensRow byte = true → byte ≠ space ∧ byte ≠ Bytes.slash ∧ isOperandLetter byte = false ∧
      byte ≠ 0x2B ∧ (isEncodingLetter byte = true → byte = 0x52 ∨ byte = 0x44) ∧ byte < 0x80 ∧
      opensLowered (lowerLetter byte) = true := by
    apply Bytes.every_byte _ byte
    decide +kernel
  obtain ⟨gap, slash, operand, plus, encoding, basic, lower⟩ := facts opens
  exact ⟨gap, slash, operand, plus, encoding, basic, lower⟩

theorem first_rules (line : Bytes) :
    applyAll (chain.take 4) line =
      removeRegisterMarks (removeSizeMarks (joinBytePairs (replaceAll wideTarget (ascii "w") line))) := rfl

theorem five_rules (line : Bytes) :
    applyAll (chain.take 5) line = removeTrailingColumns (applyAll (chain.take 4) line) := rfl

theorem first_rules_unbroken (line : Bytes) (unbroken : newline ∉ line) :
    newline ∉ applyAll (chain.take 4) line := by
  have wide := wide_idle.smooth line unbroken
  have joined : newline ∉ joinBytePairs (replaceAll wideTarget (ascii "w") line) :=
    fun member => wide ((drop_spaces_sublist startsBytePair _).subset member)
  rw [first_rules]
  exact register_mark_idle_digits.smooth _ (size_mark_idle_digits.smooth _ joined)

-- The first byte is kept by four rules. Only the mark of the wide form is written otherwise.
theorem first_rules_start (first : UInt8) (rest : Bytes) (lead : Row.isOpcodeLead first = true) :
    ∃ start more, applyAll (chain.take 4) (first :: rest) = start :: more ∧ opensRow start = true ∧
      (start = first ∨ first = 0x52) := by
  have widened : ∃ start more, replaceAll wideTarget (ascii "w") (first :: rest) = start :: more ∧
      opensRow start = true ∧ (start = first ∨ first = 0x52) := by
    by_cases hit : wideTarget <+: first :: rest
    · rw [replace_hit wideTarget (ascii "w") first rest hit]
      exact ⟨wideMark, _, rfl, rfl, Or.inr (List.cons_prefix_cons.mp hit).1.symm⟩
    · exact ⟨first, _, replace_miss wideTarget (ascii "w") first rest hit, by simp [opensRow, lead], Or.inl rfl⟩
  obtain ⟨start, more, wide, opens, own⟩ := widened
  have known := row_start start opens
  refine ⟨start, removeRegisterMarks (removeSizeMarks (joinBytePairs more)), ?_, opens, own⟩
  rw [first_rules, wide, joinBytePairs, drop_spaces_keep startsBytePair start more (Or.inl known.gap),
    removeSizeMarks, sweep_keep findSizeMark start _ (size_mark_elsewhere start _ known.slash known.operand),
    removeRegisterMarks, sweep_keep findRegisterMark start _ (register_mark_elsewhere start _ known.plus)]

def StartsLowered (text : Bytes) : Prop := ∃ first more, text = first :: more ∧ opensLowered first = true

theorem lowercase_start (start : UInt8) (more : Bytes) (opens : opensRow start = true) :
    StartsLowered (lowercase (start :: more)) := by
  have known := row_start start opens
  obtain ⟨rest, split, _⟩ := (lowercase_lowered (start :: more)).basic known.basic
  exact ⟨lowerLetter start, rest, split, known.lower⟩

theorem operands_start (text : Bytes) (starts : StartsLowered text) : StartsLowered (replaceOperands text) := by
  have suitable : ∀ entry ∈ operands, entry.target ≠ [] ∧
      (entry.target.head?.any opensLowered = true → entry.code.head?.any opensLowered = true) := by
    decide
  apply List.foldlRecOn operands (fun text entry => entry.apply text) starts
  rintro _ ⟨byte, rest, rfl, opens⟩ entry member
  obtain ⟨present, written⟩ := suitable entry member
  exact replace_first opensLowered entry.target entry.code present written byte rest opens

theorem commas_start (text : Bytes) (starts : StartsLowered text) : StartsLowered (replaceAll [comma] [] text) := by
  obtain ⟨byte, rest, rfl, opens⟩ := starts
  exact replace_first opensLowered [comma] [] (List.cons_ne_nil _ _) nofun byte rest opens

theorem reorder_present (text : Bytes) (present : text ≠ []) : reorder text ≠ [] := by
  obtain ⟨byte, rest, rfl⟩ := List.exists_cons_of_ne_nil present
  cases found : findToken byte rest with
  | none =>
      rw [reorder, sweep_keep findToken byte rest found]
      exact List.cons_ne_nil _ _
  | some edit =>
      rw [reorder, sweep_edit findToken byte rest edit found]
      apply List.append_ne_nil_of_left_ne_nil
      unfold findToken at found
      split at found
      · cases found
      · rename_i token after filled split
        have whole : token ≠ [] := by
          rintro rfl
          exact filled rfl
        split at found
        · rw [← Option.some.inj found]
          exact List.append_ne_nil_of_right_ne_nil _ whole
        · rw [← Option.some.inj found]
          exact whole

theorem later_rules_present (start : UInt8) (more : Bytes) (opens : opensRow start = true) :
    applyAll (chain.drop 5) (start :: more) ≠ [] := by
  have joined : joinSubcodes (start :: more) = start :: joinSubcodes more :=
    drop_spaces_keep startsSubcode start more (Or.inl (row_start start opens).gap)
  rw [later_rules, joined]
  apply reorder_present
  obtain ⟨first, rest, same, _⟩ := commas_start _ (operands_start _ (lowercase_start start (joinSubcodes more) opens))
  rw [same]
  exact List.cons_ne_nil first rest

theorem normalize_present (line : Bytes) (start : UInt8) (more : Bytes)
    (joined : applyAll (chain.take 4) line = start :: more) (opens : opensRow start = true)
    (closed : opensColumn isEncodingLetter (start :: more) = false) : normalize line ≠ [] := by
  rw [normalize_after 5, five_rules, joined, columns_keep start more closed]
  exact later_rules_present start _ opens

theorem normalize_cut (line : Bytes) (unbroken : newline ∉ line)
    (opens : opensColumn isEncodingLetter (applyAll (chain.take 4) line) = true) : normalize line = [] := by
  have smooth := first_rules_unbroken line unbroken
  cases joined : applyAll (chain.take 4) line with
  | nil =>
      rw [joined] at opens
      cases opens
  | cons start more =>
      rw [joined] at opens smooth
      rw [normalize_after 5, five_rules, joined, columns_open start more opens,
        drop_unbroken more fun member => smooth (List.mem_cons_of_mem start member)]
      rfl

theorem opens_column_iff (text : Bytes) (unbroken : newline ∉ text) :
    opensColumn isEncodingLetter text = true ↔
      ∃ run first more, run ≠ [] ∧ (∀ byte ∈ run, byte ∈ ascii "RMID") ∧ text = run ++ space :: first :: more := by
  constructor
  · intro opens
    cases text with
    | nil => cases opens
    | cons byte rest =>
        obtain ⟨column, _, found⟩ := first_column_run_here isEncodingLetter byte rest opens
        obtain ⟨first, more, rfl⟩ := List.exists_cons_of_ne_nil found.more
        exact ⟨_, first, more, found.present,
          fun letter member => (encoding_letter_iff letter).mp (found.letters letter member),
          found.split⟩
  · rintro ⟨run, first, more, present, letters, split⟩
    apply column_run_opens rfl text run (first :: more) unbroken
    exact ⟨split, present, fun letter member => (encoding_letter_iff letter).mpr (letters letter member), nofun,
      List.cons_ne_nil first more⟩

theorem normalize_blank_iff (line : Bytes) (plain : Row.classify line = .plain) :
    (normalize line = [] → line.head? = some 0x52 ∨ line.head? = some 0x44) ∧
      (newline ∉ line → (normalize line = [] ↔ ∃ run first more, run ≠ [] ∧ (∀ byte ∈ run, byte ∈ ascii "RMID") ∧
        applyAll (chain.take 4) line = run ++ space :: first :: more)) := by
  obtain ⟨_, leads, _⟩ := (Row.classify_iff line .plain).mp plain
  obtain ⟨first, rest, rfl⟩ := List.exists_cons_of_ne_nil (Row.leads_present line leads)
  rw [Row.leads_opcode_cons] at leads
  obtain ⟨start, more, joined, opens, own⟩ := first_rules_start first rest leads
  have blank : normalize (first :: rest) = [] → opensColumn isEncodingLetter (start :: more) = true := by
    intro empty
    rw [← Bool.not_eq_false]
    exact fun closed => normalize_present _ start more joined opens closed empty
  constructor
  · intro empty
    have encoding := (Bool.and_eq_true_iff.mp (blank empty)).1
    rw [List.head?_cons, Option.some.injEq, Option.some.injEq]
    rcases own with rfl | mark
    · exact (row_start start opens).encoding encoding
    · exact Or.inl mark
  · intro unbroken
    rw [← opens_column_iff _ (first_rules_unbroken _ unbroken)]
    refine ⟨?_, normalize_cut _ unbroken⟩
    rw [joined]
    exact blank

theorem normalize_blank_column :
    Row.classify (ascii "RM r/m8, r8") = .plain ∧ normalize (ascii "RM r/m8, r8") = [] ∧
      Row.classify (ascii "88 /r RM r/m8, r8") = .plain ∧ normalize (ascii "88 /r RM r/m8, r8") ≠ [] := by
  refine ⟨by decide, ?_, by decide, ?_⟩
  · apply ((normalize_blank_iff (ascii "RM r/m8, r8") (by decide)).2 (by decide)).mpr
    exact ⟨ascii "RM", 0x72, ascii "/m8, r8", by decide, by decide +kernel, by decide⟩
  · intro empty
    have first := (normalize_blank_iff (ascii "88 /r RM r/m8, r8") (by decide)).1 empty
    revert first
    decide

end OpcodeTable.Rule
