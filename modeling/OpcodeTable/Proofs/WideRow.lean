import OpcodeTable.Proofs.LoweredBytes
import OpcodeTable.Proofs.OpcodeFate
import OpcodeTable.Proofs.TextLines

/-!
The first rule makes one letter of the mark, and no rule before the last one takes notice of that letter:
it stays in front of what the row becomes without it. The last rule moves it along with the opcode, or
leaves both in place.
-/

set_option autoImplicit false

namespace OpcodeTable.Rule

open Bytes (Edit newline space comma isUpperHex isLowerHex sweep replaceAll findLiteral)

def Copies (rule : Bytes → Bytes) : Prop := ∀ text, rule (wideMark :: text) = wideMark :: rule text

theorem fold_copies {ι : Type} (apply : ι → Bytes → Bytes) (rules : List ι)
    (copies : ∀ rule ∈ rules, Copies (apply rule)) :
    Copies fun row => rules.foldl (fun text rule => apply rule text) row := by
  induction rules with
  | nil => exact fun _ => rfl
  | cons rule rest ih =>
      obtain ⟨here, later⟩ := List.forall_mem_cons.mp copies
      intro text
      simp only [List.foldl_cons]
      rw [here text]
      exact ih later (apply rule text)

theorem sweep_copies (find : UInt8 → Bytes → Option Edit) (idle : ∀ rest, find wideMark rest = none) :
    Copies (sweep find) := fun text => Bytes.sweep_keep find wideMark text (idle text)

theorem replace_copies (target code : Bytes) (other : target.head? ≠ some wideMark) (present : target ≠ []) :
    Copies (replaceAll target code) := by
  cases target with
  | nil => exact absurd rfl present
  | cons head more =>
      apply sweep_copies
      intro rest
      exact literal_elsewhere head more code wideMark rest fun same => other (by rw [same]; rfl)

theorem drop_spaces_copies (ahead : Bytes → Bool) : Copies (dropSpaces ahead) :=
  fun text => drop_spaces_keep ahead wideMark text (Or.inl (by decide))

theorem early_rules_copy : ∀ step ∈ (chain.take 6).drop 1, Copies step.apply := by
  simp only [chain, List.take_succ_cons, List.take_zero, List.drop_succ_cons, List.drop_zero, List.forall_mem_cons]
  refine ⟨drop_spaces_copies startsBytePair, sweep_copies findSizeMark ?_, sweep_copies findRegisterMark ?_,
    sweep_copies findTrailingColumns fun _ => rfl, drop_spaces_copies startsSubcode, List.forall_mem_nil _⟩
  · exact fun rest => size_mark_elsewhere wideMark rest (by decide) rfl
  · exact fun rest => register_mark_elsewhere wideMark rest (by decide)

theorem replace_operands_copies : Copies replaceOperands := by
  have suitable : ∀ entry ∈ operands, entry.target.head? ≠ some wideMark ∧ entry.target ≠ [] := by
    decide +kernel
  apply fold_copies Operand.apply operands
  intro entry member
  obtain ⟨other, present⟩ := suitable entry member
  exact replace_copies entry.target entry.code other present

structure Led (lead : UInt8 → Bool) (text : Bytes) : Prop where
  unbroken : newline ∉ text
  first : ∀ byte ∈ text.head?, lead byte = true

theorem Led.shorter {lead : UInt8 → Bool} {text front : Bytes} (led : Led lead text) (start : front <+: text) :
    Led lead front := by
  refine ⟨fun member => led.unbroken (start.subset member), fun byte first => led.first byte ?_⟩
  obtain ⟨back, rfl⟩ := start
  rw [List.head?_append, Option.mem_def.mp first]
  rfl

theorem Led.fold {ι : Type} {lead : UInt8 → Bool} (apply : ι → Bytes → Bytes) (rules : List ι)
    (keeps : ∀ rule ∈ rules, ∀ text, Led lead text → Led lead (apply rule text)) (row : Bytes) (led : Led lead row) :
    Led lead (rules.foldl (fun text rule => apply rule text) row) := by
  induction rules generalizing row with
  | nil => exact led
  | cons rule rest ih =>
      obtain ⟨here, later⟩ := List.forall_mem_cons.mp keeps
      exact ih later (apply rule row) (here row led)

theorem sweep_led (find : UInt8 → Bytes → Option Edit) (idle : Idle find) (text : Bytes) (led : Led isUpperHex text) :
    Led isUpperHex (sweep find text) := by
  refine ⟨idle.smooth text led.unbroken, ?_⟩
  cases text with
  | nil =>
      intro byte first
      cases first
  | cons byte rest =>
      have digit := led.first byte rfl
      rw [Bytes.sweep_keep find byte rest (idle.digit byte digit rest)]
      simpa using digit

theorem drop_spaces_led (ahead : Bytes → Bool) (text : Bytes) (led : Led isUpperHex text) :
    Led isUpperHex (dropSpaces ahead text) := by
  refine ⟨fun member => led.unbroken ((drop_spaces_sublist ahead text).subset member), ?_⟩
  cases text with
  | nil =>
      intro byte first
      cases first
  | cons byte rest =>
      have digit := led.first byte rfl
      rw [drop_spaces_keep ahead byte rest (Or.inl (upper_digit byte digit).gap)]
      simpa using digit

theorem early_rules_led : ∀ step ∈ chain.take 6, ∀ text, Led isUpperHex text → Led isUpperHex (step.apply text) := by
  simp only [chain, List.take_succ_cons, List.take_zero, List.forall_mem_cons]
  refine ⟨sweep_led _ wide_idle, drop_spaces_led startsBytePair, sweep_led _ size_mark_idle_digits,
    sweep_led _ register_mark_idle_digits, ?_, drop_spaces_led startsSubcode, List.forall_mem_nil _⟩
  exact fun text led => led.shorter (columns_start text led.unbroken)

theorem lower_from_digit (byte : UInt8) (rest : Bytes) (hex : isUpperHex byte = true) :
    lowerFrom true (Utf8.glyphs (byte :: rest)) [] = lowerFrom false (Utf8.glyphs (byte :: rest)) [] := by
  have basic := (upper_digit byte hex).basic
  have settled : isUpperHex byte = true →
      staysInWord true (.scalar byte.toNat) = staysInWord false (.scalar byte.toNat) := by
    apply Bytes.every_byte _ byte
    decide +kernel
  have other : Utf8.Glyph.scalar byte.toNat ≠ .scalar capitalSigma := by simpa using (basic_letter byte basic).2.2
  have alone : lowerHere true (.scalar byte.toNat) (Utf8.glyphs rest) =
      lowerHere false (.scalar byte.toNat) (Utf8.glyphs rest) := by
    simp only [lowerHere, settled hex, lowerInWord, other, if_false, ite_self]
  rw [basic_glyphs byte rest basic, lower_from_cons, lower_from_cons, settled hex, alone]

theorem full_lowercase_copies (text : Bytes) (led : Led isUpperHex text) :
    fullLowercase (wideMark :: text) = wideMark :: fullLowercase text := by
  have letter : fullLowercase (wideMark :: text) = wideMark :: Utf8.encode (lowerFrom true (Utf8.glyphs text) []) := by
    rw [fullLowercase, basic_glyphs wideMark text (by decide), lower_from_cons]
    rfl
  rw [letter]
  cases text with
  | nil => rfl
  | cons byte rest => rw [lower_from_digit byte rest (led.first byte rfl)]; rfl

theorem lowercase_copies (text : Bytes) (led : Led isUpperHex text) (undivided : Undivided (wideMark :: text)) :
    lowercase (wideMark :: text) = wideMark :: lowercase text := by
  have copied := full_lowercase_copies text led
  have shorter : Undivided text := by
    rcases undivided with settled | ⟨short, fits⟩
    · rw [basic_glyphs wideMark text (by decide), List.mem_cons, not_or] at settled
      exact Or.inl settled.2
    · rw [copied] at fits
      exact Or.inr ⟨Nat.le_of_succ_le short, Nat.le_of_succ_le fits⟩
  rw [lowercase_undivided _ undivided, lowercase_undivided text shorter, copied]

theorem lowercase_led (text : Bytes) (led : Led isUpperHex text) : Led isLowerHex (lowercase text) := by
  refine ⟨lowercase_unbroken text led.unbroken, ?_⟩
  cases text with
  | nil =>
      intro byte first
      cases first
  | cons byte rest =>
      have digit := led.first byte rfl
      obtain ⟨more, split, _⟩ := (lowercase_lowered (byte :: rest)).basic (upper_digit byte digit).basic
      rw [split]
      simpa using (lower_digit byte digit).hex

theorem replace_led (target code : Bytes) (present : target ≠ []) (unbroken : newline ∉ code)
    (opens : target.head?.any isLowerHex = true → code.head?.any isLowerHex = true)
    (text : Bytes) (led : Led isLowerHex text) : Led isLowerHex (replaceAll target code text) := by
  constructor
  · intro member
    rcases sweep_mem _ text newline member with before | ⟨head, rest, edit, found, written⟩
    · exact led.unbroken before
    · simp only [findLiteral, Option.ite_none_right_eq_some] at found
      rw [← Option.some.inj found.2] at written
      exact unbroken written
  · cases text with
    | nil =>
        intro byte first
        cases first
    | cons byte rest =>
        obtain ⟨first, more, same, lower⟩ :=
          replace_first isLowerHex target code present opens byte rest (led.first byte rfl)
        rw [same]
        simpa using lower

theorem replace_operands_led (text : Bytes) (led : Led isLowerHex text) : Led isLowerHex (replaceOperands text) := by
  have suitable : ∀ entry ∈ operands, entry.target ≠ [] ∧ newline ∉ entry.code ∧
      (entry.target.head?.any isLowerHex = true → entry.code.head?.any isLowerHex = true) := by
    decide
  apply Led.fold Operand.apply operands _ text led
  intro entry member
  obtain ⟨present, unbroken, opens⟩ := suitable entry member
  exact replace_led entry.target entry.code present unbroken opens

theorem commas_led (text : Bytes) (led : Led isLowerHex text) : Led isLowerHex (replaceAll [comma] [] text) := by
  exact replace_led [comma] [] (List.cons_ne_nil _ _) List.not_mem_nil nofun text led

theorem nine_rules (row : Bytes) :
    applyAll (chain.take 9) row = replaceAll [comma] [] (replaceOperands (lowercase (beforeCasing row))) := by
  simp only [beforeCasing, applyAll, chain, List.take_succ_cons, List.take_zero, List.foldl_cons, List.foldl_nil]

theorem before_casing_led (line : Bytes) (led : Led isUpperHex line) : Led isUpperHex (beforeCasing line) :=
  Led.fold Step.apply _ early_rules_led line led

theorem nine_rules_led (line : Bytes) (led : Led isUpperHex line) : Led isLowerHex (applyAll (chain.take 9) line) := by
  rw [nine_rules]
  exact commas_led _ (replace_operands_led _ (lowercase_led _ (before_casing_led line led)))

theorem before_casing_wide (line : Bytes) : beforeCasing (wideTarget ++ line) = wideMark :: beforeCasing line := by
  have mark : replaceAll wideTarget (ascii "w") (wideTarget ++ line) =
      wideMark :: replaceAll wideTarget (ascii "w") line :=
    replace_hit wideTarget (ascii "w") 0x52 (ascii "EX.W + " ++ line) ⟨line, rfl⟩
  calc beforeCasing (wideTarget ++ line)
      = applyAll ((chain.take 6).drop 1) (wideMark :: replaceAll wideTarget (ascii "w") line) :=
        congrArg (applyAll ((chain.take 6).drop 1)) mark
    _ = wideMark :: beforeCasing line := fold_copies Step.apply _ early_rules_copy _

-- The letter comes through nine rules unless it changes where a portion ends.
theorem nine_rules_wide_iff (line : Bytes) :
    applyAll (chain.take 9) (ascii "REX.W + " ++ line) = ascii "w" ++ applyAll (chain.take 9) line ↔
      lowercase (wideMark :: beforeCasing line) = wideMark :: lowercase (beforeCasing line) := by
  have target : ascii "REX.W + " = wideTarget := rfl
  have letter : ascii "w" = [wideMark] := rfl
  have copied : wideMark :: applyAll (chain.take 9) line =
      replaceAll [comma] [] (replaceOperands (wideMark :: lowercase (beforeCasing line))) := by
    rw [nine_rules, replace_operands_copies, replace_copies [comma] [] (by decide) (by decide)]
  have marked : IsLowered (wideMark :: beforeCasing line) (wideMark :: lowercase (beforeCasing line)) :=
    (lowercase_lowered (beforeCasing line)).cons (by decide)
  have outlines := (lowercase_lowered (wideMark :: beforeCasing line)).outlines marked
  rw [target, letter, List.singleton_append, copied, nine_rules, before_casing_wide]
  refine ⟨fun same => ?_, fun same => by rw [same]⟩
  exact replace_operands_faithful.texts _ _ outlines
    (commas_faithful.texts _ _ (replace_operands_faithful.outlines _ _ outlines) same)

theorem normalize_reorders (row : Bytes) : normalize row = reorder (applyAll (chain.take 9) row) := by
  rw [normalize_after 9]
  simp only [applyAll, chain, List.drop_succ_cons, List.drop_zero, List.foldl_cons, List.foldl_nil]

theorem led_token (text mark : Bytes) (led : Led isLowerHex text) (marked : mark = [] ∨ mark = [wideMark])
    (present : text ≠ []) : Token mark (text.takeWhile isTokenByte) (text.dropWhile isTokenByte) := by
  refine ⟨marked, ?_, List.all_eq_true.mp List.all_takeWhile, token_stop text⟩
  cases text with
  | nil => exact absurd rfl present
  | cons byte rest =>
      have token : isTokenByte byte = true := by simp [isTokenByte, led.first byte rfl]
      rw [List.takeWhile_cons_of_pos token]
      exact List.cons_ne_nil _ _

theorem reorder_marked (text rest : Bytes) (led : Led isLowerHex text) (present : rest ≠ [])
    (split : text = text.takeWhile isTokenByte ++ space :: rest) :
    reorder text = rest ++ text.takeWhile isTokenByte ∧
      reorder (wideMark :: text) = rest ++ wideMark :: text.takeWhile isTokenByte := by
  have filled : text ≠ [] := by
    rw [split]
    simp
  have smooth : newline ∉ rest := by
    intro member
    exact led.unbroken (by rw [split]; simp [member])
  have behind : text.dropWhile isTokenByte = space :: rest :=
    List.append_cancel_left (List.takeWhile_append_dropWhile.trans split)
  have token (mark : Bytes) (either : mark = [] ∨ mark = [wideMark]) :
      Token mark (text.takeWhile isTokenByte) (space :: rest) := by
    rw [← behind]
    exact led_token text mark led either filled
  have plain := reorder_moves [] _ rest (token [] (Or.inl rfl)) present smooth
  have wide := reorder_moves [wideMark] _ rest (token [wideMark] (Or.inr rfl)) present smooth
  rw [List.nil_append, ← split] at plain
  rw [List.append_assoc, ← split] at wide
  exact ⟨plain, wide⟩

theorem reorder_stays_marked (text : Bytes) (led : Led isLowerHex text)
    (alone : ¬ ∃ rest, rest ≠ [] ∧ text = text.takeWhile isTokenByte ++ space :: rest) :
    reorder (wideMark :: text) = wideMark :: reorder text := by
  have parts : text.takeWhile isTokenByte ++ text.dropWhile isTokenByte = text := List.takeWhile_append_dropWhile
  have idle : ¬ startsColumn (text.dropWhile isTokenByte) = true := by
    intro column
    obtain ⟨rest, present, behind⟩ := column_behind _ column
    exact alone ⟨rest, present, by rw [← behind, parts]⟩
  by_cases empty : text = []
  · rw [empty]
    rfl
  · have plain := reorder_token [] _ _ (led_token text [] led (Or.inl rfl) empty)
    have wide := reorder_token [wideMark] _ _ (led_token text [wideMark] led (Or.inr rfl) empty)
    rw [if_neg idle, List.nil_append, parts] at plain
    rw [if_neg idle, List.append_assoc, parts, List.append_assoc, ← plain] at wide
    exact wide

-- What the mark adds to a row: one letter in front, or in front of the token when that is moved.
structure AddsMark (line : Bytes) : Prop where
  early : applyAll (chain.take 9) (ascii "REX.W + " ++ line) = ascii "w" ++ applyAll (chain.take 9) line
  moved : ∀ rest, rest ≠ [] →
    applyAll (chain.take 9) line = (applyAll (chain.take 9) line).takeWhile isTokenByte ++ space :: rest →
    normalize line = rest ++ (applyAll (chain.take 9) line).takeWhile isTokenByte ∧
      normalize (ascii "REX.W + " ++ line) =
        rest ++ ascii "w" ++ (applyAll (chain.take 9) line).takeWhile isTokenByte
  stays : (¬ ∃ rest, rest ≠ [] ∧
      applyAll (chain.take 9) line = (applyAll (chain.take 9) line).takeWhile isTokenByte ++ space :: rest) →
    normalize (ascii "REX.W + " ++ line) = ascii "w" ++ normalize line

theorem adds_mark_of_early (line : Bytes) (led : Led isUpperHex line)
    (early : applyAll (chain.take 9) (ascii "REX.W + " ++ line) = ascii "w" ++ applyAll (chain.take 9) line) :
    AddsMark line := by
  have lower : Led isLowerHex (applyAll (chain.take 9) line) := nine_rules_led line led
  have plainly : normalize line = reorder (applyAll (chain.take 9) line) := normalize_reorders line
  have letter : ascii "w" = [wideMark] := rfl
  have widely : normalize (ascii "REX.W + " ++ line) = reorder (wideMark :: applyAll (chain.take 9) line) := by
    rw [normalize_reorders, early, letter, List.singleton_append]
  refine ⟨early, ?_, ?_⟩
  · intro rest present split
    rw [plainly, widely, letter, List.append_assoc, List.singleton_append]
    exact reorder_marked _ rest lower present split
  · rw [plainly, widely, letter, List.singleton_append]
    exact reorder_stays_marked _ lower

theorem wide_row_adds_mark_iff (first : UInt8) (more : Bytes) (digit : isUpperHex first = true)
    (unbroken : newline ∉ first :: more) :
    (AddsMark (first :: more) ↔
      lowercase (wideMark :: beforeCasing (first :: more)) = wideMark :: lowercase (beforeCasing (first :: more))) ∧
      (Undivided (wideMark :: beforeCasing (first :: more)) → AddsMark (first :: more)) := by
  have led : Led isUpperHex (first :: more) := ⟨unbroken, by simpa using digit⟩
  have exact : AddsMark (first :: more) ↔
      lowercase (wideMark :: beforeCasing (first :: more)) = wideMark :: lowercase (beforeCasing (first :: more)) := by
    rw [← nine_rules_wide_iff]
    exact ⟨fun adds => adds.early, adds_mark_of_early _ led⟩
  exact ⟨exact, fun undivided => exact.mpr (lowercase_copies _ (before_casing_led _ led) undivided)⟩

def imul : Bytes := ascii "F AF /r IMUL r64, r/m64"

theorem imul_adds_mark :
    isUpperHex 0x30 = true ∧ newline ∉ 0x30 :: imul ∧ Undivided (wideMark :: beforeCasing (0x30 :: imul)) ∧
      normalize (0x30 :: imul) = ascii "/r imul RD MD" ++ ascii "0faf" ∧
      normalize (ascii "REX.W + " ++ 0x30 :: imul) = ascii "/r imul RD MD" ++ ascii "w" ++ ascii "0faf" := by
  have undivided : Undivided (wideMark :: beforeCasing (0x30 :: imul)) := Or.inr (by decide)
  have split : applyAll (chain.take 9) (0x30 :: imul) = ascii "0faf" ++ space :: ascii "/r imul RD MD" := by
    decide
  have token : (applyAll (chain.take 9) (0x30 :: imul)).takeWhile isTokenByte = ascii "0faf" := by
    rw [split]
    decide
  have adds : AddsMark (0x30 :: imul) := (wide_row_adds_mark_iff 0x30 imul rfl (by decide)).2 undivided
  have added := adds.moved (ascii "/r imul RD MD") (by decide)
  rw [token] at added
  exact ⟨rfl, by decide, undivided, added split⟩

-- With the mark in front of it, the sigma of this row comes to stand at the end of a portion.
theorem sigma_row_loses_mark :
    sigmaRow.head?.all isUpperHex = true ∧ newline ∉ sigmaRow ∧
      applyAll (chain.take 9) sigmaRow = List.replicate 125 0x61 ++ [0xCF, 0x82] ++ ascii " b" ∧
      applyAll (chain.take 9) (ascii "REX.W + " ++ sigmaRow) =
        0x77 :: List.replicate 125 0x61 ++ [0xCF, 0x83] ++ ascii " b" ∧
      normalize (ascii "REX.W + " ++ sigmaRow) ≠ ascii "w" ++ normalize sigmaRow ∧ ¬ AddsMark sigmaRow := by
  obtain ⟨lowered, shifted⟩ := sigma_row_lowered
  have kept (sigma : Bytes) (either : sigma ∈ sigmaForms) :
      replaceAll [comma] [] (replaceOperands (loweredRow sigma)) = loweredRow sigma := by
    rw [lowered_row_operands sigma either, lowered_row_commas sigma either]
  have plain : applyAll (chain.take 9) sigmaRow = loweredRow [0xCF, 0x82] := by
    rw [nine_rules, sigma_row_joined, lowered, kept _ (by decide)]
  have marked : beforeCasing (ascii "REX.W + " ++ sigmaRow) = wideMark :: sigmaRow := by
    have target : ascii "REX.W + " = wideTarget := rfl
    rw [target, before_casing_wide, sigma_row_joined]
  have wide : applyAll (chain.take 9) (ascii "REX.W + " ++ sigmaRow) = wideMark :: loweredRow [0xCF, 0x83] := by
    have moved : lowercase (wideMark :: sigmaRow) = wideMark :: loweredRow [0xCF, 0x83] := shifted wideMark (by decide)
    rw [nine_rules, marked, moved, replace_operands_copies, replace_copies [comma] [] (by decide) (by decide),
      kept _ (by decide)]
  have differ : reorder (wideMark :: loweredRow [0xCF, 0x83]) ≠ wideMark :: reorder (loweredRow [0xCF, 0x82]) := by
    decide +kernel
  refine ⟨by decide, by decide, plain, wide, ?_, fun adds => ?_⟩
  · have letter : ascii "w" = [wideMark] := rfl
    rw [normalize_reorders, normalize_reorders, plain, wide, letter, List.singleton_append]
    exact differ
  · have early := adds.early
    rw [plain, wide] at early
    revert early
    decide

end OpcodeTable.Rule
