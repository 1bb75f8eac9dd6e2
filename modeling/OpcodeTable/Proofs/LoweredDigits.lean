import OpcodeTable.Proofs.OpcodeToken
import OpcodeTable.Proofs.OperandSaturation
import OpcodeTable.Proofs.Portions

set_option autoImplicit false

namespace OpcodeTable.Rule

open Bytes (space slash comma isUpperHex isLowerHex replaceAll)

structure UpperDigit (byte : UInt8) : Prop where
  gap : byte ≠ space
  wide : byte ≠ 0x52
  slash : byte ≠ slash
  operand : isOperandLetter byte = false
  plus : byte ≠ 0x2B
  encoding : isEncodingLetter byte = (byte == 0x44)
  basic : byte < 0x80

theorem upper_digit (byte : UInt8) (hex : isUpperHex byte = true) : UpperDigit byte := by
  have facts : isUpperHex byte = true → byte ≠ space ∧ byte ≠ 0x52 ∧ byte ≠ Bytes.slash ∧
      isOperandLetter byte = false ∧ byte ≠ 0x2B ∧ isEncodingLetter byte = (byte == 0x44) ∧ byte < 0x80 := by
    apply Bytes.every_byte _ byte
    decide +kernel
  obtain ⟨gap, wide, slash, operand, plus, encoding, basic⟩ := facts hex
  exact ⟨gap, wide, slash, operand, plus, encoding, basic⟩

structure LowerDigit (byte : UInt8) : Prop where
  hex : isLowerHex byte = true
  comma : byte ≠ comma
  token : isTokenByte byte = true

theorem lower_digit (byte : UInt8) (hex : isUpperHex byte = true) : LowerDigit (lowerLetter byte) := by
  have facts : isUpperHex byte = true → isLowerHex (lowerLetter byte) = true ∧ lowerLetter byte ≠ comma ∧
      isTokenByte (lowerLetter byte) = true := by
    apply Bytes.every_byte _ byte
    decide +kernel
  obtain ⟨hex, comma, token⟩ := facts hex
  exact ⟨hex, comma, token⟩

theorem lowered_digits (digits : Bytes) (hex : ∀ byte ∈ digits, isUpperHex byte = true) :
    ∀ byte ∈ lowered digits, LowerDigit byte := by
  intro byte member
  obtain ⟨upper, inside, rfl⟩ := List.mem_map.mp member
  exact lower_digit upper (hex upper inside)

theorem digits_closed (digits : Bytes) (hex : ∀ byte ∈ digits, isUpperHex byte = true) : space ∉ digits :=
  fun member => (upper_digit space (hex space member)).gap rfl

-- What can follow the digits of an opcode from the fifth rule on.
inductive Follows : Bytes → Prop where
  | nothing : Follows []
  | gap (more : Bytes) : Follows (space :: more)
  | subcode (more : Bytes) : Follows (slash :: more)
  | digit (byte : UInt8) (hex : isUpperHex byte = true) : Follows [byte]
  | pair (high low : UInt8) (more : Bytes) (upper : isUpperHex high = true ∧ isUpperHex low = true) :
      Follows (high :: low :: more)

theorem Follows.shorter {text front : Bytes} (follows : Follows text) (start : front <+: text) : Follows front := by
  cases front with
  | nil => exact .nothing
  | cons first more =>
      cases follows with
      | nothing => exact absurd start (by simp)
      | gap later =>
          rw [(List.cons_prefix_cons.mp start).1]
          exact .gap more
      | subcode later =>
          rw [(List.cons_prefix_cons.mp start).1]
          exact .subcode more
      | digit byte hex =>
          obtain ⟨rfl, ended⟩ := List.cons_prefix_cons.mp start
          rw [List.prefix_nil.mp ended]
          exact .digit first hex
      | pair high low later upper =>
          obtain ⟨rfl, next⟩ := List.cons_prefix_cons.mp start
          cases more with
          | nil => exact .digit first upper.1
          | cons second last =>
              obtain ⟨rfl, _⟩ := List.cons_prefix_cons.mp next
              exact .pair first second last upper

theorem join_follows (text : Bytes) (follows : Follows text) : Follows (joinSubcodes text) := by
  cases follows with
  | nothing => exact .nothing
  | gap more =>
      by_cases subcode : startsSubcode more = true
      · match more, subcode with
        | mark :: digit :: later, subcode =>
            have same : mark = slash := by simpa using (Bool.and_eq_true_iff.mp subcode).1
            rw [joinSubcodes, drop_spaces_cons, if_pos (by simp [subcode]), same,
              drop_spaces_keep startsSubcode slash _ (Or.inl (by decide))]
            exact .subcode _
      · rw [joinSubcodes, drop_spaces_keep startsSubcode space more (Or.inr (by simpa using subcode))]
        exact .gap _
  | subcode more =>
      rw [joinSubcodes, drop_spaces_keep startsSubcode slash more (Or.inl (by decide))]
      exact .subcode _
  | digit byte hex =>
      rw [joinSubcodes, drop_spaces_keep startsSubcode byte [] (Or.inl (upper_digit byte hex).gap)]
      exact .digit byte hex
  | pair high low more upper =>
      rw [joinSubcodes, drop_spaces_keep startsSubcode high _ (Or.inl (upper_digit high upper.1).gap),
        drop_spaces_keep startsSubcode low _ (Or.inl (upper_digit low upper.2).gap)]
      exact .pair high low _ upper

def operandEnds : List Bytes := [ascii "ax", ascii "x", ascii "l"]

theorem operand_ends : ∀ entry ∈ operands, ∀ n < entry.target.length, 0 < n →
    (entry.target.take n).all isLowerHex = true → entry.target.drop n ∈ operandEnds := by
  decide

theorem operands_not_digits : ∀ entry ∈ operands, entry.target.all isLowerHex = false := by decide

theorem operand_codes_apart : ∀ entry ∈ operands, ∀ word ∈ operandEnds, ∀ n < word.length,
    Apart (word.drop n) entry.code := by
  decide

def Severed (text : Bytes) : Prop := ∀ word ∈ operandEnds, ¬ word <+: text

theorem Severed.of_digits (run rest : Bytes) (lower : ∀ byte ∈ run, isLowerHex byte = true)
    (long : 2 ≤ run.length ∨ rest = []) : Severed (run ++ rest) := by
  have short : ∀ word ∈ operandEnds, word.length ≤ 2 ∧ word.all isLowerHex = false := by decide
  intro word member start
  obtain ⟨size, mixed⟩ := short word member
  have inside : word <+: run := by
    rcases long with long | rfl
    · exact List.prefix_of_prefix_length_le start (List.prefix_append run rest) (Nat.le_trans size long)
    · rwa [List.append_nil] at start
  have uniform : word.all isLowerHex = true :=
    List.all_eq_true.mpr fun byte found => lower byte (inside.subset found)
  rw [uniform] at mixed
  cases mixed

theorem Severed.of_apart (front rest : Bytes) (apart : ∀ word ∈ operandEnds, Apart word front) :
    Severed (front ++ rest) :=
  fun word member => not_start_of_apart word front rest (apart word member)

theorem follows_severed (text out : Bytes) (follows : Follows text) (lowers : IsLowered text out) : Severed out := by
  have run (digits rest : Bytes) (hex : ∀ byte ∈ digits, isUpperHex byte = true)
      (long : 2 ≤ digits.length ∨ rest = []) (lowers : IsLowered (digits ++ rest) out) : Severed out := by
    obtain ⟨more, rfl, later⟩ := lowers.basics fun byte member => (upper_digit byte (hex byte member)).basic
    apply Severed.of_digits _ _ fun byte member => (lowered_digits digits hex byte member).hex
    rcases long with long | rfl
    · exact Or.inl (by simpa [lowered] using long)
    · exact Or.inr later.nothing
  cases follows with
  | nothing => exact run [] [] nofun (Or.inr rfl) lowers
  | gap more =>
      obtain ⟨rest, rfl, _⟩ := lowers.basic (by decide)
      exact Severed.of_apart [space] rest (by decide)
  | subcode more =>
      obtain ⟨rest, rfl, _⟩ := lowers.basic (by decide)
      exact Severed.of_apart [slash] rest (by decide)
  | digit byte hex => exact run [byte] [] (by simp [hex]) (Or.inr rfl) lowers
  | pair high low more upper => exact run [high, low] more (by simp [upper]) (Or.inl (Nat.le_refl 2)) lowers

theorem severed_after (entry : Operand) (member : entry ∈ operands) (text : Bytes) (severed : Severed text) :
    Severed (entry.apply text) := by
  intro word inside start
  apply severed word inside
  exact start_before entry.target entry.code word text (operand_codes_apart entry member word inside) start

theorem replace_pass (entry : Operand) (member : entry ∈ operands) (digits text : Bytes)
    (lower : ∀ byte ∈ digits, isLowerHex byte = true) (severed : Severed text) :
    entry.apply (digits ++ text) = digits ++ entry.apply text := by
  induction digits with
  | nil => rfl
  | cons byte more ih =>
      have miss : ¬ entry.target <+: byte :: more ++ text := by
        intro start
        rcases start_split entry.target (byte :: more) text start with inside | ⟨within, front, beyond⟩
        · have uniform : entry.target.all isLowerHex = true :=
            List.all_eq_true.mpr fun other found => lower other (inside.subset found)
          rw [operands_not_digits entry member] at uniform
          cases uniform
        · refine severed _ (operand_ends entry member _ within (by simp) ?_) beyond
          rw [front]
          exact List.all_eq_true.mpr lower
      have later := ih fun other found => lower other (List.mem_cons_of_mem byte found)
      calc entry.apply (byte :: more ++ text) = byte :: entry.apply (more ++ text) :=
            replace_miss entry.target entry.code byte _ miss
        _ = byte :: more ++ entry.apply text := by rw [later, List.cons_append]

theorem operands_pass (table : List Operand) (inside : ∀ entry ∈ table, entry ∈ operands) (digits text : Bytes)
    (lower : ∀ byte ∈ digits, isLowerHex byte = true) (severed : Severed text) :
    applyOperands table (digits ++ text) = digits ++ applyOperands table text := by
  induction table generalizing text with
  | nil => rfl
  | cons entry rest ih =>
      obtain ⟨here, later⟩ := List.forall_mem_cons.mp inside
      calc applyOperands (entry :: rest) (digits ++ text) = applyOperands rest (entry.apply (digits ++ text)) := rfl
        _ = applyOperands rest (digits ++ entry.apply text) := by
          rw [replace_pass entry here digits text lower severed]
        _ = digits ++ applyOperands (entry :: rest) text :=
          ih later (entry.apply text) (severed_after entry here text severed)

theorem later_rules_digits (digits text : Bytes) (hex : ∀ byte ∈ digits, isUpperHex byte = true)
    (follows : Follows text) :
    ∃ kept, applyAll (chain.drop 5) (digits ++ text) = reorder (lowered digits ++ kept) ∧ (text = [] → kept = []) := by
  have lower := lowered_digits digits hex
  have closed := digits_closed digits hex
  have joined : joinSubcodes (digits ++ text) = digits ++ joinSubcodes text :=
    drop_spaces_pass startsSubcode digits text closed
  obtain ⟨rest, cased, later⟩ := (lowercase_lowered (digits ++ joinSubcodes text)).basics fun byte member =>
    (upper_digit byte (hex byte member)).basic
  have severed := follows_severed _ rest (join_follows text follows) later
  have replaced := operands_pass operands (fun _ member => member) (lowered digits) rest
    (fun byte member => (lower byte member).hex) severed
  have commas (rest : Bytes) : replaceAll [comma] [] (lowered digits ++ rest) =
      lowered digits ++ replaceAll [comma] [] rest :=
    sweep_idle _ (lowered digits) rest fun byte member later =>
      literal_elsewhere comma [] [] byte later (lower byte member).comma
  refine ⟨replaceAll [comma] [] (replaceOperands rest), ?_, ?_⟩
  · rw [later_rules, joined, cased, replaceOperands, replaced, commas, replaceOperands]
  · rintro rfl
    rw [later.nothing]
    rfl

theorem digits_token (digits text : Bytes) (present : digits ≠ []) (lower : ∀ byte ∈ digits, LowerDigit byte) :
    Token [] (digits ++ text.takeWhile isTokenByte) (text.dropWhile isTokenByte) := by
  refine ⟨Or.inl rfl, List.append_ne_nil_of_left_ne_nil present _, ?_, token_stop text⟩
  rw [List.forall_mem_append]
  exact ⟨fun byte member => (lower byte member).token, List.all_eq_true.mp List.all_takeWhile⟩

theorem reorder_keeps_digits (digits text : Bytes) (lower : ∀ byte ∈ digits, LowerDigit byte) :
    digits <:+: reorder (digits ++ text) := by
  by_cases present : digits = []
  · rw [present]
    exact List.nil_infix
  · have moved := reorder_token [] _ _ (digits_token digits text present lower)
    rw [List.nil_append, List.append_assoc, List.takeWhile_append_dropWhile] at moved
    have inside : digits <:+: digits ++ text.takeWhile isTokenByte := (List.prefix_append _ _).isInfix
    rw [moved]
    split
    · exact inside.trans ((List.suffix_append _ _).isInfix.trans (List.prefix_append _ _).isInfix)
    · exact inside.trans (List.prefix_append _ _).isInfix

theorem reorder_digits (digits : Bytes) (lower : ∀ byte ∈ digits, LowerDigit byte) : reorder digits = digits := by
  by_cases present : digits = []
  · rw [present]
    rfl
  · have stays := reorder_token [] _ _ (digits_token digits [] present lower)
    rw [List.takeWhile_nil, List.dropWhile_nil, List.append_nil, List.append_nil] at stays
    exact stays.trans (List.append_nil digits)

theorem digits_survive (digits text : Bytes) (hex : ∀ byte ∈ digits, isUpperHex byte = true)
    (follows : Follows text) : lowered digits <:+: applyAll (chain.drop 5) (digits ++ text) := by
  obtain ⟨kept, same, _⟩ := later_rules_digits digits text hex follows
  rw [same]
  exact reorder_keeps_digits _ kept (lowered_digits digits hex)

theorem digits_alone (digits : Bytes) (hex : ∀ byte ∈ digits, isUpperHex byte = true) :
    applyAll (chain.drop 5) digits = lowered digits := by
  obtain ⟨kept, same, ended⟩ := later_rules_digits digits [] hex .nothing
  rw [ended rfl, List.append_nil, List.append_nil] at same
  rw [same]
  exact reorder_digits _ (lowered_digits digits hex)

end OpcodeTable.Rule
