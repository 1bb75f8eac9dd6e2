import OpcodeTable.Proofs.Characters
import OpcodeTable.Proofs.Transform

set_option autoImplicit false

namespace OpcodeTable.Row

open Utf8 (Glyph encode glyphs Settled basic)
open Pattern (Piece parts)

def opcodeLeads : Bytes := ascii "0123456789ABCDEFR"

def NamesRegister (row : Bytes) : Prop := ∃ letter ∈ ascii "xyz", letter :: ascii "mm" <:+: row

def VectorRow (row : Bytes) : Prop := ascii "VEX" <+: row ∨ ascii "EVEX" <+: row ∨ NamesRegister row

def LeadsOpcode (row : Bytes) : Prop := ∃ first ∈ opcodeLeads, row.head? = some first

-- Which rows a class holds. A row that could be in several classes is in the one named first.
def Belongs (row : Bytes) : RowClass → Prop
  | .vector => VectorRow row
  | .empty => ¬ VectorRow row ∧ row = []
  | .leadingChar => ¬ VectorRow row ∧ row ≠ [] ∧ ¬ LeadsOpcode row
  | .rexMark => ¬ VectorRow row ∧ LeadsOpcode row ∧ ascii "REX + " <+: row
  | .plain => ¬ VectorRow row ∧ LeadsOpcode row ∧ ¬ ascii "REX + " <+: row

theorem opcode_lead_iff (byte : UInt8) : isOpcodeLead byte = true ↔ byte ∈ opcodeLeads := by
  apply Bytes.every_byte _ byte
  decide +kernel

theorem register_letter_iff (byte : UInt8) : (0x78 ≤ byte && byte ≤ 0x7A) = true ↔ byte ∈ ascii "xyz" := by
  apply Bytes.every_byte _ byte
  decide +kernel

theorem names_register_iff (row : Bytes) : namesVectorRegister row = true ↔ NamesRegister row := by
  induction row with
  | nil => simp [namesVectorRegister, NamesRegister]
  | cons byte rest ih =>
      rw [namesVectorRegister, Bool.or_eq_true, Bool.and_eq_true, register_letter_iff, List.isPrefixOf_iff_prefix, ih]
      constructor
      · rintro (⟨letter, behind⟩ | ⟨letter, member, inside⟩)
        · exact ⟨byte, letter, (List.cons_prefix_cons.mpr ⟨rfl, behind⟩).isInfix⟩
        · exact ⟨letter, member, inside.trans (List.suffix_cons byte rest).isInfix⟩
      · rintro ⟨letter, member, inside⟩
        rcases List.infix_cons_iff.mp inside with start | later
        · obtain ⟨rfl, behind⟩ := List.cons_prefix_cons.mp start
          exact Or.inl ⟨member, behind⟩
        · exact Or.inr ⟨letter, member, later⟩

theorem is_vector_iff (row : Bytes) : isVector row = true ↔ VectorRow row := by
  rw [isVector, Bool.or_eq_true, Bool.or_eq_true, List.isPrefixOf_iff_prefix, List.isPrefixOf_iff_prefix,
    names_register_iff, VectorRow, or_assoc]

def otherClass : Bytes → RowClass
  | [] => .empty
  | first :: rest =>
      if !isOpcodeLead first then .leadingChar
      else if (ascii "REX + ").isPrefixOf (first :: rest) then .rexMark
      else .plain

theorem classify_vector (row : Bytes) : classify row = .vector ↔ VectorRow row :=
  (Batch.classify_vector_iff row).trans (is_vector_iff row)

theorem classify_other (row : Bytes) (other : ¬ VectorRow row) : classify row = otherClass row := by
  simp only [classify, if_neg (mt (is_vector_iff row).mp other)]
  cases row with
  | nil => rfl
  | cons first rest => rfl

theorem leads_opcode_cons (first : UInt8) (rest : Bytes) :
    LeadsOpcode (first :: rest) ↔ isOpcodeLead first = true := by
  simp [LeadsOpcode, opcode_lead_iff]

theorem leads_present (row : Bytes) (leads : LeadsOpcode row) : row ≠ [] := by
  rintro rfl
  obtain ⟨_, _, none⟩ := leads
  cases none

theorem class_of_belongs (row : Bytes) (rowClass : RowClass) (belongs : Belongs row rowClass) :
    classify row = rowClass := by
  cases rowClass with
  | vector => exact (classify_vector row).mpr belongs
  | empty =>
      obtain ⟨other, rfl⟩ := belongs
      rw [classify_other [] other]
      rfl
  | leadingChar =>
      obtain ⟨other, present, closed⟩ := belongs
      obtain ⟨first, rest, rfl⟩ := List.exists_cons_of_ne_nil present
      rw [leads_opcode_cons, Bool.not_eq_true] at closed
      rw [classify_other _ other, otherClass, closed]
      rfl
  | rexMark =>
      obtain ⟨other, leads, marked⟩ := belongs
      obtain ⟨first, rest, rfl⟩ := List.exists_cons_of_ne_nil (leads_present row leads)
      rw [leads_opcode_cons] at leads
      rw [classify_other _ other, otherClass, leads, List.isPrefixOf_iff_prefix.mpr marked]
      rfl
  | plain =>
      obtain ⟨other, leads, unmarked⟩ := belongs
      obtain ⟨first, rest, rfl⟩ := List.exists_cons_of_ne_nil (leads_present row leads)
      rw [leads_opcode_cons] at leads
      rw [classify_other _ other, otherClass, leads, if_neg (mt List.isPrefixOf_iff_prefix.mp unmarked)]
      rfl

theorem belongs_some (row : Bytes) : ∃ rowClass, Belongs row rowClass := by
  by_cases vector : VectorRow row
  · exact ⟨.vector, vector⟩
  · by_cases empty : row = []
    · exact ⟨.empty, vector, empty⟩
    · by_cases leads : LeadsOpcode row
      · by_cases marked : ascii "REX + " <+: row
        · exact ⟨.rexMark, vector, leads, marked⟩
        · exact ⟨.plain, vector, leads, marked⟩
      · exact ⟨.leadingChar, vector, empty, leads⟩

theorem classify_iff (row : Bytes) (rowClass : RowClass) : classify row = rowClass ↔ Belongs row rowClass := by
  constructor
  · intro same
    obtain ⟨own, belongs⟩ := belongs_some row
    rwa [← same, class_of_belongs row own belongs]
  · exact class_of_belongs row rowClass

theorem other_class_start (row : Bytes) : otherClass (row.take 6) = otherClass row := by
  cases row with
  | nil => rfl
  | cons first rest =>
      have same : (ascii "REX + ").isPrefixOf ((first :: rest).take 6) = (ascii "REX + ").isPrefixOf (first :: rest) := by
        rw [Bool.eq_iff_iff, List.isPrefixOf_iff_prefix, List.isPrefixOf_iff_prefix, List.prefix_take_iff]
        exact and_iff_left (by decide)
      rw [List.take_succ_cons] at same ⊢
      rw [otherClass, otherClass, same]

theorem class_of_start (row other : Bytes) (vector : classify row ≠ .vector ∧ classify other ≠ .vector)
    (same : row.take 6 = other.take 6) : classify row = classify other := by
  rw [classify_other row (mt (classify_vector row).mpr vector.1),
    classify_other other (mt (classify_vector other).mpr vector.2), ← other_class_start row, same, other_class_start]

theorem vector_append (row more : Bytes) (vector : VectorRow row) : VectorRow (row ++ more) := by
  rcases vector with short | long | ⟨letter, member, inside⟩
  · exact Or.inl (short.trans (List.prefix_append row more))
  · exact Or.inr (Or.inl (long.trans (List.prefix_append row more)))
  · exact Or.inr (Or.inr ⟨letter, member, inside.trans (List.prefix_append row more).isInfix⟩)

theorem leads_append (row more : Bytes) (present : row ≠ []) : LeadsOpcode (row ++ more) ↔ LeadsOpcode row := by
  obtain ⟨first, rest, rfl⟩ := List.exists_cons_of_ne_nil present
  rfl

theorem class_append (row more : Bytes) :
    classify (row ++ more) = classify row ∨ classify row = .empty ∨ classify (row ++ more) = .vector ∨
      row.length < 6 ∧ classify row = .plain ∧ classify (row ++ more) = .rexMark := by
  by_cases late : VectorRow (row ++ more)
  · exact Or.inr (Or.inr (Or.inl ((classify_vector _).mpr late)))
  · have other : ¬ VectorRow row := mt (vector_append row more) late
    by_cases empty : row = []
    · exact Or.inr (Or.inl ((classify_iff row .empty).mpr ⟨other, empty⟩))
    · have leads := leads_append row more empty
      have present : row ++ more ≠ [] := List.append_ne_nil_of_left_ne_nil empty more
      by_cases opens : LeadsOpcode row
      · by_cases marked : ascii "REX + " <+: row
        · left
          rw [(classify_iff row .rexMark).mpr ⟨other, opens, marked⟩]
          exact (classify_iff _ .rexMark).mpr ⟨late, leads.mpr opens, marked.trans (List.prefix_append row more)⟩
        · have plain := (classify_iff row .plain).mpr ⟨other, opens, marked⟩
          by_cases longer : ascii "REX + " <+: row ++ more
          · refine Or.inr (Or.inr (Or.inr ⟨?_, plain, (classify_iff _ .rexMark).mpr ⟨late, leads.mpr opens, longer⟩⟩))
            apply Nat.lt_of_not_le
            exact fun long => marked (List.prefix_of_prefix_length_le longer (List.prefix_append row more) long)
          · left
            rw [plain]
            exact (classify_iff _ .plain).mpr ⟨late, leads.mpr opens, longer⟩
      · left
        rw [(classify_iff row .leadingChar).mpr ⟨other, empty, opens⟩]
        exact (classify_iff _ .leadingChar).mpr ⟨late, present, mt leads.mp opens⟩

def isRegisterLetter (byte : UInt8) : Bool := 0x78 ≤ byte && byte ≤ 0x7A

def basicPieces (kinds : List (UInt8 → Bool)) : List (Piece Glyph) := kinds.map fun kind => ⟨basic kind, .once⟩

-- One of the letters `x`, `y`, `z`, and `mm` behind it.
def registerKinds : List (UInt8 → Bool) := [isRegisterLetter, (· == 0x6D), (· == 0x6D)]

def startsWith : List (UInt8 → Bool) → Bytes → Bool
  | [], _ => true
  | _ :: _, [] => false
  | kind :: others, byte :: rest => kind byte && startsWith others rest

theorem pieces_read (kinds : List (UInt8 → Bool)) (low : ∀ kind ∈ kinds, ∀ byte, kind byte = true → byte < 0x80)
    (text : List Glyph) (settled : ∀ glyph ∈ text, Settled glyph) :
    (parts (basicPieces kinds) text).isSome = startsWith kinds (encode text) := by
  induction kinds generalizing text with
  | nil => rfl
  | cons kind others ih =>
      obtain ⟨own, behind⟩ := List.forall_mem_cons.mp low
      cases text with
      | nil => rfl
      | cons glyph rest =>
          obtain ⟨here, later⟩ := List.forall_mem_cons.mp settled
          cases accepted : basic kind glyph with
          | false =>
              have missed : parts (basicPieces (kind :: others)) (glyph :: rest) = none :=
                Pattern.required_refused _ _ _ _ (by decide) (by simpa using accepted)
              obtain ⟨byte, more, same, told⟩ := (Utf8.basic_agree kind own).head glyph rest here
              rw [missed, same, startsWith, told, accepted]
              rfl
          | true =>
              have taken : parts (basicPieces (kind :: others)) (glyph :: rest) =
                  (parts (basicPieces others) rest).map ([glyph] :: ·) := Pattern.once_taken _ _ _ _ accepted
              obtain ⟨byte, _, single, told⟩ := Utf8.basic_single kind glyph accepted
              rw [taken, Option.isSome_map, ih behind rest later, Utf8.encode_cons, single, List.singleton_append,
                startsWith, told, Bool.true_and]

theorem register_kinds_low : ∀ kind ∈ registerKinds, ∀ byte, kind byte = true → byte < 0x80 := by
  intro kind member
  rcases List.mem_cons.mp member with rfl | mark
  · intro byte
    apply Bytes.every_byte _ byte
    decide +kernel
  · obtain rfl : kind = (· == 0x6D) := by simpa using mark
    intro byte same
    rw [beq_iff_eq.mp same]
    decide

theorem names_register_cons (byte : UInt8) (rest : Bytes) :
    namesVectorRegister (byte :: rest) = (startsWith registerKinds (byte :: rest) || namesVectorRegister rest) := by
  have letters : ascii "mm" = [0x6D, 0x6D] := rfl
  rw [namesVectorRegister, letters, registerKinds, startsWith]
  congr 2
  cases rest with
  | nil => rfl
  | cons first more =>
      cases more with
      | nil => simp [startsWith, List.isPrefixOf]
      | cons second others => simp [startsWith, List.isPrefixOf, Bool.beq_comm]

theorem names_register_later (front rest : Bytes) (other : ∀ byte ∈ front, isRegisterLetter byte = false) :
    namesVectorRegister (front ++ rest) = namesVectorRegister rest := by
  induction front with
  | nil => rfl
  | cons byte more ih =>
      obtain ⟨here, later⟩ := List.forall_mem_cons.mp other
      rw [List.cons_append, names_register_cons, registerKinds, startsWith, here, ih later]
      rfl

theorem register_found (text : List Glyph) (settled : ∀ glyph ∈ text, Settled glyph) :
    Pattern.found (basicPieces registerKinds) text = namesVectorRegister (encode text) := by
  induction text with
  | nil => rfl
  | cons glyph rest ih =>
      obtain ⟨here, later⟩ := List.forall_mem_cons.mp settled
      rw [Pattern.found, pieces_read registerKinds register_kinds_low _ settled, ih later, Utf8.encode_cons]
      cases letter : basic isRegisterLetter glyph with
      | true =>
          obtain ⟨byte, _, single, _⟩ := Utf8.basic_single isRegisterLetter glyph letter
          rw [single, List.singleton_append, names_register_cons]
      | false =>
          have agree := Utf8.basic_agree isRegisterLetter (register_kinds_low _ List.mem_cons_self)
          have other : ∀ byte ∈ glyph.bytes, isRegisterLetter byte = false := by
            intro byte member
            rw [agree glyph here byte member, letter]
          obtain ⟨byte, more, bytes⟩ := List.exists_cons_of_ne_nil (Utf8.bytes_present glyph)
          have refused : startsWith registerKinds (glyph.bytes ++ encode rest) = false := by
            rw [bytes, List.cons_append, registerKinds, startsWith, other byte (by simp [bytes])]
            rfl
          rw [refused, names_register_later _ _ other, Bool.false_or]

def number : Glyph → Nat
  | .scalar code => code
  | .stray _ => 0xFFFD

def OpensOpcode (code : Nat) : Prop := (0x30 ≤ code ∧ code ≤ 0x39) ∨ code = 0x52 ∨ (0x41 ≤ code ∧ code ≤ 0x46)

theorem opcode_lead_agree : Utf8.Agree isOpcodeLead (basic isOpcodeLead) := by
  apply Utf8.basic_agree
  intro byte
  apply Bytes.every_byte _ byte
  decide +kernel

theorem opcode_lead_number (byte : UInt8) : isOpcodeLead byte = true ↔ OpensOpcode byte.toNat := by
  apply Bytes.every_byte _ byte
  unfold OpensOpcode
  decide +kernel

theorem opens_opcode_iff (glyph : Glyph) (settled : Settled glyph) :
    basic isOpcodeLead glyph = true ↔ OpensOpcode (number glyph) := by
  rcases settled with ⟨byte, small, rfl⟩ | beyond
  · have low : byte.toNat < 0x80 := UInt8.lt_iff_toNat_lt.mp small
    rw [number, ← opcode_lead_number, basic, decide_eq_true low, Bool.true_and, Utf8.byte_of_number _ byte rfl]
  · cases glyph with
    | stray _ => simp [basic, OpensOpcode, number]
    | scalar code =>
        have high : 0x80 ≤ code := beyond.1
        have refused : ¬ OpensOpcode code := by
          unfold OpensOpcode
          omega
        exact iff_of_false (by simp [basic, Nat.not_lt.mpr high]) refused

theorem leads_opcode_iff (row : Bytes) :
    LeadsOpcode row ↔ ∃ character ∈ (glyphs row).head?, OpensOpcode (number character) := by
  cases characters : glyphs row with
  | nil =>
      have empty := Utf8.encode_glyphs row
      rw [characters] at empty
      simp [← empty, encode, LeadsOpcode]
  | cons character others =>
      have settled := Utf8.glyphs_settled row character (by simp [characters])
      obtain ⟨first, rest, same, told⟩ := opcode_lead_agree.head character others settled
      rw [← characters, Utf8.encode_glyphs] at same
      rw [same, leads_opcode_cons, told, opens_opcode_iff character settled]
      simp

theorem long_lead_dropped (row : Bytes) (character : Glyph) (starts : (glyphs row).head? = some character)
    (long : 1 < character.bytes.length ∨ character.isScalar = false) :
    classify row = .vector ∨ classify row = .leadingChar := by
  have closed : ¬ LeadsOpcode row := by
    rw [leads_opcode_iff, starts]
    rintro ⟨own, same, opens⟩
    obtain rfl : character = own := Option.some.inj same
    have settled := Utf8.glyphs_settled row character (List.mem_of_mem_head? starts)
    rw [← opens_opcode_iff character settled] at opens
    obtain ⟨byte, scalar, single, _⟩ := Utf8.basic_single isOpcodeLead character opens
    rcases long with more | stray
    · simp [single] at more
    · simp [scalar, Glyph.isScalar] at stray
  have present : row ≠ [] := by
    rintro rfl
    cases starts
  by_cases vector : VectorRow row
  · exact Or.inl ((classify_iff row .vector).mpr vector)
  · exact Or.inr ((classify_iff row .leadingChar).mpr ⟨vector, present, closed⟩)

-- The class of a row as its bytes tell it, and how far the row is read for it. On characters the two
-- searches come out the same, and a first character of several bytes, or none, starts no opcode.
theorem row_classes (row : Bytes) :
    (∀ rowClass, classify row = rowClass ↔ Belongs row rowClass) ∧
      (NamesRegister row ↔ Pattern.found (basicPieces registerKinds) (glyphs row) = true) ∧
      (LeadsOpcode row ↔ ∃ character ∈ (glyphs row).head?, OpensOpcode (number character)) ∧
      (∀ character, (glyphs row).head? = some character → 1 < character.bytes.length ∨ character.isScalar = false →
        classify row = .vector ∨ classify row = .leadingChar) ∧
      (∀ other, classify row ≠ .vector ∧ classify other ≠ .vector → row.take 6 = other.take 6 →
        classify row = classify other) ∧
      ∀ more, classify (row ++ more) = classify row ∨ classify row = .empty ∨ classify (row ++ more) = .vector ∨
        row.length < 6 ∧ classify row = .plain ∧ classify (row ++ more) = .rexMark := by
  refine ⟨classify_iff row, ?_, leads_opcode_iff row, long_lead_dropped row, class_of_start row, class_append row⟩
  rw [register_found (glyphs row) (Utf8.glyphs_settled row), Utf8.encode_glyphs, names_register_iff]

theorem row_classes_read_start : classify (ascii "0F 38 F0 /r") = classify (ascii "0F 38 F1 CRC32") ∧
    (classify (0xC3 :: 0xA9 :: ascii " 80") = .vector ∨ classify (0xC3 :: 0xA9 :: ascii " 80") = .leadingChar) :=
  ⟨(row_classes (ascii "0F 38 F0 /r")).2.2.2.2.1 _ (by decide) (by decide),
    (row_classes (0xC3 :: 0xA9 :: ascii " 80")).2.2.2.1 (.scalar 0xE9) (by decide) (Or.inl (by decide))⟩

end OpcodeTable.Row
