import OpcodeTable.Bytes

/-!
Decoding never fails: a byte that starts no well-formed character is kept as a stray unit, so encoding the
units of a byte string gives the string back. A `String` can hold stray units too, each as a pair of
characters that no text has.
-/

set_option autoImplicit false

namespace OpcodeTable.Utf8

inductive Glyph where
  | scalar (code : Nat)
  | stray (byte : UInt8)
deriving DecidableEq, Repr

def isTail (byte : UInt8) : Bool := 0x80 ≤ byte && byte ≤ 0xBF

def within (low high : UInt8) (byte : UInt8) : Bool := low ≤ byte && byte ≤ high

def payload (byte : UInt8) : Nat := byte.toNat % 64

-- Overlong forms have the lead byte `low`; surrogates, and numbers that are too large, have `high`.
def secondAfter (low least high most lead second : UInt8) : Bool :=
  if lead == low then within least 0xBF second
  else if lead == high then within 0x80 most second
  else isTail second

def secondOfThree : UInt8 → UInt8 → Bool := secondAfter 0xE0 0xA0 0xED 0x9F

def secondOfFour : UInt8 → UInt8 → Bool := secondAfter 0xF0 0x90 0xF4 0x8F

def sought (lead : UInt8) : Nat :=
  if within 0xC2 0xDF lead then 2
  else if within 0xE0 0xEF lead then 3
  else if within 0xF0 0xF7 lead then 4
  else 1

def headScalar (lead : UInt8) (rest : Bytes) : Option (Nat × Nat) :=
  if lead < 0x80 then some (lead.toNat, 0)
  else if within 0xC2 0xDF lead then
    match rest with
    | second :: _ =>
        if isTail second then some ((lead.toNat % 32) * 64 + payload second, 1) else none
    | _ => none
  else if within 0xE0 0xEF lead then
    match rest with
    | second :: third :: _ =>
        if secondOfThree lead second && isTail third then
          some ((lead.toNat % 16) * 4096 + payload second * 64 + payload third, 2)
        else none
    | _ => none
  else if within 0xF0 0xF4 lead then
    match rest with
    | second :: third :: fourth :: _ =>
        if secondOfFour lead second && isTail third && isTail fourth then
          some ((lead.toNat % 8) * 262144 + payload second * 4096 + payload third * 64
            + payload fourth, 3)
        else none
    | _ => none
  else none

def glyphsFrom : Nat → Bytes → List Glyph → List Glyph
  | _, [], done => done.reverse
  | skip + 1, _ :: rest, done => glyphsFrom skip rest done
  | 0, byte :: rest, done =>
      match headScalar byte rest with
      | some (code, more) => glyphsFrom more rest (.scalar code :: done)
      | none => glyphsFrom 0 rest (.stray byte :: done)

def glyphs (text : Bytes) : List Glyph := glyphsFrom 0 text []

theorem glyphs_from_done (skip : Nat) (text : Bytes) (done : List Glyph) :
    glyphsFrom skip text done = done.reverse ++ glyphsFrom skip text [] := by
  induction text generalizing skip done with
  | nil => cases skip <;> simp [glyphsFrom]
  | cons byte rest ih =>
      cases skip with
      | succ skip => simpa [glyphsFrom] using ih skip done
      | zero =>
          cases found : headScalar byte rest with
          | none =>
              simp only [glyphsFrom, found]
              rw [ih 0 (.stray byte :: done), ih 0 [.stray byte]]
              simp
          | some head =>
              simp only [glyphsFrom, found]
              rw [ih head.2 (.scalar head.1 :: done), ih head.2 [.scalar head.1]]
              simp

theorem glyphs_from_skip (skip : Nat) (text : Bytes) (done : List Glyph) :
    glyphsFrom skip text done = glyphsFrom 0 (text.drop skip) done := by
  induction text generalizing skip with
  | nil => cases skip <;> simp [glyphsFrom]
  | cons byte rest ih =>
      cases skip with
      | zero => simp
      | succ skip => simpa [glyphsFrom] using ih skip

theorem glyphs_scalar (byte : UInt8) (rest : Bytes) (code more : Nat)
    (found : headScalar byte rest = some (code, more)) :
    glyphs (byte :: rest) = .scalar code :: glyphs (rest.drop more) := by
  simp only [glyphs, glyphsFrom, found]
  rw [glyphs_from_done, glyphs_from_skip]
  simp

theorem glyphs_stray (byte : UInt8) (rest : Bytes) (absent : headScalar byte rest = none) :
    glyphs (byte :: rest) = .stray byte :: glyphs rest := by
  simp only [glyphs, glyphsFrom, absent]
  rw [glyphs_from_done]
  simp

def encodeScalar (code : Nat) : Bytes :=
  if code < 0x80 then [code.toUInt8]
  else if code < 0x800 then [(0xC0 + code / 64).toUInt8, (0x80 + code % 64).toUInt8]
  else if code < 0x10000 then
    [(0xE0 + code / 4096).toUInt8, (0x80 + code / 64 % 64).toUInt8, (0x80 + code % 64).toUInt8]
  else
    [(0xF0 + code / 262144).toUInt8, (0x80 + code / 4096 % 64).toUInt8,
      (0x80 + code / 64 % 64).toUInt8, (0x80 + code % 64).toUInt8]

def Glyph.bytes : Glyph → Bytes
  | .scalar code => encodeScalar code
  | .stray byte => [byte]

def encode (text : List Glyph) : Bytes := text.flatMap Glyph.bytes

def Glyph.isScalar : Glyph → Bool
  | .scalar _ => true
  | .stray _ => false

def isValid (text : Bytes) : Bool := (glyphs text).all Glyph.isScalar

-- The first character of the pair that stands for a stray byte; it is not assigned to any character.
def strayMark : Char := Char.ofNat 0x10FFFE

def Glyph.chars : Glyph → List Char
  | .scalar code => [Char.ofNat code]
  | .stray byte => [strayMark, Char.ofNat (0x100 + byte.toNat)]

def toText (text : Bytes) : String := String.ofList ((glyphs text).flatMap Glyph.chars)

def stray? (mark unit : Char) : Option UInt8 :=
  if mark == strayMark && 0x180 ≤ unit.toNat && unit.toNat ≤ 0x1FF then
    some (unit.toNat - 0x100).toUInt8
  else none

def glyphsOfChars : List Char → List Glyph → List Glyph
  | [], done => done.reverse
  | [c], done => (.scalar c.toNat :: done).reverse
  | c :: next :: rest, done =>
      match stray? c next with
      | some byte => glyphsOfChars rest (.stray byte :: done)
      | none => glyphsOfChars (next :: rest) (.scalar c.toNat :: done)

def glyphsOfText (text : String) : List Glyph := glyphsOfChars text.toList []

def ofText (text : String) : Bytes := encode (glyphsOfText text)

end OpcodeTable.Utf8
