import OpcodeTable.Utf8

/-!
A mark at the start of a file tells text of 16-bit units from text of bytes.
-/

set_option autoImplicit false

namespace OpcodeTable.Yaml

def isBlank (c : Char) : Bool := c == ' ' || c == '\t'

def nextLine : Char := Char.ofNat 0x85

def lineSeparator : Char := Char.ofNat 0x2028

def paragraphSeparator : Char := Char.ofNat 0x2029

def isBreak (c : Char) : Bool :=
  c == '\n' || c == nextLine || c == lineSeparator || c == paragraphSeparator

def byteOrderMark : Char := Char.ofNat 0xFEFF

def isAllowed (code : Nat) : Bool :=
  code == 0x09 || code == 0x0A || code == 0x0D || (0x20 ≤ code && code ≤ 0x7E) || code == 0x85
    || (0xA0 ≤ code && code ≤ 0xD7FF) || (0xE000 ≤ code && code ≤ 0xFFFD)
    || (0x10000 ≤ code && code ≤ 0x10FFFF)

def isHighSurrogate (unit : Nat) : Bool := 0xD800 ≤ unit && unit ≤ 0xDBFF

def isLowSurrogate (unit : Nat) : Bool := 0xDC00 ≤ unit && unit ≤ 0xDFFF

def unitsFrom (unit : UInt8 → UInt8 → Nat) : Bytes → List Nat → Option (List Nat)
  | [], done => some done.reverse
  | [_], _ => none
  | first :: second :: rest, done => unitsFrom unit rest (unit first second :: done)

-- The code points that 16-bit units spell; none if a surrogate has lost its partner.
def codesOfUnits : List Nat → List Nat → Option (List Nat)
  | [], done => some done.reverse
  | [unit], done =>
      if isHighSurrogate unit || isLowSurrogate unit then none else some (unit :: done).reverse
  | unit :: next :: rest, done =>
      if isLowSurrogate unit then none
      else if isHighSurrogate unit then
        if isLowSurrogate next then
          codesOfUnits rest ((0x10000 + (unit - 0xD800) * 1024 + (next - 0xDC00)) :: done)
        else none
      else codesOfUnits (next :: rest) (unit :: done)

def codesOfGlyphs : List Utf8.Glyph → List Nat → Option (List Nat)
  | [], done => some done.reverse
  | .stray _ :: _, _ => none
  | .scalar code :: rest, done => codesOfGlyphs rest (code :: done)

def littleEndian (first second : UInt8) : Nat := first.toNat + second.toNat * 256

def bigEndian (first second : UInt8) : Nat := first.toNat * 256 + second.toNat

def codes? (text : Bytes) : Option (List Nat) :=
  match text with
  | 0xFF :: 0xFE :: rest => (unitsFrom littleEndian rest []).bind (codesOfUnits · [])
  | 0xFE :: 0xFF :: rest => (unitsFrom bigEndian rest []).bind (codesOfUnits · [])
  | 0xEF :: 0xBB :: 0xBF :: rest => codesOfGlyphs (Utf8.glyphs rest) []
  | _ => codesOfGlyphs (Utf8.glyphs text) []

def charactersFrom : List Nat → List Char → Option (List Char)
  | [], done => some done.reverse
  | [code], done =>
      if isAllowed code then some ((if code == 0x0D then '\n' else Char.ofNat code) :: done).reverse
      else none
  | code :: next :: rest, done =>
      if !isAllowed code then none
      else if code == 0x0D then
        if next == 0x0A then charactersFrom rest ('\n' :: done)
        else charactersFrom (next :: rest) ('\n' :: done)
      else charactersFrom (next :: rest) (Char.ofNat code :: done)

def characters? (text : Bytes) : Option (List Char) := (codes? text).bind (charactersFrom · [])

end OpcodeTable.Yaml
