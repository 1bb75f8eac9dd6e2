import OpcodeTable.Bytes

/-!
A column ends at the end of its text line, so no edit reaches across a newline.
-/

set_option autoImplicit false

namespace OpcodeTable.Rule

open Bytes (Edit)

def isSizeLetter (byte : UInt8) : Bool :=
  byte == 0x62 || byte == 0x77 || byte == 0x64 || byte == 0x71

def isOperandLetter (byte : UInt8) : Bool := byte == 0x72 || byte == 0x69 || byte == 0x63

def isSizeMark : Bytes → Bool
  | operand :: size :: gap :: _ => isOperandLetter operand && isSizeLetter size && gap == Bytes.space
  | _ => false

def findSizeMark (byte : UInt8) (rest : Bytes) : Option Edit :=
  if byte == Bytes.slash && isSizeMark rest then some ⟨[], 3⟩
  else if isSizeMark (byte :: rest) then some ⟨[], 2⟩
  else none

def removeSizeMarks : Bytes → Bytes := Bytes.sweep findSizeMark

def findRegisterMark (byte : UInt8) (rest : Bytes) : Option Edit :=
  match byte, rest with
  | 0x2B, gap :: mark :: size :: _ =>
      if gap == Bytes.space && mark == 0x72 && isSizeLetter size then some ⟨[], 3⟩ else none
  | _, _ => none

def removeRegisterMarks : Bytes → Bytes := Bytes.sweep findRegisterMark

def isEncodingLetter (byte : UInt8) : Bool :=
  byte == 0x52 || byte == 0x4D || byte == 0x49 || byte == 0x44

def isNotNewline (byte : UInt8) : Bool := byte != Bytes.newline

def startsColumn : Bytes → Bool
  | gap :: next :: _ => gap == Bytes.space && isNotNewline next
  | _ => false

-- The operand-encoding column, a run of the letters `R`, `M`, `I`, `D`, and all text after it. A run
-- with no column behind it stays as it is; no later part of it has one either, so that it is passed
-- over as a whole.
def findTrailingColumns (byte : UInt8) (rest : Bytes) : Option Edit :=
  if !isEncodingLetter byte then none
  else if startsColumn (rest.dropWhile isEncodingLetter) then
    some ⟨[], (rest.takeWhile isNotNewline).length⟩
  else
    let more := rest.takeWhile isEncodingLetter
    some ⟨byte :: more, more.length⟩

def removeTrailingColumns : Bytes → Bytes := Bytes.sweep findTrailingColumns

end OpcodeTable.Rule
