import OpcodeTable.Rule.Columns

set_option autoImplicit false

namespace OpcodeTable.Rule

open Bytes (Edit)

def isTokenByte (byte : UInt8) : Bool := Bytes.isLowerHex byte || byte == Bytes.slash

def wideMark : UInt8 := 0x77

def splitToken (text : Bytes) : Bytes × Bytes :=
  match text with
  | [] => ([], [])
  | byte :: rest =>
      if byte == wideMark then
        match rest.takeWhile isTokenByte with
        | [] => ([], text)
        | run => (byte :: run, rest.dropWhile isTokenByte)
      else (text.takeWhile isTokenByte, text.dropWhile isTokenByte)

-- A token, a space, and at least one more character on the line: the line's rest comes first. A
-- token that nothing follows is passed over as a whole.
def findToken (byte : UInt8) (rest : Bytes) : Option Edit :=
  match splitToken (byte :: rest) with
  | ([], _) => none
  | (token, after) =>
      if startsColumn after then
        let column := (after.drop 1).takeWhile isNotNewline
        some ⟨column ++ token, token.length + column.length⟩
      else some ⟨token, token.length - 1⟩

def reorder : Bytes → Bytes := Bytes.sweep findToken

end OpcodeTable.Rule
