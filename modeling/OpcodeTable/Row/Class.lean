import OpcodeTable.Bytes

set_option autoImplicit false

namespace OpcodeTable.Row

inductive RowClass where
  | plain
  | vector
  | empty
  | leadingChar
  | rexMark
deriving DecidableEq, Repr

namespace RowClass

def name : RowClass → String
  | .plain => "row"
  | .vector => "vector"
  | .empty => "empty"
  | .leadingChar => "leading_char"
  | .rexMark => "rex_prefix"

def isDropped : RowClass → Bool
  | .plain | .vector => false
  | .empty | .leadingChar | .rexMark => true

def ofIndex : Int → Option RowClass
  | 0 => some .plain
  | 1 => some .vector
  | 2 => some .empty
  | 3 => some .leadingChar
  | 4 => some .rexMark
  | _ => none

def nameOfIndex (index : Int) : String :=
  match ofIndex index with
  | some rowClass => rowClass.name
  | none => "unknown"

end RowClass

def namesVectorRegister : Bytes → Bool
  | [] => false
  | byte :: rest =>
      (0x78 ≤ byte && byte ≤ 0x7A && (ascii "mm").isPrefixOf rest) || namesVectorRegister rest

def isVector (row : Bytes) : Bool :=
  (ascii "VEX").isPrefixOf row || (ascii "EVEX").isPrefixOf row || namesVectorRegister row

-- The bytes an opcode can start with: a digit, an upper-case hex letter or the `R` of a mark. A
-- character of more than one byte never starts with one of them.
def isOpcodeLead (byte : UInt8) : Bool :=
  Bytes.isDigit byte || byte == 0x52 || (0x41 ≤ byte && byte ≤ 0x46)

def classify (row : Bytes) : RowClass :=
  if isVector row then .vector
  else
    match row with
    | [] => .empty
    | first :: _ =>
        if !isOpcodeLead first then .leadingChar
        else if (ascii "REX + ").isPrefixOf row then .rexMark
        else .plain

end OpcodeTable.Row
