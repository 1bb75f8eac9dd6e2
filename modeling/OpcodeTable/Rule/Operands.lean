import OpcodeTable.Bytes

/-!
The entries are applied one after the other over the whole row, so an entry sees what those before it have
written.
-/

set_option autoImplicit false

namespace OpcodeTable.Rule

structure Operand where
  target : Bytes
  code : Bytes
deriving DecidableEq, Repr

def operand (target code : String) : Operand := ⟨ascii target, ascii code⟩

def operands : List Operand := [
  operand "eax" "0C",
  operand "rax" "0D",
  operand "al" "0A",
  operand "ax" "0B",
  operand "cl" "1A",
  operand ", 1" ", L1",
  operand "r8" "RA",
  operand "r16" "RB",
  operand "r32" "RC",
  operand "r64" "RD",
  operand "r/m8" "MA",
  operand "r/m16" "MB",
  operand "r/m32" "MC",
  operand "r/m64" "MD",
  operand "imm8" "IA",
  operand "imm16" "IB",
  operand "imm32" "IC",
  operand "imm64" "ID",
  operand "rel8" "IA",
  operand "rel16" "IB",
  operand "rel32" "IC",
  operand "rel64" "ID"]

def Operand.apply (entry : Operand) (row : Bytes) : Bytes := Bytes.replaceAll entry.target entry.code row

def applyOperands (table : List Operand) (row : Bytes) : Bytes :=
  table.foldl (fun text entry => entry.apply text) row

def replaceOperands (row : Bytes) : Bytes := applyOperands operands row

end OpcodeTable.Rule
