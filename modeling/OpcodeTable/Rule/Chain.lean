import OpcodeTable.Rule.Spacing
import OpcodeTable.Rule.Columns
import OpcodeTable.Rule.Lowercase
import OpcodeTable.Rule.Operands
import OpcodeTable.Rule.Reorder

set_option autoImplicit false

namespace OpcodeTable.Rule

structure Step where
  name : String
  apply : Bytes → Bytes

def chain : List Step := [
  ⟨"rex.w", Bytes.replaceAll (ascii "REX.W + ") (ascii "w")⟩,
  ⟨"byte-pairs", joinBytePairs⟩,
  ⟨"size-suffix", removeSizeMarks⟩,
  ⟨"register-in-opcode", removeRegisterMarks⟩,
  ⟨"trailing-columns", removeTrailingColumns⟩,
  ⟨"subcode", joinSubcodes⟩,
  ⟨"lowercase", lowercase⟩,
  ⟨"operands", replaceOperands⟩,
  ⟨"commas", Bytes.replaceAll [Bytes.comma] []⟩,
  ⟨"reorder", reorder⟩]

def step? (name : String) : Option Step := chain.find? fun step => step.name == name

def applyAll (steps : List Step) (row : Bytes) : Bytes :=
  steps.foldl (fun text step => step.apply text) row

def normalize (row : Bytes) : Bytes := applyAll chain row

def traceFrom : List Step → Bytes → List Bytes
  | [], _ => []
  | step :: steps, row =>
      let next := step.apply row
      next :: traceFrom steps next

def trace (row : Bytes) : List Bytes := traceFrom chain row

end OpcodeTable.Rule
