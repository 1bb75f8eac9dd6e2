/-!
Rows are byte strings: nothing in the table is required to be valid text.
-/

set_option autoImplicit false

namespace OpcodeTable

abbrev Bytes := List UInt8

def ascii (text : String) : Bytes := text.toList.map fun c => c.val.toUInt8

namespace Bytes

def ofText (text : String) : Bytes := text.toUTF8.toList

def newline : UInt8 := 0x0A
def carriageReturn : UInt8 := 0x0D
def space : UInt8 := 0x20
def comma : UInt8 := 0x2C
def slash : UInt8 := 0x2F

def isDigit (byte : UInt8) : Bool := 0x30 ≤ byte && byte ≤ 0x39

def isUpperHex (byte : UInt8) : Bool := isDigit byte || (0x41 ≤ byte && byte ≤ 0x46)

def isLowerHex (byte : UInt8) : Bool := isDigit byte || (0x61 ≤ byte && byte ≤ 0x66)

theorem every_byte {holds : UInt8 → Prop} (each : ∀ code : Fin 256, holds (UInt8.ofFin code)) (byte : UInt8) :
    holds byte := by
  have here := each byte.toFin
  rwa [UInt8.ofFin_toFin] at here

structure Edit where
  code : Bytes
  more : Nat
deriving DecidableEq, Repr

-- Looks for an edit at every position from left to right. An edit found is made, and the search
-- resumes after the bytes it covers; `skip` counts those still to be passed over and `done` holds
-- the output so far, last byte first.
def sweepFrom (find : UInt8 → Bytes → Option Edit) : Nat → Bytes → Bytes → Bytes
  | _, [], done => done.reverse
  | skip + 1, _ :: rest, done => sweepFrom find skip rest done
  | 0, byte :: rest, done =>
      match find byte rest with
      | some edit => sweepFrom find edit.more rest (edit.code.reverseAux done)
      | none => sweepFrom find 0 rest (byte :: done)

def sweep (find : UInt8 → Bytes → Option Edit) (text : Bytes) : Bytes := sweepFrom find 0 text []

theorem sweep_from_done (find : UInt8 → Bytes → Option Edit) (skip : Nat) (text done : Bytes) :
    sweepFrom find skip text done = done.reverse ++ sweepFrom find skip text [] := by
  induction text generalizing skip done with
  | nil => cases skip <;> simp [sweepFrom]
  | cons byte rest ih =>
      cases skip with
      | succ skip => simpa [sweepFrom] using ih skip done
      | zero =>
          cases found : find byte rest with
          | none =>
              simp only [sweepFrom, found]
              rw [ih 0 (byte :: done), ih 0 [byte]]
              simp
          | some edit =>
              simp only [sweepFrom, found]
              rw [ih edit.more (edit.code.reverseAux done), ih edit.more (edit.code.reverseAux [])]
              simp [List.reverseAux_eq]

theorem sweep_nil (find : UInt8 → Bytes → Option Edit) : sweep find [] = [] := rfl

theorem sweep_keep (find : UInt8 → Bytes → Option Edit) (byte : UInt8) (rest : Bytes)
    (absent : find byte rest = none) : sweep find (byte :: rest) = byte :: sweep find rest := by
  simp only [sweep, sweepFrom, absent]
  rw [sweep_from_done]
  simp

theorem sweep_from_skip (find : UInt8 → Bytes → Option Edit) (skip : Nat) (text done : Bytes) :
    sweepFrom find skip text done = sweepFrom find 0 (text.drop skip) done := by
  induction text generalizing skip with
  | nil => cases skip <;> simp [sweepFrom]
  | cons byte rest ih =>
      cases skip with
      | zero => simp
      | succ skip => simpa [sweepFrom] using ih skip

theorem sweep_edit (find : UInt8 → Bytes → Option Edit) (byte : UInt8) (rest : Bytes) (edit : Edit)
    (found : find byte rest = some edit) :
    sweep find (byte :: rest) = edit.code ++ sweep find (rest.drop edit.more) := by
  simp only [sweep, sweepFrom, found]
  rw [sweep_from_done, sweep_from_skip]
  simp [List.reverseAux_eq]

def findLiteral (target code : Bytes) (byte : UInt8) (rest : Bytes) : Option Edit :=
  if target.isPrefixOf (byte :: rest) then some ⟨code, target.length - 1⟩ else none

def replaceAll (target code text : Bytes) : Bytes := sweep (findLiteral target code) text

def trimRight (drop : UInt8 → Bool) (text : Bytes) : Bytes :=
  (text.reverse.dropWhile drop).reverse

end Bytes

end OpcodeTable
