import OpcodeTable.Utf8
import OpcodeTable.Unicode.Case

/-!
The only context that matters is that of a capital sigma: inside a word it becomes the final form, unless
a cased character follows it.
-/

set_option autoImplicit false

namespace OpcodeTable.Rule

open Utf8 (Glyph)

def capitalSigma : Nat := 0x3A3
def smallSigma : Nat := 0x3C3
def finalSigma : Nat := 0x3C2

def sigmaReach : Nat := 31

def isCased : Glyph → Bool
  | .scalar code => Unicode.isCased code
  | .stray _ => false

def isCaseIgnorable : Glyph → Bool
  | .scalar code => Unicode.isCaseIgnorable code
  | .stray _ => false

-- Whether the first character that is not ignorable has case, among the next `reach` ones.
def casedFollows : Nat → List Glyph → Bool
  | 0, _ => false
  | _, [] => false
  | reach + 1, glyph :: rest =>
      if isCaseIgnorable glyph then casedFollows reach rest else isCased glyph

def lowerGlyph : Glyph → List Glyph
  | .scalar code => (Unicode.lowerForm code).map .scalar
  | .stray byte => [.stray byte]

def lowerInWord (glyph : Glyph) (rest : List Glyph) : List Glyph :=
  if glyph = .scalar capitalSigma then
    [.scalar (if casedFollows sigmaReach rest then smallSigma else finalSigma)]
  else lowerGlyph glyph

-- A word starts at a cased character and ends at a character that is neither cased nor ignorable.
def staysInWord (inWord : Bool) (glyph : Glyph) : Bool := isCased glyph || inWord && isCaseIgnorable glyph

def lowerHere (inWord : Bool) (glyph : Glyph) (rest : List Glyph) : List Glyph :=
  if staysInWord inWord glyph then if inWord then lowerInWord glyph rest else lowerGlyph glyph
  else [glyph]

def lowerFrom : Bool → List Glyph → List Glyph → List Glyph
  | _, [], done => done.reverse
  | inWord, glyph :: rest, done =>
      lowerFrom (staysInWord inWord glyph) rest ((lowerHere inWord glyph rest).reverseAux done)

theorem lower_from_done (inWord : Bool) (text done : List Glyph) :
    lowerFrom inWord text done = done.reverse ++ lowerFrom inWord text [] := by
  induction text generalizing inWord done with
  | nil => simp [lowerFrom]
  | cons glyph rest ih =>
      rw [lowerFrom, lowerFrom, ih, ih _ ((lowerHere inWord glyph rest).reverseAux [])]
      simp [List.reverseAux_eq]

theorem lower_from_cons (inWord : Bool) (glyph : Glyph) (rest : List Glyph) :
    lowerFrom inWord (glyph :: rest) [] =
      lowerHere inWord glyph rest ++ lowerFrom (staysInWord inWord glyph) rest [] := by
  rw [lowerFrom, lower_from_done]
  simp [List.reverseAux_eq]

def fullLowercase (row : Bytes) : Bytes := Utf8.encode (lowerFrom false (Utf8.glyphs row) [])

end OpcodeTable.Rule
