import OpcodeTable.Bytes

/-!
Each space is judged on the row as it came in.
-/

set_option autoImplicit false

namespace OpcodeTable.Rule

def dropSpacesFrom (ahead : Bytes → Bool) : Bytes → Bytes → Bytes
  | [], done => done.reverse
  | byte :: rest, done =>
      if byte == Bytes.space && ahead rest then dropSpacesFrom ahead rest done
      else dropSpacesFrom ahead rest (byte :: done)

def dropSpaces (ahead : Bytes → Bool) (row : Bytes) : Bytes := dropSpacesFrom ahead row []

theorem drop_spaces_from_done (ahead : Bytes → Bool) (row done : Bytes) :
    dropSpacesFrom ahead row done = done.reverse ++ dropSpacesFrom ahead row [] := by
  induction row generalizing done with
  | nil => simp [dropSpacesFrom]
  | cons byte rest ih =>
      by_cases dropped : byte == Bytes.space && ahead rest
      · simp only [dropSpacesFrom, dropped, if_true]
        exact ih done
      · simp only [dropSpacesFrom, dropped]
        rw [ih (byte :: done), ih [byte]]
        simp

theorem drop_spaces_cons (ahead : Bytes → Bool) (byte : UInt8) (rest : Bytes) :
    dropSpaces ahead (byte :: rest) =
      if byte == Bytes.space && ahead rest then dropSpaces ahead rest
      else byte :: dropSpaces ahead rest := by
  by_cases dropped : byte == Bytes.space && ahead rest
  · simp [dropSpaces, dropSpacesFrom, dropped]
  · have tail := drop_spaces_from_done ahead rest [byte]
    simpa [dropSpaces, dropSpacesFrom, dropped] using tail

def startsBytePair : Bytes → Bool
  | high :: low :: _ => Bytes.isUpperHex high && Bytes.isUpperHex low
  | _ => false

def startsSubcode : Bytes → Bool
  | mark :: digit :: _ => mark == Bytes.slash && Bytes.isDigit digit
  | _ => false

def joinBytePairs : Bytes → Bytes := dropSpaces startsBytePair

def joinSubcodes : Bytes → Bytes := dropSpaces startsSubcode

end OpcodeTable.Rule
