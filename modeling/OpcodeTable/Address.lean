import OpcodeTable.Text.Quoted

set_option autoImplicit false

namespace OpcodeTable.Address

inductive Family where
  | four
  | six
deriving DecidableEq, Repr

structure Complaint where
  reason : String
  rest : List Char
deriving DecidableEq, Repr

-- Reads the decimal fields between dots; `value` and `digits` belong to the field that is being
-- read, and `count` fields are complete.
def readFour (value digits count : Nat) : List Char → Except Complaint Unit
  | [] => if count < 3 then .error ⟨"IPv4 address too short", []⟩ else .ok ()
  | c :: rest =>
      let next := value * 10 + (c.toNat - 48)
      if c.isDigit then
        if digits == 1 && value == 0 then .error ⟨"IPv4 field has octet with leading zero", []⟩
        else if 255 < next then .error ⟨"IPv4 field has value >255", []⟩
        else readFour next (digits + 1) count rest
      else if c == '.' then
        if digits == 0 || rest.isEmpty then
          .error ⟨"IPv4 field must have at least one digit", c :: rest⟩
        else if count == 3 then .error ⟨"IPv4 address too long", []⟩
        else readFour 0 0 (count + 1) rest
      else .error ⟨"unexpected character", c :: rest⟩

def isHexDigit (c : Char) : Bool :=
  c.isDigit || ('a' ≤ c && c ≤ 'f') || ('A' ≤ c && c ≤ 'F')

-- A gap stands for all fields that are missing, of which there is at least one.
def settle (gap : Bool) (room : Nat) : Except Complaint Unit :=
  if gap && room == 0 then .error ⟨"the :: must expand to at least one field of zeros", []⟩
  else if !gap && 0 < room then .error ⟨"address string too short", []⟩
  else .ok ()

def readSix (gap : Bool) : Nat → List Char → Except Complaint Unit
  | 0, text => if text.isEmpty then settle gap 0 else .error ⟨"trailing garbage after address", text⟩
  | room + 1, text =>
      let digits := text.takeWhile isHexDigit
      if 4 < digits.length then .error ⟨"each group must have 4 or fewer digits", text⟩
      else if digits.isEmpty then
        .error ⟨"each colon-separated field must have at least one digit", text⟩
      else
        match text.drop digits.length with
        | [] => settle gap room
        | '.' :: _ =>
            if !gap && room != 1 then
              .error ⟨"embedded IPv4 address must replace the final 2 fields of the address", text⟩
            else if room == 0 then
              .error ⟨"too many hex fields to fit an embedded IPv4 at the end of the address", text⟩
            else
              match readFour 0 0 0 text with
              | .error complaint => .error complaint
              | .ok _ => settle gap (room - 1)
        | [':'] => .error ⟨"colon must be followed by more characters", [':']⟩
        | [':', ':'] => if gap then .error ⟨"multiple :: in address", [':']⟩ else settle true room
        | ':' :: ':' :: rest =>
            if gap then .error ⟨"multiple :: in address", ':' :: rest⟩ else readSix true room rest
        | ':' :: rest => readSix gap room rest
        | rest => .error ⟨"unexpected character, want colon", rest⟩

def readSixFully (text : List Char) : Except Complaint Unit :=
  match text with
  | [':', ':'] => .ok ()
  | ':' :: ':' :: rest => readSix true 8 rest
  | _ => readSix false 8 text

-- A percent sign sets off the zone in which an address of sixteen bytes is meant.
def readZoned (text : List Char) : Except Complaint Unit :=
  match text.span (· != '%') with
  | (_, [_]) => .error ⟨"zone must be a non-empty string", []⟩
  | (address, _) => readSixFully address

def check (text : List Char) : Except Complaint Family :=
  match text.find? fun c => c == '.' || c == ':' || c == '%' with
  | some '.' => (readFour 0 0 0 text).map fun _ => .four
  | some ':' => (readZoned text).map fun _ => .six
  | some _ => .error ⟨"missing IPv6 address", []⟩
  | none => .error ⟨"unable to parse IP", []⟩

def Complaint.text (complaint : Complaint) (address : String) : String :=
  "ParseAddr(" ++ Text.quote address ++ "): " ++ complaint.reason
    ++ if complaint.rest.isEmpty then ""
      else " (at " ++ Text.quote (String.ofList complaint.rest) ++ ")"

def isNumeric (host : String) : Bool := (check host.toList).toBool

def isLabelLetter (c : Char) : Bool := c.isAlphanum || c == '_' || c == '-'

def isLabel (label : String) : Bool :=
  !label.isEmpty && label.length ≤ 63 && label.all isLabelLetter
    && !label.startsWith "-" && !label.endsWith "-"

def isName (host : String) : Bool :=
  let whole := if host.endsWith "." then (host.dropEnd 1).toString else host
  host == "." || (whole.utf8ByteSize ≤ 253 && (whole.splitOn ".").all isLabel
    && whole.any fun c => !c.isDigit && c != '.')

end OpcodeTable.Address
