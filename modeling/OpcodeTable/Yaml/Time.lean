import OpcodeTable.Text.Integer

set_option autoImplicit false

namespace OpcodeTable.Yaml

structure Time where
  year : Nat
  month : Nat
  day : Nat
  hour : Nat
  minute : Nat
  second : Nat
  nanosecond : Nat
  offset : Int
deriving DecidableEq, Repr

namespace Time

def isLeapYear (year : Nat) : Bool := year % 4 == 0 && (year % 100 != 0 || year % 400 == 0)

def daysIn (year month : Nat) : Nat :=
  if month == 2 then if isLeapYear year then 29 else 28
  else if month == 4 || month == 6 || month == 9 || month == 11 then 30
  else 31

def isValid (time : Time) : Bool :=
  1 ≤ time.month && time.month ≤ 12 && 1 ≤ time.day && time.day ≤ daysIn time.year time.month
    && time.hour < 24 && time.minute < 60 && time.second < 60

def number? (least width : Nat) (text : List Char) : Option (Nat × List Char) :=
  let digits := (text.take width).takeWhile Char.isDigit
  if digits.length < least then none
  else (Text.digits? 10 digits).map (·, text.drop digits.length)

def mark? (mark : Char) : List Char → Option (List Char)
  | c :: rest => if c == mark then some rest else none
  | [] => none

def fraction (text : List Char) : Nat × List Char :=
  match text with
  | mark :: rest =>
      let digits := rest.takeWhile Char.isDigit
      if (mark == '.' || mark == ',') && !digits.isEmpty then
        let kept := digits.take 9
        ((Text.digits? 10 (kept ++ List.replicate (9 - kept.length) '0')).getD 0,
          rest.drop digits.length)
      else (0, text)
  | [] => (0, [])

def date? (text : List Char) : Option (Time × List Char) := do
  let (year, text) ← number? 4 4 text
  let (month, text) ← number? 1 2 (← mark? '-' text)
  let (day, text) ← number? 1 2 (← mark? '-' text)
  return (⟨year, month, day, 0, 0, 0, 0, 0⟩, text)

def clock? (date : Time) (text : List Char) : Option (Time × List Char) := do
  let (hour, text) ← number? 1 2 text
  let (minute, text) ← number? 1 2 (← mark? ':' text)
  let (second, text) ← number? 1 2 (← mark? ':' text)
  let (nanosecond, text) := fraction text
  return ({ date with hour := hour, minute := minute, second := second, nanosecond := nanosecond }, text)

-- The distance to universal time may be as large as a whole day and an hour.
def zone? : Time × List Char → Option (Time × List Char)
  | (_, []) => none
  | (time, 'Z' :: rest) => some (time, rest)
  | (time, sign :: rest) => do
      let (hours, rest) ← number? 2 2 rest
      let (minutes, rest) ← number? 2 2 (← mark? ':' rest)
      let offset : Int := hours * 60 + minutes
      if 24 < hours || 60 < minutes then none
      else if sign == '+' then some ({ time with offset := offset }, rest)
      else if sign == '-' then some ({ time with offset := -offset }, rest)
      else none

def whole? (read : Time × List Char) : Option Time :=
  if read.2.isEmpty && read.1.isValid then some read.1 else none

def ofChars? (text : List Char) : Option Time :=
  match date? text with
  | none => none
  | some (date, []) => whole? (date, [])
  | some (date, mark :: rest) =>
      if mark == 'T' || mark == 't' then (clock? date rest).bind fun read => (zone? read).bind whole?
      else if mark == ' ' then (clock? date (rest.dropWhile (· == ' '))).bind whole?
      else none

def padded (width number : Nat) : String :=
  let digits := toString number
  String.ofList (List.replicate (width - digits.length) '0') ++ digits

def fractionText (nanosecond : Nat) : String :=
  if nanosecond == 0 then ""
  else
    let digits := (padded 9 nanosecond).toList
    "." ++ String.ofList (digits.reverse.dropWhile (· == '0')).reverse

def offsetText (offset : Int) : String :=
  (if offset < 0 then "-" else "+") ++ padded 2 (offset.natAbs / 60) ++ padded 2 (offset.natAbs % 60)

def display (time : Time) : String :=
  padded 4 time.year ++ "-" ++ padded 2 time.month ++ "-" ++ padded 2 time.day ++ " "
    ++ padded 2 time.hour ++ ":" ++ padded 2 time.minute ++ ":" ++ padded 2 time.second
    ++ fractionText time.nanosecond ++ " " ++ offsetText time.offset ++ " "
    ++ (if time.offset == 0 then "UTC" else offsetText time.offset)

end Time

end OpcodeTable.Yaml
