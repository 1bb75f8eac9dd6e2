import OpcodeTable.Yaml.Folding

set_option autoImplicit false

namespace OpcodeTable.Yaml

inductive Token where
  | textEnd
  | version (major minor : Nat)
  | handle (name expansion : String)
  | documentStart
  | documentEnd
  | blockSequence
  | blockMapping
  | blockEnd
  | openSequence
  | closeSequence
  | openMapping
  | closeMapping
  | entry
  | comma
  | key
  | value
  | alias (name : String)
  | anchor (name : String)
  | tag (handle suffix : String)
  | scalar (text : String) (plain : Bool)
deriving DecidableEq, Repr

def isNameLetter (c : Char) : Bool := c.isAlphanum || c == '_' || c == '-'

def backtick : Char := Char.ofNat 96

def endsName (text : List Char) : Bool :=
  isEndOfWord text
    || ['?', ':', ',', ']', '\x7d', '%', '@', backtick].any fun mark => startsWith mark text

def readName (here : Cursor) : Option (String × Cursor) :=
  let first := here.skip 1
  let name := first.word isNameLetter
  let after := first.skip name.length
  if name.isEmpty || !endsName after.rest then none else some (String.ofList name, after)

def isUriLetter (c : Char) : Bool :=
  isNameLetter c
    || [';', '/', '?', ':', '@', '&', '=', '+', '$', ',', '.', '!', '~', '*', apostrophe, '(', ')',
      '[', ']', '%'].contains c

def widthOf (byte : UInt8) : Nat :=
  if byte < 0x80 then 1
  else if Utf8.within 0xC0 0xDF byte then 2
  else if Utf8.within 0xE0 0xEF byte then 3
  else if Utf8.within 0xF0 0xF7 byte then 4
  else 0

def octet? (high low : Char) : Option UInt8 :=
  (Text.digits? 16 [high, low]).map Nat.toUInt8

-- The bytes of a tag, and how many characters spell them. `owed` counts the bytes of a character
-- that have still to come, each as two digits after a percent sign.
def uriFrom : List Char → Nat → Nat → Bytes → Option (Bytes × Nat)
  | '%' :: high :: low :: rest, owed, count, done =>
      match octet? high low with
      | none => none
      | some byte =>
          if owed == 0 then
            if widthOf byte == 0 then none
            else uriFrom rest (widthOf byte - 1) (count + 3) (byte :: done)
          else if Utf8.isTail byte then uriFrom rest (owed - 1) (count + 3) (byte :: done)
          else none
  | c :: rest, owed, count, done =>
      if owed != 0 || c == '%' then none
      else if isUriLetter c then uriFrom rest 0 (count + 1) (c.val.toUInt8 :: done)
      else some (done.reverse, count)
  | [], owed, count, done => if owed == 0 then some (done.reverse, count) else none

def readUri (here : Cursor) : Option (String × Cursor) :=
  (uriFrom here.rest 0 0 []).map fun (bytes, count) => (Utf8.toText bytes, here.skip count)

def requireText (read : String × Cursor) : Option (String × Cursor) :=
  if read.1.isEmpty then none else some read

def readTagParts (here : Cursor) : Option (String × String × Cursor) :=
  let first := here.skip 1
  if startsWith '<' first.rest then do
    let (suffix, after) ← (readUri (first.skip 1)).bind requireText
    if startsWith '>' after.rest then some ("", suffix, after.skip 1) else none
  else
    let name := first.word isNameLetter
    let after := first.skip name.length
    if startsWith '!' after.rest then do
      let (suffix, last) ← (readUri (after.skip 1)).bind requireText
      return ("!" ++ String.ofList name ++ "!", suffix, last)
    else do
      let (suffix, last) ← readUri after
      let whole := String.ofList name ++ suffix
      return if whole.isEmpty then ("", "!", last) else ("!", whole, last)

def readTag (here : Cursor) : Option (Token × Cursor) := do
  let (handle, suffix, after) ← readTagParts here
  if isEndOfWord after.rest then some (.tag handle suffix, after) else none

def readNumber (here : Cursor) : Option (Nat × Cursor) :=
  let digits := here.word Char.isDigit
  if 2 < digits.length then none
  else (Text.digits? 10 digits).map (·, here.skip digits.length)

def readVersion (here : Cursor) : Option (Token × Cursor) := do
  let (major, after) ← readNumber (here.skipWhile isBlank)
  if !startsWith '.' after.rest then none
  else
    let (minor, last) ← readNumber (after.skip 1)
    return (.version major minor, last)

def readHandle (here : Cursor) : Option (Token × Cursor) := do
  let first := here.skipWhile isBlank
  if !startsWith '!' first.rest then none
  else
    let name := (first.skip 1).word isNameLetter
    let after := first.skip (name.length + 1)
    let closed := startsWith '!' after.rest
    let last := if closed then after.skip 1 else after
    if (!closed && !name.isEmpty) || !(last.rest.head?).any isBlank then none
    else
      let (expansion, finish) ← (readUri (last.skipWhile isBlank)).bind requireText
      let handle := "!" ++ String.ofList name ++ if closed then "!" else ""
      if isEndOfWord finish.rest then some (.handle handle expansion, finish) else none

def readDirective (here : Cursor) : Option (Token × Cursor) := do
  let first := here.skip 1
  let name := first.word isNameLetter
  let after := first.skip name.length
  if !isEndOfWord after.rest then none
  else
    let (token, last) ← match String.ofList name with
      | "YAML" => readVersion after
      | "TAG" => readHandle after
      | _ => none
    let blanks := last.skipWhile isBlank
    let finish := if startsWith '#' blanks.rest then blanks.skipWhile fun c => !isBreak c else blanks
    match finish.rest with
    | [] => some (token, finish)
    | c :: rest => if isBreak c then some (token, finish.step c rest) else none

end OpcodeTable.Yaml
