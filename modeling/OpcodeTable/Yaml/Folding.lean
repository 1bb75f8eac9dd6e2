import OpcodeTable.Text.Integer
import OpcodeTable.Yaml.Cursor

/-!
A scalar that is not a block may be folded over several lines: a single line end counts as a blank, and of
several ones the first is dropped.
-/

set_option autoImplicit false

namespace OpcodeTable.Yaml

def kept (c : Char) : Char := if c == nextLine then '\n' else c

-- Characters are held last one first. Blanks and line ends wait until a character follows them; a
-- line end that was escaped joins its lines without a blank.
structure Folded where
  done : List Char
  blanks : List Char
  breaks : List Char
  joined : Bool

namespace Folded

def start : Folded := ⟨[], [], [], false⟩

def isBroken (folded : Folded) : Bool := !folded.breaks.isEmpty

def foldedBreaks (breaks : List Char) : List Char :=
  match breaks.reverse with
  | [] => []
  | ['\n'] => [' ']
  | '\n' :: rest => rest.reverse
  | _ => breaks

def pending (folded : Folded) : List Char :=
  if folded.joined then folded.breaks
  else if folded.isBroken then foldedBreaks folded.breaks
  else folded.blanks

def settled (folded : Folded) : List Char := folded.pending ++ folded.done

def add (folded : Folded) (c : Char) : Folded := ⟨c :: folded.settled, [], [], false⟩

def blank (folded : Folded) (c : Char) : Folded :=
  if folded.isBroken || folded.joined then folded else { folded with blanks := c :: folded.blanks }

def lineEnd (folded : Folded) (c : Char) : Folded :=
  { folded with blanks := [], breaks := kept c :: folded.breaks }

def join (folded : Folded) : Folded := ⟨folded.settled, [], [], true⟩

def text (folded : Folded) : String := String.ofList folded.done.reverse

def whole (folded : Folded) : String := String.ofList folded.settled.reverse

def isApart (folded : Folded) : Bool := folded.isBroken || !folded.blanks.isEmpty

end Folded

def isFlowMark (c : Char) : Bool :=
  c == ',' || c == '?' || c == '[' || c == ']' || c == '\x7b' || c == '\x7d'

def endsPlain (flow : Bool) (c : Char) (rest : List Char) : Bool :=
  (c == ':' && isEndOfWord rest) || (flow && isFlowMark c)

-- A plain scalar goes on in the next line if that is indented by at least `indent`. Besides the text
-- it is told whether the scalar was left at a new line.
def readPlain (flow : Bool) (indent : Nat) :
    List Char → Folded → Cursor → Option (String × Bool × Cursor)
  | [], folded, here => some (folded.text, folded.isBroken, here)
  | c :: rest, folded, here =>
      let next := here.step c rest
      if isBreak c then readPlain flow indent rest (folded.lineEnd c) next
      else if isBlank c then
        if c == '\t' && folded.isBroken && here.column < indent then none
        else readPlain flow indent rest (folded.blank c) next
      else
        let outside := folded.isBroken
          && ((!flow && here.column < indent) || isBoundary here.column (c :: rest))
        if outside || endsPlain flow c rest || (folded.isApart && c == '#') then
          some (folded.text, folded.isBroken, here)
        else readPlain flow indent rest (folded.add c) next

def apostrophe : Char := Char.ofNat 39

def readSingle : List Char → Folded → Cursor → Option (String × Cursor)
  | [], _, _ => none
  | c :: rest, folded, here =>
      let next := here.step c rest
      if isBoundary here.column (c :: rest) then none
      else if isBreak c then readSingle rest (folded.lineEnd c) next
      else if isBlank c then readSingle rest (folded.blank c) next
      else if c == apostrophe then
        match rest with
        | quote :: after =>
            if quote == apostrophe then
              readSingle after (folded.add apostrophe) (next.step quote after)
            else some (folded.whole, next)
        | [] => some (folded.whole, next)
      else readSingle rest (folded.add c) next

def escapes : List (Char × Nat) :=
  [('0', 0), ('a', 7), ('b', 8), ('t', 9), ('\t', 9), ('n', 10), ('v', 11), ('f', 12), ('r', 13),
    ('e', 27), (' ', 32), ('"', 34), (apostrophe, 39), ('\\', 92), ('N', 0x85), ('_', 0xA0),
    ('L', 0x2028), ('P', 0x2029)]

def isScalarCode (code : Nat) : Bool := code < 0xD800 || (0xDFFF < code && code ≤ 0x10FFFF)

def codePoint? (digits : List Char) : Option Char :=
  match Text.digits? 16 digits with
  | some code => if isScalarCode code then some (Char.ofNat code) else none
  | none => none

def escape? : List Char → Option (Char × Nat)
  | [] => none
  | mark :: rest =>
      match escapes.lookup mark with
      | some code => some (Char.ofNat code, 1)
      | none =>
          let width := if mark == 'x' then 2 else if mark == 'u' then 4 else if mark == 'U' then 8 else 0
          let digits := rest.take width
          if width == 0 || digits.length < width then none
          else (codePoint? digits).map (·, width + 1)

-- `skipped` counts the characters of an escape that are still to be passed over.
def readDouble : Nat → List Char → Folded → Cursor → Option (String × Cursor)
  | _, [], _, _ => none
  | skipped + 1, c :: rest, folded, here => readDouble skipped rest folded (here.step c rest)
  | 0, c :: rest, folded, here =>
      let next := here.step c rest
      if isBoundary here.column (c :: rest) then none
      else if isBreak c then readDouble 0 rest (folded.lineEnd c) next
      else if isBlank c then readDouble 0 rest (folded.blank c) next
      else if c == '"' then some (folded.whole, next)
      else if c == '\\' then
        if (rest.head?).any isBreak then readDouble 1 rest folded.join next
        else
          match escape? rest with
          | some (meant, width) => readDouble width rest (folded.add meant) next
          | none => none
      else readDouble 0 rest (folded.add c) next

inductive Ending where
  | strip
  | clip
  | keep
deriving DecidableEq, Repr

structure BlockHead where
  literal : Bool
  ending : Ending
  increment : Nat

def ending? (c : Char) : Option Ending :=
  if c == '+' then some .keep else if c == '-' then some .strip else none

def increment? (c : Char) : Option Nat := if c.isDigit then some (c.toNat - 48) else none

def blockSigns (text : List Char) : Ending × Option Nat × Nat :=
  match text with
  | first :: rest =>
      let second := rest.headD ' '
      match ending? first, increment? first with
      | some ending, _ =>
          match increment? second with
          | some increment => (ending, some increment, 2)
          | none => (ending, none, 1)
      | none, some increment =>
          match ending? second with
          | some ending => (ending, some increment, 2)
          | none => (.clip, some increment, 1)
      | none, none => (.clip, none, 0)
  | [] => (.clip, none, 0)

def blockHead? (literal : Bool) (here : Cursor) : Option (BlockHead × Cursor) :=
  let (ending, increment, count) := blockSigns here.rest
  let blanks := (here.skip count).skipWhile isBlank
  let last := if startsWith '#' blanks.rest then blanks.skipWhile fun c => !isBreak c else blanks
  if increment == some 0 then none
  else
    match last.rest with
    | [] => some (⟨literal, ending, increment.getD 0⟩, last)
    | c :: rest =>
        if isBreak c then some (⟨literal, ending, increment.getD 0⟩, last.step c rest) else none

-- The lines of a block so far, last character first, and what waits for another line: the end of the
-- last one and the empty ones after it.
structure Block where
  done : List Char
  lineEnd : List Char
  empty : List Char
  indented : Bool

namespace Block

def start : Block := ⟨[], [], [], false⟩

def line (literal : Bool) (c : Char) (block : Block) : Block :=
  let folds := !literal && !block.indented && !isBlank c && block.lineEnd == ['\n']
  let joint := if !folds then block.lineEnd else if block.empty.isEmpty then [' '] else []
  ⟨c :: (block.empty ++ joint ++ block.done), [], [], isBlank c⟩

def finish (ending : Ending) (block : Block) : String :=
  let tail := match ending with
    | .strip => []
    | .clip => block.lineEnd
    | .keep => block.empty ++ block.lineEnd
  String.ofList (tail ++ block.done).reverse

end Block

-- Reads the lines of a block that is indented by `indent`, or, where that is 0, by as much as its
-- first line that is not empty, but by at least `least`. `inside` tells that a line was begun and
-- `widest` how far the empty lines so far were indented.
def readBlock (head : BlockHead) (least : Nat) :
    List Char → Nat → Nat → Bool → Block → Cursor → Option (String × Cursor)
  | [], _, _, _, block, here => some (block.finish head.ending, here)
  | c :: rest, indent, widest, inside, block, here =>
      let next := here.step c rest
      if inside then
        if isBreak c then readBlock head least rest indent 0 false { block with lineEnd := [kept c] } next
        else readBlock head least rest indent 0 true { block with done := c :: block.done } next
      else
        let atMargin := indent == 0 || here.column < indent
        let widest := max widest here.column
        if atMargin && c == ' ' then readBlock head least rest indent widest false block next
        else if atMargin && c == '\t' then none
        else if isBreak c then
          readBlock head least rest indent widest false { block with empty := kept c :: block.empty } next
        else
          let margin := if indent == 0 then max widest least else indent
          if here.column == margin then
            readBlock head least rest margin 0 true (block.line head.literal c) next
          else some (block.finish head.ending, here)

end OpcodeTable.Yaml
