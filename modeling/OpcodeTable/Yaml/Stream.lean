import OpcodeTable.Yaml.Token

/-!
Blocks are told by indentation, so that a stream makes tokens for their starts and ends; what stands
before a colon is a key, and the token for a key is put in when the colon is seen. Tokens wait in a queue
as long as they may still get a key before them.
-/

set_option autoImplicit false

namespace OpcodeTable.Yaml

structure Candidate where
  level : Nat
  -- Which token of the text it is.
  number : Nat
  required : Bool
  index : Nat
  line : Nat
  column : Nat

structure Stream where
  here : Cursor
  level : Nat
  indents : List Nat
  depth : Nat
  allowed : Bool
  -- At most one for each level, innermost first.
  candidates : List Candidate
  queue : List Token
  made : Nat
  taken : Nat

namespace Stream

def start (text : List Char) : Stream := ⟨.start text, 0, [], 0, true, [], [], 0, 0⟩

def isFlow (stream : Stream) : Bool := 0 < stream.level

def inner (stream : Stream) : Nat :=
  match stream.indents with
  | [] => 0
  | column :: _ => column + 1

def add (token : Token) (stream : Stream) : Stream :=
  { stream with queue := stream.queue ++ [token], made := stream.made + 1 }

def insert (number : Nat) (tokens : List Token) (stream : Stream) : Stream :=
  let position := number - stream.taken
  { stream with
    queue := stream.queue.take position ++ tokens ++ stream.queue.drop position
    made := stream.made + tokens.length }

def move (here : Cursor) (stream : Stream) : Stream := { stream with here := here }

def allow (allowed : Bool) (stream : Stream) : Stream := { stream with allowed := allowed }

def closing (column : Option Nat) (indents : List Nat) : Nat :=
  (indents.takeWhile fun indent => match column with
    | none => true
    | some column => column < indent).length

def unroll (column : Option Nat) (stream : Stream) : Stream :=
  if stream.isFlow then stream
  else
    let count := closing column stream.indents
    if count == 0 then stream
    else
      { stream with
        queue := stream.queue ++ List.replicate count .blockEnd
        made := stream.made + count
        indents := stream.indents.drop count
        depth := stream.depth - count }

def deepest : Nat := 10000

def opens (column : Nat) (stream : Stream) : Bool := !stream.isFlow && stream.inner ≤ column

def roll (column : Nat) (stream : Stream) : Option Stream :=
  if !stream.opens column then some stream
  else if deepest ≤ stream.depth then none
  else some { stream with indents := column :: stream.indents, depth := stream.depth + 1 }

def rollAt (column : Nat) (token : Token) (stream : Stream) : Option Stream :=
  (stream.roll column).map fun rolled => if stream.opens column then rolled.add token else rolled

def dropCandidate (stream : Stream) : Option Stream :=
  match stream.candidates with
  | [] => some stream
  | candidate :: rest =>
      if candidate.level != stream.level then some stream
      else if candidate.required then none
      else some { stream with candidates := rest }

-- What starts here may be a key if one is allowed; at the column of a block it has to be one.
def saveCandidate (stream : Stream) : Option Stream :=
  if !stream.allowed then some stream
  else
    let here := stream.here
    let required := !stream.isFlow && stream.indents.head? == some here.column
    stream.dropCandidate.map fun after =>
      let candidate : Candidate :=
        ⟨stream.level, stream.made, required, here.index, here.line, here.column⟩
      { after with candidates := candidate :: after.candidates }

def longestKey : Nat := 1024

-- A key stands on one line, and is not too long.
def isStale (stream : Stream) (candidate : Candidate) : Bool :=
  candidate.line < stream.here.line || candidate.index + longestKey < stream.here.index

def finish (stream : Stream) : Option Stream :=
  let here := stream.here
  let last := if here.column == 0 then here else { here with column := 0, line := here.line + 1 }
  ((stream.move last).unroll none).dropCandidate.map fun after => (after.allow false).add .textEnd

def directive (stream : Stream) : Option Stream := do
  let after ← (stream.unroll none).dropCandidate
  let (token, here) ← readDirective stream.here
  return ((after.allow false).move here).add token

def marker (token : Token) (stream : Stream) : Option Stream := do
  let after ← (stream.unroll none).dropCandidate
  return ((after.allow false).move (stream.here.skip 3)).add token

def openBracket (token : Token) (stream : Stream) : Option Stream := do
  let after ← stream.saveCandidate
  if deepest ≤ after.level then none
  else return ({ after with level := after.level + 1, allowed := true }.move (after.here.skip 1)).add token

def closeBracket (token : Token) (stream : Stream) : Option Stream := do
  let after ← stream.dropCandidate
  return ({ after with level := after.level - 1, allowed := false }.move (after.here.skip 1)).add token

def comma (stream : Stream) : Option Stream := do
  let after ← stream.dropCandidate
  return ((after.allow true).move (after.here.skip 1)).add .comma

def entry (stream : Stream) : Option Stream := do
  if !stream.isFlow && !stream.allowed then none
  else
    let rolled ← stream.rollAt stream.here.column .blockSequence
    let after ← rolled.dropCandidate
    return ((after.allow true).move (after.here.skip 1)).add .entry

def explicitKey (stream : Stream) : Option Stream := do
  if !stream.isFlow && !stream.allowed then none
  else
    let rolled ← stream.rollAt stream.here.column .blockMapping
    let after ← rolled.dropCandidate
    return ((after.allow !stream.isFlow).move (after.here.skip 1)).add .key

def keyBefore (stream : Stream) : Option (Option Candidate × Stream) :=
  match stream.candidates with
  | [] => some (none, stream)
  | candidate :: rest =>
      if candidate.level != stream.level then some (none, stream)
      else if !stream.isStale candidate then some (some candidate, { stream with candidates := rest })
      else if candidate.required then none
      else some (none, { stream with candidates := rest })

def value (stream : Stream) : Option Stream := do
  match ← stream.keyBefore with
  | (some key, after) =>
      let rolled ← after.roll key.column
      let tokens := if after.opens key.column then [.blockMapping, .key] else [.key]
      let keyed := rolled.insert key.number tokens
      return ((keyed.allow false).move (keyed.here.skip 1)).add .value
  | (none, after) =>
      if !after.isFlow && !after.allowed then none
      else
        let rolled ← after.rollAt after.here.column .blockMapping
        return ((rolled.allow !rolled.isFlow).move (rolled.here.skip 1)).add .value

def named (token : String → Token) (stream : Stream) : Option Stream := do
  let after ← stream.saveCandidate
  let (name, here) ← readName after.here
  return ((after.allow false).move here).add (token name)

def tagged (stream : Stream) : Option Stream := do
  let after ← stream.saveCandidate
  let (token, here) ← readTag after.here
  return ((after.allow false).move here).add token

def block (literal : Bool) (stream : Stream) : Option Stream := do
  let after ← stream.dropCandidate
  let (head, first) ← blockHead? literal (after.here.skip 1)
  let indent := if head.increment == 0 then 0 else stream.inner - 1 + head.increment
  let (text, here) ← readBlock head (max stream.inner 1) first.rest indent 0 false .start first
  return ((after.allow true).move here).add (.scalar text false)

def quoted (read : Cursor → Option (String × Cursor)) (stream : Stream) : Option Stream := do
  let after ← stream.saveCandidate
  let (text, here) ← read (after.here.skip 1)
  return ((after.allow false).move here).add (.scalar text false)

def plain (stream : Stream) : Option Stream := do
  let after ← stream.saveCandidate
  let (text, broken, here) ← readPlain stream.isFlow stream.inner after.here.rest .start after.here
  return ((after.allow broken).move here).add (.scalar text true)

def isIndicator (c : Char) : Bool :=
  ['-', '?', ':', ',', '[', ']', '\x7b', '\x7d', '#', '&', '*', '!', '|', '>', apostrophe, '"', '%', '@',
    backtick].contains c

def startsPlain (flow : Bool) (c : Char) (rest : List Char) : Bool :=
  !(isBlank c || isBreak c || isIndicator c)
    || (c == '-' && !(rest.head?).any isBlank)
    || (!flow && (c == '?' || c == ':') && !isEndOfWord rest)

def word (c : Char) (rest : List Char) (stream : Stream) : Option Stream :=
  let flow := stream.isFlow
  if c == '[' then stream.openBracket .openSequence
  else if c == '\x7b' then stream.openBracket .openMapping
  else if c == ']' then stream.closeBracket .closeSequence
  else if c == '\x7d' then stream.closeBracket .closeMapping
  else if c == ',' then stream.comma
  else if c == '?' && (flow || isEndOfWord rest) then stream.explicitKey
  else if c == ':' && (flow || isEndOfWord rest) then stream.value
  else if c == '*' then stream.named .alias
  else if c == '&' then stream.named .anchor
  else if c == '!' then stream.tagged
  else if c == '|' && !flow then stream.block true
  else if c == '>' && !flow then stream.block false
  else if c == apostrophe then stream.quoted fun here => readSingle here.rest .start here
  else if c == '"' then stream.quoted fun here => readDouble 0 here.rest .start here
  else if startsPlain flow c rest then stream.plain
  else none

-- Makes the next token, with the comment that stands on its line. A dash leaves the comment to what
-- comes after it.
def next (stream : Stream) : Option Stream :=
  let (allowed, here) := passGap stream.isFlow stream.here.rest .blank stream.allowed stream.here
  let stream := ((stream.allow allowed).move here).unroll (some here.column)
  match here.rest with
  | [] => stream.finish
  | c :: rest =>
      if here.column == 0 && c == '%' then stream.directive
      else if here.column == 0 && startsMarker '-' here.rest then stream.marker .documentStart
      else if here.column == 0 && startsMarker '.' here.rest then stream.marker .documentEnd
      else if c == '-' && isEndOfWord rest then stream.entry
      else (stream.word c rest).map fun after => after.move after.here.skipLineComment

def isOpen (stream : Stream) : Option (Bool × Stream) :=
  match stream.candidates.getLast? with
  | none => some (false, stream)
  | some candidate =>
      if candidate.number != stream.taken then some (false, stream)
      else if !stream.isStale candidate then some (true, stream)
      else if candidate.required then none
      else some (false, { stream with candidates := stream.candidates.dropLast })

-- Makes tokens until the first one is settled and two more are there. `fuel` bounds their number.
def fill : Nat → Stream → Option Stream
  | 0, _ => none
  | fuel + 1, stream =>
      match stream.queue with
      | _ :: _ :: _ :: _ =>
          match stream.isOpen with
          | none => none
          | some (false, settled) => some settled
          | some (true, _) => stream.next.bind (fill fuel)
      | _ => stream.next.bind (fill fuel)

end Stream

end OpcodeTable.Yaml
