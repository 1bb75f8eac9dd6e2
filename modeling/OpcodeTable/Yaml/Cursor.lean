import OpcodeTable.Yaml.Characters

set_option autoImplicit false

namespace OpcodeTable.Yaml

structure Cursor where
  rest : List Char
  index : Nat
  line : Nat
  column : Nat
  fresh : Bool

namespace Cursor

def start (text : List Char) : Cursor := ⟨text, 0, 0, 0, false⟩

def step (here : Cursor) (c : Char) (rest : List Char) : Cursor :=
  if isBreak c then ⟨rest, here.index + 1, here.line + 1, 0, true⟩
  else ⟨rest, here.index + 1, here.line, here.column + 1, here.fresh && isBlank c⟩

def pass : Nat → List Char → Cursor → Cursor
  | 0, _, here => here
  | _, [], here => here
  | count + 1, c :: rest, here => pass count rest (here.step c rest)

def skip (here : Cursor) (count : Nat) : Cursor := pass count here.rest here

def passWhile (accept : Char → Bool) : List Char → Cursor → Cursor
  | [], here => here
  | c :: rest, here => if accept c then passWhile accept rest (here.step c rest) else here

def skipWhile (here : Cursor) (accept : Char → Bool) : Cursor := passWhile accept here.rest here

def word (here : Cursor) (accept : Char → Bool) : List Char := here.rest.takeWhile accept

end Cursor

def isEndOfWord : List Char → Bool
  | [] => true
  | c :: _ => isBlank c || isBreak c

def startsWith (mark : Char) : List Char → Bool
  | c :: _ => c == mark
  | [] => false

def startsMarker (mark : Char) : List Char → Bool
  | a :: b :: c :: rest => a == mark && b == mark && c == mark && isEndOfWord rest
  | _ => false

def isBoundary (column : Nat) (text : List Char) : Bool :=
  column == 0 && (startsMarker '-' text || startsMarker '.' text)

def leadsToComment : Nat → List Char → Bool
  | _, [] => false
  | 0, _ => false
  | reach + 1, c :: rest => c == '#' || ((isBlank c || c == '\n') && leadsToComment reach rest)

def commentReach : Nat := 511

-- What is being passed over between two tokens: blanks and line ends, a comment, or what stands
-- between a comment and the next one, where a tab is as good as a space.
inductive Gap where
  | blank
  | comment
  | between

-- `allowed` tells whether a key may follow. A line end outside brackets allows one, and where one is
-- allowed a tab is no blank.
def passGap (flow : Bool) : List Char → Gap → Bool → Cursor → Bool × Cursor
  | [], _, allowed, here => (allowed, here)
  | c :: rest, gap, allowed, here =>
      let next := here.step c rest
      match gap with
      | .comment =>
          if !isBreak c then passGap flow rest .comment allowed next
          else if c == '\n' && leadsToComment commentReach rest then
            passGap flow rest .between allowed next
          else passGap flow rest .blank (allowed || !flow) next
      | .between => passGap flow rest (if c == '#' then .comment else .between) allowed next
      | .blank =>
          if isBreak c then passGap flow rest .blank (allowed || !flow) next
          else if c == '#' then passGap flow rest .comment allowed next
          else if c == ' ' || (c == '\t' && (flow || !allowed)) || (c == byteOrderMark && here.column == 0)
          then passGap flow rest .blank allowed next
          else (allowed, here)

def longestBlank : Nat := 512

namespace Cursor

def skipLineComment (here : Cursor) : Cursor :=
  if here.fresh then here
  else
    let blanks := ((here.rest.take longestBlank).takeWhile isBlank).length
    if blanks < longestBlank && startsWith '#' (here.rest.drop blanks) then
      here.skipWhile fun c => !isBreak c
    else here

end Cursor

end OpcodeTable.Yaml
