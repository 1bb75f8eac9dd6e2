import OpcodeTable.Utf8
import OpcodeTable.Yaml.Value

/-!
Entries of a mapping keep the order in which they are written, and an alias holds what it refers to. A
mapping also has the entries of those it merges, behind its own.
-/

set_option autoImplicit false

namespace OpcodeTable.Yaml

inductive Tag where
  | implicit
  | null
  | flag
  | whole
  | real
  | time
  | text
  | merge
  | binary
  | other
deriving DecidableEq, Repr

inductive Node where
  | scalar (tag : Tag) (text : String)
  | sequence (items : List Node)
  | mapping (entries : List (Node × Node))
  | alias (name : String) (target : Node)
  -- Something that is well written but stands for nothing; it does no harm where nobody asks for it.
  | invalid

abbrev Entries := List (Node × Node)

namespace Tag

def standard : String := "tag:yaml.org,2002:"

def mergeText : String := "<<"

def kinds : List (String × Tag) :=
  [("null", .null), ("bool", .flag), ("int", .whole), ("float", .real), ("timestamp", .time),
    ("str", .text), ("merge", .merge), ("binary", .binary)]

def ofScalar (given : Option String) (plain : Bool) (text : String) : Tag :=
  match given with
  | none | some "!" =>
      if !plain then .text else if text == mergeText then .merge else .implicit
  | some name =>
      let short := if name.startsWith standard then (name.drop standard.length).toString
        else if name.startsWith "!!" then (name.drop 2).toString
        else ""
      (kinds.lookup short).getD .other

end Tag

def base64Value? (c : Char) : Option Nat :=
  if 'A' ≤ c ∧ c ≤ 'Z' then some (c.toNat - 65)
  else if 'a' ≤ c ∧ c ≤ 'z' then some (c.toNat - 71)
  else if '0' ≤ c ∧ c ≤ '9' then some (c.toNat + 4)
  else if c == '+' then some 62
  else if c == '/' then some 63
  else none

def base64From : List Char → Bytes → Option Bytes
  | [], done => some done.reverse
  | [a, b, '=', '='], done =>
      match base64Value? a, base64Value? b with
      | some a, some b => some ((a * 4 + b / 16).toUInt8 :: done).reverse
      | _, _ => none
  | [a, b, c, '='], done =>
      match base64Value? a, base64Value? b, base64Value? c with
      | some a, some b, some c =>
          some ((b % 16 * 16 + c / 4).toUInt8 :: (a * 4 + b / 16).toUInt8 :: done).reverse
      | _, _, _ => none
  | a :: b :: c :: d :: rest, done =>
      match base64Value? a, base64Value? b, base64Value? c, base64Value? d with
      | some a, some b, some c, some d =>
          base64From rest ((c % 4 * 64 + d).toUInt8 :: (b % 16 * 16 + c / 4).toUInt8
            :: (a * 4 + b / 16).toUInt8 :: done)
      | _, _, _, _ => none
  | _, _ => none

def base64? (text : String) : Option String :=
  (base64From (text.toList.filter fun c => c != '\n' && c != '\r') []).map Utf8.toText

def asReal? : Value → Option Value
  | .real number => some (.real number)
  | .whole number => if Word.fits 64 number then some (.real (.ofInt number)) else none
  | _ => none

def scalarValue (tag : Tag) (text : String) : Option Value :=
  match tag, Scalar.resolve (tag == .implicit || tag == .time) text with
  | .implicit, value => some value
  | .text, _ | .merge, _ | .other, _ => some (.text text)
  | .binary, _ => (base64? text).map .text
  | .null, .null => some .null
  | .flag, .flag value => some (.flag value)
  | .whole, .whole number => some (.whole number)
  | .real, value => asReal? value
  | .time, .time moment => some (.time moment)
  | _, _ => none

namespace Node

def null : Node := .scalar .implicit ""

def target : Node → Node
  | .alias _ target => target.target
  | node => node

def isMerge : Node → Bool
  | .scalar tag text => tag == .merge && text == Tag.mergeText
  | _ => false

-- Two keys of one spelling are not allowed in a mapping, whatever they stand for.
def sameSpelling : Node → Node → Bool
  | .scalar _ first, .scalar _ second => first == second
  | .alias first _, .alias second _ => first == second
  | .sequence _, .sequence _ | .mapping _, .mapping _ => true
  | _, _ => false

def valueOfKey? (key : Node) : Option Value :=
  match key.target with
  | .scalar tag text => scalarValue tag text
  | _ => none

def isText : Value → Bool
  | .text _ => true
  | _ => false

def isTextKey (key : Node) : Bool :=
  match key.target with
  | .scalar tag _ => tag != .binary && tag != .other && (valueOfKey? key).any isText
  | _ => false

def sameKey (first second : Node) : Bool :=
  match valueOfKey? first, valueOfKey? second with
  | some first, some second => first.display == second.display && isText first == isText second
  | _, _ => false

-- The text of a key where only texts can be keys: a key that stands for nothing has none.
def textOfKey? (key : Node) : Option String :=
  match key.target, valueOfKey? key with
  | _, some .null => none
  | .scalar .binary _, some (.text decoded) => some decoded
  | .scalar _ text, _ => some text
  | _, _ => none

end Node

def distinct : Entries → Bool
  | [] => true
  | (key, _) :: rest => (rest.all fun entry => !key.sameSpelling entry.1) && distinct rest

def absorb (entries : Entries) : Entries → Entries
  | [] => entries
  | (key, value) :: rest =>
      if entries.any fun known => known.1.sameKey key then absorb entries rest
      else absorb (entries ++ [(key, value)]) rest

def withTextKeys (entries : Entries) : Entries :=
  entries.filterMap fun (key, value) =>
    match key.target with
    | .scalar _ _ => key.textOfKey?.map fun text => (.scalar .text text, value)
    | _ => some (key, value)

def mergedEntries (textOnly : Bool) : Node → Option (List Entries)
  | .mapping entries | .alias _ (.mapping entries) => some [if textOnly then withTextKeys entries else entries]
  | .sequence items => items.mapM fun item =>
      match item with
      | .mapping entries | .alias _ (.mapping entries) =>
          some (if textOnly then withTextKeys entries else entries)
      | _ => none
  | _ => none

-- A mapping as it is written. Its own entries go before those it merges, and of these the first.
def Node.ofEntries (entries : Entries) : Node :=
  if !distinct entries then .invalid
  else
    match entries.find? fun entry => entry.1.isMerge with
    | none => .mapping entries
    | some (_, source) =>
        let own := entries.filter fun entry => !entry.1.isMerge
        match mergedEntries (own.all fun entry => entry.1.isTextKey) source with
        | none => .invalid
        | some merged => .mapping (merged.foldl absorb own)

end OpcodeTable.Yaml
