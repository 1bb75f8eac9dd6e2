import OpcodeTable.Yaml.Node

/-!
Aliases are followed, so that a short document can stand for a very large value; decoding is given up when
nearly all of it happens through aliases.
-/

set_option autoImplicit false

namespace OpcodeTable.Yaml

structure Effort where
  nodes : Nat
  aliased : Nat

namespace Effort

def none : Effort := ⟨0, 0⟩

def lowRange : Nat := 400000

def highRange : Nat := 4000000

-- The share of aliased nodes, in parts of `100 * (highRange - lowRange)`, that is still fine: 99 in a
-- hundred for a small document, 10 for a large one, and in between the larger the fewer.
def allowance (nodes : Nat) : Nat :=
  let width := highRange - lowRange
  if nodes ≤ lowRange then 99 * width
  else if highRange ≤ nodes then 10 * width
  else 99 * width - 89 * (nodes - lowRange)

def isExcessive (effort : Effort) : Bool :=
  100 < effort.aliased && 1000 < effort.nodes
    && effort.nodes * allowance effort.nodes < effort.aliased * (100 * (highRange - lowRange))

end Effort

abbrev Decoder := StateT Effort Option

def refuse {α : Type} : Decoder α := fun _ => none

def lift {α : Type} (result : Option α) : Decoder α := fun effort => result.map (·, effort)

def spend (inside : Bool) : Decoder Unit := fun effort =>
  let spent : Effort := ⟨effort.nodes + 1, if inside then effort.aliased + 1 else effort.aliased⟩
  if spent.isExcessive then none else some ((), spent)

def nameOfKey (textOnly : Bool) (key : Node) : Option (Option String) :=
  match key.valueOfKey? with
  | none => none
  | some value => some (if textOnly then key.textOfKey? else some value.display)

def keysAreTexts (entries : Entries) : Bool := entries.all fun entry => entry.1.isTextKey

def enterValue (name : String) (value : Value) (entries : List (String × Value)) :
    List (String × Value) :=
  (name, value) :: if entries.any (fun entry => entry.1 == name)
    then entries.filter fun entry => entry.1 != name else entries

mutual
-- `inside` tells whether the node was reached through an alias.
def Node.value (inside : Bool) : Node → Decoder Value
  | .scalar tag text => do
      spend inside
      lift (scalarValue tag text)
  | .sequence items => do
      spend inside
      return .list (← valuesOf inside items [])
  | .mapping entries => do
      spend inside
      return .table (← tableOf inside (keysAreTexts entries) entries [])
  | .alias _ target => do
      spend inside
      target.value true
  | .invalid => refuse

def valuesOf (inside : Bool) : List Node → List Value → Decoder (List Value)
  | [], done => return done.reverse
  | item :: rest, done => do
      let value ← item.value inside
      valuesOf inside rest (value :: done)

def tableOf (inside textOnly : Bool) :
    Entries → List (String × Value) → Decoder (List (String × Value))
  | [], done => return done.reverse
  | (key, node) :: rest, done => do
      spend inside
      match ← lift (nameOfKey textOnly key) with
      | none => tableOf inside textOnly rest done
      | some name =>
          let value ← node.value inside
          tableOf inside textOnly rest (enterValue name value done)
end

def Node.table? (root : Node) : Option (List (String × Value)) :=
  match root with
  | .mapping entries => ((tableOf false true entries []).run .none).map Prod.fst
  | .scalar tag text =>
      match scalarValue tag text with
      | some .null => some []
      | _ => none
  | _ => none

end OpcodeTable.Yaml
