import OpcodeTable.Yaml.Node
import OpcodeTable.Yaml.Stream

/-!
What follows the first document is not looked at, but for the two tokens that are always made in advance.
-/

set_option autoImplicit false

namespace OpcodeTable.Yaml

structure State where
  stream : Stream
  limit : Nat
  -- Anchors, the last one first; one whose node is not read to its end has none yet, and an alias to
  -- it stands for nothing.
  anchors : List (String × Option Node)
  handles : List (String × String)

abbrev Reader := StateT State Option

def fail {α : Type} : Reader α := fun _ => none

def peek : Reader Token := fun state =>
  match state.stream.fill state.limit with
  | none => none
  | some stream =>
      match stream.queue with
      | [] => none
      | token :: _ => some (token, { state with stream := stream })

def take : Reader Unit := fun state =>
  let stream := state.stream
  some ((), { state with stream := { stream with queue := stream.queue.drop 1, taken := stream.taken + 1 } })

def next : Reader Token := do
  take
  peek

def enter (name : Option String) : Reader Nat := fun state =>
  match name with
  | none => some (0, state)
  | some name => some (state.anchors.length, { state with anchors := (name, none) :: state.anchors })

def tie (name : Option String) (before : Nat) (node : Node) : Reader Node := fun state =>
  match name with
  | none => some (node, state)
  | some name =>
      let position := state.anchors.length - before - 1
      some (node, { state with anchors := state.anchors.set position (name, some node) })

def aliased (name : String) : Reader Node := fun state =>
  match state.anchors.lookup name with
  | none => none
  | some none => some (.alias name .invalid, state)
  | some (some node) => some (.alias name node, state)

def defaultHandles : List (String × String) := [("!", "!"), ("!!", Tag.standard)]

def fullTag (handle suffix : String) : Reader String := do
  if handle.isEmpty then return suffix
  else
    match ((← get).handles ++ defaultHandles).lookup handle with
    | some expansion => return expansion ++ suffix
    | none => fail

structure Properties where
  anchor : Option String
  tag : Option String

def properties : Reader Properties := do
  match ← peek with
  | .anchor name =>
      match ← next with
      | .tag handle suffix =>
          take
          return ⟨some name, some (← fullTag handle suffix)⟩
      | _ => return ⟨some name, none⟩
  | .tag handle suffix =>
      match ← next with
      | .anchor name =>
          take
          return ⟨some name, some (← fullTag handle suffix)⟩
      | _ => return ⟨none, some (← fullTag handle suffix)⟩
  | _ => return ⟨none, none⟩

def readScalar (given : Properties) (text : String) (plain : Bool) : Reader Node := do
  let before ← enter given.anchor
  tie given.anchor before (.scalar (.ofScalar given.tag plain text) text)

def readEmpty (given : Properties) : Reader Node :=
  if given.anchor.isSome || given.tag.isSome then readScalar given "" true else fail

def endsBlockItem (token : Token) : Bool := token == .entry || token == .blockEnd

def endsBlockPart (token : Token) : Bool := token == .key || token == .value || token == .blockEnd

mutual
-- A node. Outside brackets it may be a block, and where `level` holds, a sequence in the column of
-- the mapping it belongs to.
def readNode : Nat → Bool → Bool → Reader Node
  | 0, _, _ => fail
  | fuel + 1, block, level => do
      match ← peek with
      | .alias name =>
          take
          aliased name
      | _ =>
          let given ← properties
          match ← peek with
          | .scalar text plain =>
              take
              readScalar given text plain
          | .openSequence =>
              take
              let before ← enter given.anchor
              tie given.anchor before (← readFlowItems fuel true [])
          | .openMapping =>
              take
              let before ← enter given.anchor
              tie given.anchor before (← readFlowEntries fuel true [])
          | .entry =>
              if level then do
                let before ← enter given.anchor
                tie given.anchor before (← readLevelItems fuel [])
              else readEmpty given
          | .blockSequence =>
              if block then do
                take
                let before ← enter given.anchor
                tie given.anchor before (← readBlockItems fuel [])
              else readEmpty given
          | .blockMapping =>
              if block then do
                take
                let before ← enter given.anchor
                tie given.anchor before (← readBlockEntries fuel [])
              else readEmpty given
          | _ => readEmpty given

def readBlockItems : Nat → List Node → Reader Node
  | 0, _ => fail
  | fuel + 1, items => do
      match ← peek with
      | .entry =>
          let item ← if endsBlockItem (← next) then pure Node.null else readNode fuel true false
          readBlockItems fuel (item :: items)
      | .blockEnd =>
          take
          return .sequence items.reverse
      | _ => fail

def readLevelItems : Nat → List Node → Reader Node
  | 0, _ => fail
  | fuel + 1, items => do
      match ← peek with
      | .entry =>
          let token ← next
          let item ← if token == .entry || endsBlockPart token then pure Node.null
            else readNode fuel true false
          readLevelItems fuel (item :: items)
      | _ => return .sequence items.reverse

def readBlockEntries : Nat → Entries → Reader Node
  | 0, _ => fail
  | fuel + 1, entries => do
      match ← peek with
      | .key =>
          let key ← if endsBlockPart (← next) then pure Node.null else readNode fuel true true
          let value ← match ← peek with
            | .value => if endsBlockPart (← next) then pure Node.null else readNode fuel true true
            | _ => pure Node.null
          readBlockEntries fuel ((key, value) :: entries)
      | .blockEnd =>
          take
          return .ofEntries entries.reverse
      | _ => fail

def readFlowItems : Nat → Bool → List Node → Reader Node
  | 0, _, _ => fail
  | fuel + 1, first, items => do
      let token ← peek
      if token == .closeSequence then
        take
        return .sequence items.reverse
      else if !first && token != .comma then fail
      else
        let token ← if first then pure token else next
        if token == .closeSequence then
          take
          return .sequence items.reverse
        else if token == .key then
          take
          let entry ← readPair fuel
          readFlowItems fuel false (.ofEntries [entry] :: items)
        else
          let item ← readNode fuel false false
          readFlowItems fuel false (item :: items)

def readPair : Nat → Reader (Node × Node)
  | 0 => fail
  | fuel + 1 => do
      let token ← peek
      let key ← if token == .value || token == .comma || token == .closeSequence then do
          take
          pure Node.null
        else readNode fuel false false
      match ← peek with
      | .value =>
          let token ← next
          let value ← if token == .comma || token == .closeSequence then pure Node.null
            else readNode fuel false false
          return (key, value)
      | _ => return (key, Node.null)

-- The entries of a mapping in braces. A key that is not marked as one has no value.
def readFlowEntries : Nat → Bool → Entries → Reader Node
  | 0, _, _ => fail
  | fuel + 1, first, entries => do
      let token ← peek
      if token == .closeMapping then
        take
        return .ofEntries entries.reverse
      else if !first && token != .comma then fail
      else
        let token ← if first then pure token else next
        if token == .closeMapping then
          take
          return .ofEntries entries.reverse
        else if token == .key then
          let entry ← readEntry fuel
          readFlowEntries fuel false (entry :: entries)
        else
          let key ← readNode fuel false false
          readFlowEntries fuel false ((key, Node.null) :: entries)

def readEntry : Nat → Reader (Node × Node)
  | 0 => fail
  | fuel + 1 => do
      let token ← next
      let ends (token : Token) : Bool := token == .comma || token == .closeMapping
      let key ← if token == .value || ends token then pure Node.null else readNode fuel false false
      match ← peek with
      | .value =>
          let value ← if ends (← next) then pure Node.null else readNode fuel false false
          return (key, value)
      | _ => return (key, Node.null)
end

def isDirective : Token → Bool
  | .version _ _ | .handle _ _ => true
  | _ => false

def readDirectives : Nat → Bool → Reader Unit
  | 0, _ => fail
  | fuel + 1, versioned => do
      match ← peek with
      | .version major minor =>
          if versioned || major != 1 || minor != 1 then fail
          else
            take
            readDirectives fuel true
      | .handle name expansion =>
          if (← get).handles.any fun known => known.1 == name then fail
          else
            modify fun state => { state with handles := (name, expansion) :: state.handles }
            take
            readDirectives fuel versioned
      | _ => return ()

def endsDocument (token : Token) : Bool :=
  isDirective token || token == .documentStart || token == .documentEnd || token == .textEnd

def readDocument (fuel : Nat) : Reader (Option Node) := do
  let token ← peek
  if token == .textEnd then return none
  else if isDirective token || token == .documentStart then
    readDirectives fuel false
    if (← peek) != .documentStart then fail
    else
      let root ← if endsDocument (← next) then pure Node.null else readNode fuel true false
      let _ ← peek
      return some root
  else
    let root ← readNode fuel true false
    let _ ← peek
    return some root

def Node.read (text : Bytes) : Option Node := do
  let chars ← characters? text
  let limit := 8 * chars.length + 64
  let (root, _) ← (readDocument limit).run ⟨.start chars, limit, [], []⟩
  return root.getD Node.null

end OpcodeTable.Yaml
