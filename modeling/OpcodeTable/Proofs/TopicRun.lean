import OpcodeTable.Proofs.FirstFailure
import OpcodeTable.Proofs.HighWaterMark

/-!
All that a run would do if nothing went wrong is laid out as one course; a run goes along it up to the
first step that fails.
-/

set_option autoImplicit false

namespace OpcodeTable.Source

inductive Step where
  | query (id : Int) (answer : Except Fault Int)
  | enter (id : Int) (answer : Except Fault Unit)
  | receive (id mark : Int) (event : Event)
  -- No event is left, and the wait for one ends only when the asker gives up.
  | starve

def Event.reaches (mark : Int) : Event → Bool
  | .message offset _ => mark - 1 ≤ offset
  | .failure _ | .quiet | .closed | .cancelled => false

def awaited (id mark : Int) : List Event → List Step
  | [] => [.starve]
  | event :: rest => .receive id mark event :: if event.reaches mark then [] else awaited id mark rest

def Partition.mark (partition : Partition) : Option Int :=
  match partition.oldest, partition.newest with
  | .ok oldest, .ok newest => if newest ≤ oldest then none else some newest
  | _, _ => none

def Partition.course (partition : Partition) : List Step :=
  .query partition.id partition.oldest :: .query partition.id partition.newest ::
    match partition.mark with
    | none => []
    | some mark => .enter partition.id partition.consume :: awaited partition.id mark partition.events

def Verdict.refusal : Verdict → Option Fault
  | .refuse fault => some fault
  | .accept | .acceptAndCancel => none

def Event.fault (limit : Int) (receiver : Receiver) (asker : Asker) (taken : Nat) (id mark : Int) :
    Event → Option Fault
  | .cancelled => some asker.reason
  | .failure fault => some (inPartition id fault)
  | .quiet => none
  | .closed => some (closedEarly id mark)
  | .message offset value =>
      if isOverLimit limit (trimTerminator value) then some (messageTooLong id offset)
      else (receiver (taken + 1) (trimTerminator value)).refusal

def refusal {α : Type} (id : Int) : Except Fault α → Option Fault
  | .error fault => some (inPartition id fault)
  | .ok _ => none

namespace Step

def fault (limit : Int) (receiver : Receiver) (asker : Asker) (taken : Nat) : Step → Option Fault
  | .query id answer => refusal id answer
  | .enter id answer => refusal id answer
  | .receive id mark event =>
      if asker.gaveUp then some asker.reason else event.fault limit receiver asker taken id mark
  | .starve => some asker.reason

def row : Step → Option Bytes
  | .receive _ _ (.message _ value) => some (trimTerminator value)
  | .receive _ _ _ | .query _ _ | .enter _ _ | .starve => none

def entered : Step → Option Int
  | .enter id _ => some id
  | .query _ _ | .receive _ _ _ | .starve => none

def act (limit : Int) (receiver : Receiver) (step : Step) (state : Intake × List Int) :
    Option Fault × Intake × List Int :=
  match step.fault limit receiver state.1.asker state.1.count with
  | some fault => (some fault, state)
  | none =>
      match step with
      | .enter id _ => (none, state.1, state.2 ++ [id])
      | .receive _ _ (.message _ value) =>
          (none, state.1.take (trimTerminator value)
            ((receiver (state.1.count + 1) (trimTerminator value)).leaves state.1.asker), state.2)
      | .receive _ _ _ | .query _ _ | .starve => (none, state)

end Step

def rowsOf (steps : List Step) : List Bytes := steps.filterMap Step.row

def enteredIn (steps : List Step) : List Int := steps.filterMap Step.entered

def askerAfter (receiver : Receiver) (asker : Asker) (rows : List Bytes) : Asker :=
  rows.zipIdx.foldl (fun asker (row, index) => (receiver (index + 1) row).leaves asker) asker

section Course

variable (limit : Int) (receiver : Receiver) (asker : Asker)

def faultAfter (before : List Step) (step : Step) : Option Fault :=
  step.fault limit receiver (askerAfter receiver asker (rowsOf before)) (rowsOf before).length

def Passes (before : List Step) : List Step → Prop
  | [] => True
  | step :: rest => faultAfter limit receiver asker before step = none ∧ Passes (before ++ [step]) rest

def stateAfter (steps : List Step) : Intake × List Int :=
  (⟨(rowsOf steps).reverse, (rowsOf steps).length, askerAfter receiver asker (rowsOf steps)⟩, enteredIn steps)

end Course

def upToMark (mark : Int) (delivered : List Message) : List Message :=
  (delivered.takeWhile fun message => message.offset < mark - 1) ++
    (delivered.dropWhile fun message => message.offset < mark - 1).take 1

def Partition.wanted (partition : Partition) : List Bytes :=
  match partition.mark with
  | none => []
  | some mark => (upToMark mark (messages partition.events)).map Message.row

def Event.isQuiet : Event → Bool
  | .quiet => true
  | .message _ _ | .failure _ | .closed | .cancelled => false

def Partition.hushed (partition : Partition) : Partition :=
  { partition with events := partition.events.filter fun event => !event.isQuiet }

def Feed.hushed (feed : Feed) : Feed :=
  { feed with partitions := feed.partitions.map (List.map Partition.hushed) }

namespace Topic

def hushed (source : Topic) : Topic := { source with feed := source.feed.map Feed.hushed }

section Listed

variable (source : Topic) (asker : Asker) (receiver : Receiver) (partitions : List Partition)

end Listed

end Topic

end OpcodeTable.Source
