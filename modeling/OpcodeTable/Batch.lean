import OpcodeTable.Row.Class
import OpcodeTable.Rule.Chain
import OpcodeTable.Fault
import OpcodeTable.Log.Entry

set_option autoImplicit false

namespace OpcodeTable

open Row (RowClass)

structure Tally where
  read : Nat
  written : Nat
  vector : Nat
  empty : Nat
  leadingChar : Nat
  rexMark : Nat
deriving DecidableEq, Repr

namespace Tally

def zero : Tally := ⟨0, 0, 0, 0, 0, 0⟩

def dropped (tally : Tally) : RowClass → Nat
  | .empty => tally.empty
  | .leadingChar => tally.leadingChar
  | .rexMark => tally.rexMark
  | .plain | .vector => 0

def droppedTotal (tally : Tally) : Nat := tally.empty + tally.leadingChar + tally.rexMark

def drop (tally : Tally) : RowClass → Tally
  | .empty => { tally with empty := tally.empty + 1 }
  | .leadingChar => { tally with leadingChar := tally.leadingChar + 1 }
  | .rexMark => { tally with rexMark := tally.rexMark + 1 }
  | .plain | .vector => tally

def reasons (tally : Tally) : List (RowClass × Nat) :=
  [(RowClass.empty, tally.empty), (.leadingChar, tally.leadingChar), (.rexMark, tally.rexMark)].filter
    fun reason => reason.2 != 0

end Tally

namespace Batch

structure Answer (σ : Type) where
  result : Except Fault Bytes
  state : σ
  logs : List Log.Entry

-- A batch under way; rows and log entries are held last first.
structure Progress (σ : Type) where
  rows : List Bytes
  tally : Tally
  state : σ
  logs : List Log.Entry

structure Result (σ : Type) where
  outcome : Except Fault (List Bytes)
  tally : Tally
  state : σ
  logs : List Log.Entry

variable {σ : Type}

def Progress.keep (progress : Progress σ) (row : Bytes) : Progress σ :=
  { progress with rows := row :: progress.rows }

def droppedEntry (line : Nat) (reason : RowClass) : Log.Entry :=
  ⟨.debug, "row dropped", [("line", .number line), ("reason", .text reason.name)]⟩

def Progress.drop (progress : Progress σ) (line : Nat) (reason : RowClass) : Progress σ :=
  { progress with
    tally := progress.tally.drop reason
    logs := droppedEntry line reason :: progress.logs }

def Progress.rewrote (progress : Progress σ) (text : Bytes) (answer : Answer σ) : Progress σ :=
  { rows := text :: progress.rows
    tally := { progress.tally with vector := progress.tally.vector + 1 }
    state := answer.state
    logs := answer.logs.reverseAux progress.logs }

def Progress.finish (progress : Progress σ) : Result σ :=
  { outcome := .ok progress.rows.reverse
    tally := { progress.tally with written := progress.rows.length }
    state := progress.state
    logs := progress.logs.reverse }

def Progress.fail (progress : Progress σ) (fault : Fault) : Result σ :=
  { outcome := .error fault
    tally := progress.tally
    state := progress.state
    logs := progress.logs.reverse }

def noRewriter (line : Nat) : Fault :=
  .plain ("line " ++ toString line ++ ": no vector rewriter configured")

def rewriteFailed (line : Nat) (fault : Fault) : Fault :=
  .context ("line " ++ toString line ++ ": vector rewrite: ") fault

def transformFrom (rewrite : Option (Bytes → σ → Answer σ)) :
    Nat → List Bytes → Progress σ → Result σ
  | _, [], progress => progress.finish
  | line, row :: rest, progress =>
      match Row.classify row with
      | .plain => transformFrom rewrite (line + 1) rest (progress.keep (Rule.normalize row))
      | .vector =>
          match rewrite with
          | none => progress.fail (noRewriter line)
          | some call =>
              let answer := call row progress.state
              match answer.result with
              | .ok text => transformFrom rewrite (line + 1) rest (progress.rewrote text answer)
              | .error fault =>
                  { progress with
                    state := answer.state
                    logs := answer.logs.reverseAux progress.logs : Progress σ }.fail
                      (rewriteFailed line fault)
      | reason => transformFrom rewrite (line + 1) rest (progress.drop line reason)

def transform (rewrite : Option (Bytes → σ → Answer σ)) (rows : List Bytes) (state : σ) : Result σ :=
  transformFrom rewrite 1 rows ⟨[], { Tally.zero with read := rows.length }, state, []⟩

end Batch

end OpcodeTable
