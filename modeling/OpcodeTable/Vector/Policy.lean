import OpcodeTable.Vector.Rewriter
import OpcodeTable.Word

set_option autoImplicit false

namespace OpcodeTable.Vector

abbrev Caller := Option Nat → Bytes → Session → Except Fault Bytes × Session

-- Durations are in nanoseconds; `attempts` counts the calls after the first.
structure Policy where
  timeout : Int
  attempts : Int
  backoff : Int
deriving DecidableEq, Repr

structure Rewritten where
  result : Except Fault Bytes
  session : Session
  logs : List Log.Entry

namespace Policy

def none : Policy := ⟨0, 0, 0⟩

def nanoseconds (milliseconds : Int) : Int := Word.wrap 64 (milliseconds * 1000000)

def ofMillis (timeout attempts backoff : Int) : Policy :=
  ⟨nanoseconds timeout, attempts, nanoseconds backoff⟩

def wraps (policy : Policy) : Bool := !(policy.timeout ≤ 0 && policy.attempts ≤ 0)

def limit (policy : Policy) (session : Session) : Option Nat :=
  if 0 < policy.timeout then some (session.now + policy.timeout.toNat) else Option.none

def call (policy : Policy) (next : Caller) (row : Bytes) (session : Session) :
    Except Fault Bytes × Session :=
  next (policy.limit session) row session

def isFinal (fault : Fault) (session : Session) : Bool :=
  fault.statusOf == some .invalidArgument || session.isOver

def retryEntry (attempt : Nat) (fault : Fault) : Log.Entry :=
  ⟨.warn, "vector: retrying rewrite", [("attempt", .number attempt), ("err", .text fault.message)]⟩

def retry (policy : Policy) (next : Caller) (row : Bytes) :
    Nat → Nat → Fault → Session → List Log.Entry → Rewritten
  | 0, _, fault, session, logs => ⟨.error fault, session, logs.reverse⟩
  | left + 1, attempt, fault, session, logs =>
      if isFinal fault session then ⟨.error fault, session, logs.reverse⟩
      else
        let logs := retryEntry attempt fault :: logs
        match session.waitUntil (session.now + policy.backoff.toNat) with
        | (.error ended, later) => ⟨.error ended, later, logs.reverse⟩
        | (.ok (), later) =>
            match policy.call next row later with
            | (.ok text, after) => ⟨.ok text, after, logs.reverse⟩
            | (.error again, after) => policy.retry next row left (attempt + 1) again after logs

-- A negative number of attempts leaves no call at all, and the row comes back empty.
def rewrite (policy : Policy) (next : Caller) (row : Bytes) (session : Session) : Rewritten :=
  if !policy.wraps then
    let (result, after) := next Option.none row session
    ⟨result, after, []⟩
  else if policy.attempts < 0 then ⟨.ok [], session, []⟩
  else
    match policy.call next row session with
    | (.ok text, after) => ⟨.ok text, after, []⟩
    | (.error fault, after) => policy.retry next row policy.attempts.toNat 1 fault after []

end Policy

end OpcodeTable.Vector
