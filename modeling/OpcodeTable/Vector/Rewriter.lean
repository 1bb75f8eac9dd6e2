import OpcodeTable.Bytes
import OpcodeTable.Asker
import OpcodeTable.Log.Entry

/-!
A rewriter is known by its replies; a session is what the caller and the rewriter share while rows are
rewritten.
-/

set_option autoImplicit false

namespace OpcodeTable.Vector

-- Times are in nanoseconds from the start of the session.
structure Session where
  now : Nat
  endsAt : Option Nat
  calls : List Bytes
  -- Whether the caller's own time is over when it gives up; otherwise it has been cancelled.
  expires : Bool
deriving DecidableEq, Repr

namespace Session

def start : Session := ⟨0, none, [], false⟩

def startWithin (time : Nat) : Session := ⟨0, some time, [], true⟩

def reason (session : Session) : Fault := if session.expires then .deadlineExceeded else .canceled

def isOver (session : Session) : Bool := session.endsAt.any fun moment => moment ≤ session.now

def asker (session : Session) : Asker := ⟨session.isOver, session.reason⟩

def endAt (session : Session) (moment : Nat) : Session :=
  { session with
    endsAt := some (session.endsAt.elim moment fun earlier => min earlier moment)
    expires := session.expires && session.endsAt.any fun earlier => earlier ≤ moment }

def cancel (session : Session) : Session := session.endAt session.now

def record (session : Session) (row : Bytes) : Session :=
  { session with calls := session.calls ++ [row] }

-- Lets time pass until `moment`, or until the caller gives up if that is sooner.
def waitUntil (session : Session) (moment : Nat) : Except Fault Unit × Session :=
  match session.endsAt with
  | some ending =>
      if ending ≤ max session.now moment then
        (.error session.reason, { session with now := max session.now ending })
      else (.ok (), { session with now := max session.now moment })
  | none => (.ok (), { session with now := max session.now moment })

end Session

inductive Reply where
  | row (text : Bytes)
  | refuse (fault : Fault)
  | hang
  | abandon (delay : Nat) (fault : Fault)

-- A rewriter replies to its `n`-th call, counted from 0 over its lifetime, by the row it gets.
structure Rewriter where
  reply : Nat → Bytes → Reply

-- One call. `limit` is the moment at which the call itself times out. A call that nothing ends can
-- only be ended by the caller.
def Rewriter.call (rewriter : Rewriter) (limit : Option Nat) (row : Bytes) (session : Session) :
    Except Fault Bytes × Session :=
  let called := session.record row
  match rewriter.reply session.calls.length row with
  | .row text => (.ok text, called)
  | .refuse fault => (.error fault, called)
  | .abandon delay fault => (.error fault, called.endAt (called.now + delay))
  | .hang =>
      match limit with
      | none => (.error called.reason, { called with now := max called.now (called.endsAt.getD called.now) })
      | some moment =>
          match called.waitUntil moment with
          | (.error fault, later) => (.error fault, later)
          | (.ok (), later) => (.error .deadlineExceeded, later)

inductive Act where
  | echo
  | surround (before after : Bytes)
  | always (text : Bytes)
  | fail (fault : Fault)
  | hang
  | cancel (delay : Nat) (message : String)

def Act.reply (row : Bytes) : Act → Reply
  | .echo => .row row
  | .surround before after => .row (before ++ row ++ after)
  | .always text => .row text
  | .fail fault => .refuse fault
  | .hang => .hang
  | .cancel delay message => .abandon delay (.plain message)

def Rewriter.scripted (script : List Act) : Rewriter :=
  ⟨fun call row => (script.getD (min call (script.length - 1)) .echo).reply row⟩

end OpcodeTable.Vector
