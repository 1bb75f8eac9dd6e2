import OpcodeTable.Proofs.BufferedOutput

set_option autoImplicit false

namespace OpcodeTable.Sink

inductive Operation where
  | configure (counter : Bool)
  | misfit (type : String)
  | push (record : Record)
  | close

namespace Operation

def text (counter : Bool) : Operation → Bytes
  | .push record => rendered counter record
  | .configure _ | .misfit _ | .close => []

def counting (counter : Bool) : Operation → Bool
  | .configure chosen => chosen
  | .misfit _ | .push _ | .close => counter

def Writes : Operation → Prop
  | .push _ | .close => True
  | .configure _ | .misfit _ => False

def printed : Bool → List Operation → Bytes
  | _, [] => []
  | counter, operation :: rest => operation.text counter ++ printed (operation.counting counter) rest

end Operation

open Operation (printed)

namespace Console

def perform (console : Console) : Operation → Option Fault × Console
  | .configure counter => (none, console.configure counter)
  | .misfit type => (some (unsuitable type), console)
  | .push record => console.push record
  | .close => console.close

def performAll (console : Console) (operations : List Operation) : Console :=
  operations.foldl (fun console operation => (console.perform operation).2) console

theorem perform_counter (console : Console) (operation : Operation) :
    (console.perform operation).2.counter = operation.counting console.counter := by
  cases operation with
  | configure counter => rfl
  | misfit type => rfl
  | push record => rfl
  | close => rfl

theorem perform_extends (console : Console) (operation : Operation) :
    Writer.Extends console.writer (console.perform operation).2.writer (operation.text console.counter) := by
  cases operation with
  | configure counter => exact .refl _
  | misfit type => exact .refl _
  | push record => exact console.push_extends record
  | close => exact console.close_extends

theorem perform_reply (console : Console) (operation : Operation) (writes : operation.Writes) :
    (console.perform operation).1 = (console.perform operation).2.writer.fault := by
  cases operation with
  | configure counter => exact False.elim writes
  | misfit type => exact False.elim writes
  | push record => rfl
  | close => rfl

theorem perform_all_concat (console : Console) (operations : List Operation) (operation : Operation) :
    console.performAll (operations ++ [operation]) = ((console.performAll operations).perform operation).2 := by
  rw [performAll, List.foldl_append]
  rfl

theorem perform_all_extends (console : Console) (operations : List Operation) :
    Writer.Extends console.writer (console.performAll operations).writer (printed console.counter operations) := by
  induction operations generalizing console with
  | nil => exact .refl _
  | cons operation rest ih =>
      have first := console.perform_extends operation
      have later := ih (console.perform operation).2
      rw [perform_counter] at later
      exact first.trans later

theorem perform_all_carries (device : Device) (operations : List Operation) :
    ((onto device).performAll operations).writer.Carries (device.written ++ printed false operations) :=
  ((onto device).perform_all_extends operations).carries _ (Writer.onto_carries device)

theorem close_written (device : Device) (operations : List Operation)
    (closed : ((onto device).performAll operations).close.1 = none) :
    ((onto device).performAll operations).close.2.written = device.written ++ printed false operations :=
  Writer.flush_written _ _ (perform_all_carries device operations) closed

end Console

end OpcodeTable.Sink
