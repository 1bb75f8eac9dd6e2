import Mathlib.Data.List.DropRight
import OpcodeTable.Proofs.HighWaterMark

set_option autoImplicit false

namespace OpcodeTable.Source

def endsLine (byte : UInt8) : Bool := byte == Bytes.carriageReturn || byte == Bytes.newline

def ending (value : Bytes) : Bytes := value.rtakeWhile endsLine

def withoutTerminator (value : Bytes) : Bytes :=
  match value.reverse with
  | 0x0A :: 0x0D :: rest => rest.reverse
  | 0x0A :: rest => rest.reverse
  | _ => value

def terminators : List Bytes := [[], [Bytes.newline], [Bytes.carriageReturn, Bytes.newline]]

theorem without_pair (row : Bytes) : withoutTerminator (row ++ [Bytes.carriageReturn, Bytes.newline]) = row := by
  have reversed : (row ++ [Bytes.carriageReturn, Bytes.newline]).reverse = 0x0A :: 0x0D :: row.reverse := by
    rw [List.reverse_append]
    rfl
  simp only [withoutTerminator, reversed, List.reverse_reverse]

theorem without_newline (row : Bytes) (other : Bytes.carriageReturn ∉ row.getLast?) :
    withoutTerminator (row ++ [Bytes.newline]) = row := by
  have reversed : (row ++ [Bytes.newline]).reverse = 0x0A :: row.reverse := List.reverse_concat
  rw [List.getLast?_eq_head?_reverse] at other
  rw [withoutTerminator, reversed]
  split
  · rename_i rest shape
    rw [(List.cons.inj shape).2] at other
    exact absurd rfl other
  · rename_i shape
    rw [← (List.cons.inj shape).2, List.reverse_reverse]
  · rename_i shape
    exact absurd rfl (shape row.reverse)

theorem without_other (value : Bytes) (other : Bytes.newline ∉ value.getLast?) : withoutTerminator value = value := by
  rw [List.getLast?_eq_head?_reverse] at other
  rw [withoutTerminator]
  split
  · rename_i shape
    rw [shape] at other
    exact absurd rfl other
  · rename_i shape
    rw [shape] at other
    exact absurd rfl other
  · rfl

theorem without_behind (row run : Bytes) (stops : ∀ last ∈ row.getLast?, endsLine last = false) :
    withoutTerminator (row ++ run) = row ++ withoutTerminator run := by
  have apart (byte : UInt8) (terminates : endsLine byte = true) : byte ∉ row.getLast? := by
    intro last
    exact absurd terminates (by simp [stops byte last])
  rcases List.eq_nil_or_concat run with rfl | ⟨before, last, rfl⟩
  · rw [List.append_nil, without_other row (apart _ (by decide))]
    exact (List.append_nil row).symm
  · rw [List.concat_eq_append]
    by_cases newline : last = Bytes.newline
    · subst newline
      by_cases pair : Bytes.carriageReturn ∈ before.getLast?
      · obtain ⟨rest, rfl⟩ := List.getLast?_eq_some_iff.mp pair
        have whole : row ++ (rest ++ [Bytes.carriageReturn] ++ [Bytes.newline]) =
            (row ++ rest) ++ [Bytes.carriageReturn, Bytes.newline] := by simp
        rw [whole, without_pair, List.append_assoc, List.singleton_append, without_pair]
      · have single : Bytes.carriageReturn ∉ (row ++ before).getLast? := by
          cases before with
          | nil => simpa using apart _ (by decide)
          | cons first more => simpa [List.getLast?_append_of_ne_nil] using pair
        rw [← List.append_assoc, without_newline _ single, without_newline _ pair]
    · have kept (text : Bytes) : withoutTerminator (text ++ [last]) = text ++ [last] :=
        without_other _ (by simpa using newline)
      rw [← List.append_assoc, kept, kept, List.append_assoc]

theorem without_nil_iff (run : Bytes) : withoutTerminator run = [] ↔ run ∈ terminators := by
  constructor
  · intro blank
    rw [withoutTerminator] at blank
    split at blank
    · rename_i shape
      rw [List.reverse_eq_nil_iff] at blank
      rw [blank] at shape
      rw [List.reverse_eq_iff.mp shape]
      decide
    · rename_i shape
      rw [List.reverse_eq_nil_iff] at blank
      rw [blank] at shape
      rw [List.reverse_eq_iff.mp shape]
      decide
    · rw [blank]
      decide
  · have each : ∀ run ∈ terminators, withoutTerminator run = [] := by decide
    exact each run

structure Message.Divided (message : Message) : Prop where
  whole : message.row ++ ending message.value = message.value
  stops : ∀ last ∈ message.row.getLast?, endsLine last = false
  ends : ∀ byte ∈ ending message.value, endsLine byte = true

theorem Message.divided (message : Message) : message.Divided := by
  have row : message.row = message.value.rdropWhile endsLine := rfl
  refine ⟨?_, ?_, ?_⟩
  · rw [row, ending, List.rdropWhile_append_rtakeWhile]
  · intro last final
    rw [row] at final
    have present : message.value.rdropWhile endsLine ≠ [] := by
      intro blank
      rw [blank] at final
      cases final
    have stopped := List.rdropWhile_last_not endsLine message.value present
    rw [Option.mem_def, List.getLast?_eq_some_getLast present, Option.some.injEq] at final
    rw [← final]
    simpa using stopped
  · exact fun byte member => List.mem_rtakeWhile_imp member

theorem Message.row_lacks (message : Message) :
    withoutTerminator message.value = message.row ++ withoutTerminator (ending message.value) := by
  have divided := message.divided
  rw [← without_behind message.row _ divided.stops, divided.whole]

theorem Message.row_iff (message : Message) :
    message.row = withoutTerminator message.value ↔ ending message.value ∈ terminators := by
  rw [message.row_lacks, List.self_eq_append_right, without_nil_iff]

inductive Handed (receiver : Receiver) (intake : Intake) (handed : List Message) : Intake × Option Fault → Prop
  | taken (after : Intake) (fault : Option Fault)
      (rows : after.rows.reverse = intake.rows.reverse ++ handed.map Message.row) :
      Handed receiver intake handed (after, fault)
  | refused (after : Intake) (fault : Fault) (before : List Message) (last : Message)
      (split : handed = before ++ [last])
      (refusal : receiver (intake.count + handed.length) last.row = .refuse fault)
      (rows : after.rows.reverse = intake.rows.reverse ++ before.map Message.row) :
      Handed receiver intake handed (after, some fault)

theorem drain_handed (limit : Int) (receiver : Receiver) (id mark : Int) (events : List Event) (intake : Intake) :
    Handed receiver intake (handedFrom limit receiver mark events intake)
      (drainEvents limit receiver id mark events intake) := by
  induction events generalizing intake with
  | nil => exact .taken _ _ (by simp [handedFrom])
  | cons event rest ih =>
      rcases drain_cases limit receiver id mark event rest intake with
        ⟨_, drained, handed⟩ | ⟨_, drained, handed⟩ | ⟨message, fault, _, refusal, drained, handed⟩ |
        ⟨_, _, _, _, drained, handed⟩ | ⟨message, asker, _, _, drained, handed⟩
      · rw [drained, handed]
        exact .taken _ _ (by simp)
      · rw [drained, handed]
        exact ih intake
      · rw [drained, handed]
        exact .refused _ fault [] message rfl refusal (by simp)
      · rw [drained, handed]
        exact .taken _ _ (by simp [Intake.take])
      · rw [drained, handed]
        have later := ih (intake.take message.row asker)
        revert later
        generalize drainEvents limit receiver id mark rest (intake.take message.row asker) = result
        rintro (⟨after, fault, rows⟩ | ⟨after, fault, before, last, split, refusal, rows⟩)
        · exact .taken _ _ (by simp [rows, Intake.take])
        · refine .refused _ fault (message :: before) last (by rw [split]; rfl) ?_ (by simp [rows, Intake.take])
          rw [List.length_cons, Nat.add_comm _ 1, ← Nat.add_assoc]
          exact refusal

theorem drain_single (limit : Int) (receiver : Receiver) (partition : Partition) (intake : Intake)
    (opened : List Int) :
    let drained := drainAll limit receiver [partition] intake opened
    Handed receiver intake (partition.handed limit receiver intake) (drained.1, drained.2.2) := by
  dsimp only
  unfold Partition.handed
  cases known : partition.access with
  | error fault => exact .taken _ _ (by simp [drainAll, known])
  | ok access =>
      cases access with
      | skip => exact .taken _ _ (by simp [drainAll, known])
      | read mark =>
          rw [drain_partition limit receiver partition mark intake opened known]
          exact drain_handed limit receiver partition.id mark partition.events intake

theorem handed_at_once (limit : Int) (receiver : Receiver) (mark offset : Int) (value : Bytes) (rest : List Event)
    (intake : Intake) (live : intake.asker.gaveUp = false) (fits : isOverLimit limit (trimTerminator value) = false) :
    ⟨offset, value⟩ ∈ handedFrom limit receiver mark (.message offset value :: rest) intake := by
  simp [handedFrom, live, fits]

-- Whatever a partition delivers and however the receiver decides. The first part says that there is a row
-- to speak of; the others, what each row is and when all of them are what is promised.
theorem rows_less_terminator_iff (limit : Int) (receiver : Receiver) (partition : Partition) (intake : Intake)
    (opened : List Int) :
    let drained := drainAll limit receiver [partition] intake opened
    let handed := partition.handed limit receiver intake
    (∀ mark offset value rest, partition.access = .ok (.read mark) →
        partition.events = .message offset value :: rest → intake.asker.gaveUp = false →
        isOverLimit limit (trimTerminator value) = false → ⟨offset, value⟩ ∈ handed) ∧
      Handed receiver intake handed (drained.1, drained.2.2) ∧
      (∀ message ∈ handed, message.Divided ∧
        withoutTerminator message.value = message.row ++ withoutTerminator (ending message.value)) ∧
      (handed.map Message.row = handed.map (fun message => withoutTerminator message.value) ↔
        ∀ message ∈ handed, ending message.value ∈ terminators) := by
  intro drained handed
  refine ⟨?_, drain_single limit receiver partition intake opened,
    fun message _ => ⟨message.divided, message.row_lacks⟩, ?_⟩
  · intro mark offset value rest access events live fits
    have first := handed_at_once limit receiver mark offset value rest intake live fits
    rw [← events] at first
    simpa only [handed, Partition.handed, access] using first
  · rw [List.map_inj_left]
    exact forall₂_congr fun message _ => message.row_iff

def doubled : Partition := ⟨0, .ok 0, .ok 1, .ok (), [.message 0 (ascii "a\n\n")]⟩

theorem doubled_newline_lost :
    drainAll 64 Receiver.all [doubled] ⟨[], 0, false⟩ [] = (⟨[ascii "a"], 1, false⟩, [0], none) ∧
      doubled.handed 64 Receiver.all ⟨[], 0, false⟩ = [⟨0, ascii "a\n\n"⟩] ∧
      withoutTerminator (ascii "a\n\n") = ascii "a\n" := by
  exact ⟨rfl, rfl, rfl⟩

end OpcodeTable.Source
