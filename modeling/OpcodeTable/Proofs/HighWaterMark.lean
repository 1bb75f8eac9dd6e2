import OpcodeTable.Source.Topic

/-!
Reading ends with the first message at or past the last offset below the mark, and that message is handed
over before it is looked at.
-/

set_option autoImplicit false

namespace OpcodeTable.Source

structure Message where
  offset : Int
  value : Bytes
deriving DecidableEq, Repr

def Message.row (message : Message) : Bytes := trimTerminator message.value

def Event.message? : Event → Option Message
  | .message offset value => some ⟨offset, value⟩
  | _ => none

def messages (events : List Event) : List Message := events.filterMap Event.message?

def Verdict.leaves (asker : Asker) : Verdict → Asker
  | .acceptAndCancel => asker.giveUp
  | .accept | .refuse _ => asker

def handedFrom (limit : Int) (receiver : Receiver) (mark : Int) : List Event → Intake → List Message
  | [], _ => []
  | event :: rest, intake =>
      if intake.asker.gaveUp then []
      else
        match event with
        | .cancelled | .failure _ | .closed => []
        | .quiet => handedFrom limit receiver mark rest intake
        | .message offset value =>
            let row := trimTerminator value
            if isOverLimit limit row then []
            else
              ⟨offset, value⟩ ::
                match receiver (intake.count + 1) row with
                | .refuse _ => []
                | verdict =>
                    if mark - 1 ≤ offset then []
                    else handedFrom limit receiver mark rest (intake.take row (verdict.leaves intake.asker))

def Partition.handed (limit : Int) (receiver : Receiver) (partition : Partition) (intake : Intake) :
    List Message :=
  match partition.access with
  | .ok (.read mark) => handedFrom limit receiver mark partition.events intake
  | _ => []

theorem drain_cases (limit : Int) (receiver : Receiver) (id mark : Int) (event : Event) (rest : List Event)
    (intake : Intake) :
    let drained := drainEvents limit receiver id mark (event :: rest) intake
    let handed := handedFrom limit receiver mark (event :: rest) intake
    (∃ fault, drained = (intake, some fault) ∧ handed = []) ∨
    (event.message? = none ∧ drained = drainEvents limit receiver id mark rest intake ∧
      handed = handedFrom limit receiver mark rest intake) ∨
    (∃ message fault, event.message? = some message ∧
      receiver (intake.count + 1) message.row = .refuse fault ∧ drained = (intake, some fault) ∧
      handed = [message]) ∨
    (∃ message asker, event.message? = some message ∧ mark - 1 ≤ message.offset ∧
      drained = (intake.take message.row asker, none) ∧ handed = [message]) ∨
    (∃ message asker, event.message? = some message ∧ message.offset < mark - 1 ∧
      drained = drainEvents limit receiver id mark rest (intake.take message.row asker) ∧
      handed = message :: handedFrom limit receiver mark rest (intake.take message.row asker)) := by
  dsimp only
  by_cases ended : intake.asker.gaveUp = true
  · refine Or.inl ⟨intake.asker.reason, ?_, ?_⟩
    · cases event <;> simp [drainEvents, ended]
    · cases event <;> simp [handedFrom, ended]
  cases event with
  | cancelled => exact Or.inl ⟨intake.asker.reason, by simp [drainEvents], by simp [handedFrom]⟩
  | failure fault =>
      exact Or.inl ⟨inPartition id fault, by simp [drainEvents, ended], by simp [handedFrom]⟩
  | closed => exact Or.inl ⟨closedEarly id mark, by simp [drainEvents, ended], by simp [handedFrom]⟩
  | quiet => exact Or.inr (Or.inl ⟨rfl, by simp [drainEvents, ended], by simp [handedFrom, ended]⟩)
  | message offset value =>
      by_cases long : isOverLimit limit (trimTerminator value) = true
      · exact Or.inl ⟨messageTooLong id offset, by simp [drainEvents, ended, long],
          by simp [handedFrom, long]⟩
      right
      right
      cases verdict : receiver (intake.count + 1) (trimTerminator value) with
      | refuse fault =>
          exact Or.inl ⟨⟨offset, value⟩, fault, rfl, verdict, by simp [drainEvents, ended, long, verdict],
            by simp [handedFrom, ended, long, verdict]⟩
      | accept | acceptAndCancel =>
          right
          by_cases reached : mark - 1 ≤ offset
          · refine Or.inl ⟨⟨offset, value⟩, (receiver (intake.count + 1) (trimTerminator value)).leaves intake.asker,
              rfl, reached, ?_, ?_⟩
            · simp [drainEvents, ended, long, verdict, reached, Message.row, Verdict.leaves]
            · simp [handedFrom, ended, long, verdict, reached]
          · refine Or.inr ⟨⟨offset, value⟩, (receiver (intake.count + 1) (trimTerminator value)).leaves intake.asker,
              rfl, Int.not_le.mp reached, ?_, ?_⟩
            · simp [drainEvents, ended, long, verdict, reached, Message.row, Verdict.leaves]
            · simp [handedFrom, ended, long, verdict, reached, Message.row, Verdict.leaves]

theorem messages_skip (event : Event) (rest : List Event) (absent : event.message? = none) :
    messages (event :: rest) = messages rest := by
  simp [messages, absent]

theorem messages_take (event : Event) (rest : List Event) (message : Message)
    (present : event.message? = some message) : messages (event :: rest) = message :: messages rest := by
  simp [messages, present]

theorem handed_first (limit : Int) (receiver : Receiver) (mark : Int) (events : List Event) (intake : Intake) :
    handedFrom limit receiver mark events intake <+: messages events := by
  induction events generalizing intake with
  | nil => exact List.prefix_refl _
  | cons event rest ih =>
      rcases drain_cases limit receiver 0 mark event rest intake with
        ⟨_, _, handed⟩ | ⟨absent, _, handed⟩ | ⟨message, _, present, _, _, handed⟩ |
        ⟨message, _, present, _, _, handed⟩ | ⟨message, asker, present, _, _, handed⟩
      · rw [handed]
        exact List.nil_prefix
      · rw [handed, messages_skip event rest absent]
        exact ih intake
      · rw [handed, messages_take event rest message present]
        exact ⟨messages rest, rfl⟩
      · rw [handed, messages_take event rest message present]
        exact ⟨messages rest, rfl⟩
      · rw [handed, messages_take event rest message present, List.cons_prefix_cons]
        exact ⟨rfl, ih _⟩

theorem handed_below (limit : Int) (receiver : Receiver) (mark : Int) (events : List Event) (intake : Intake) :
    ∀ message ∈ (handedFrom limit receiver mark events intake).dropLast, message.offset < mark - 1 := by
  induction events generalizing intake with
  | nil => simp [handedFrom]
  | cons event rest ih =>
      rcases drain_cases limit receiver 0 mark event rest intake with
        ⟨_, _, handed⟩ | ⟨_, _, handed⟩ | ⟨_, _, _, _, _, handed⟩ | ⟨_, _, _, _, _, handed⟩ |
        ⟨message, asker, _, below, _, handed⟩
      · simp [handed]
      · rw [handed]
        exact ih intake
      · simp [handed]
      · simp [handed]
      · rw [handed]
        intro found member
        cases more : handedFrom limit receiver mark rest (intake.take message.row asker) with
        | nil => simp [more] at member
        | cons first others =>
            rw [more, List.dropLast_cons_cons] at member
            rcases List.mem_cons.mp member with same | later
            · rw [same]
              exact below
            · rw [← more] at later
              exact ih _ found later

theorem drain_rows (limit : Int) (receiver : Receiver) (id mark : Int) (events : List Event) (intake : Intake) :
    let drained := drainEvents limit receiver id mark events intake
    let handed := handedFrom limit receiver mark events intake
    drained.1.rows.reverse = intake.rows.reverse ++ handed.map Message.row ∨
      (drained.2.isSome = true ∧ handed ≠ [] ∧
        drained.1.rows.reverse = intake.rows.reverse ++ handed.dropLast.map Message.row) := by
  induction events generalizing intake with
  | nil => simp [drainEvents, handedFrom]
  | cons event rest ih =>
      dsimp only at ih ⊢
      rcases drain_cases limit receiver id mark event rest intake with
        ⟨_, drained, handed⟩ | ⟨_, drained, handed⟩ | ⟨_, _, _, _, drained, handed⟩ |
        ⟨_, _, _, _, drained, handed⟩ | ⟨message, asker, _, _, drained, handed⟩
      · simp [drained, handed]
      · rw [drained, handed]
        exact ih intake
      · simp [drained, handed]
      · simp [drained, handed, Intake.take]
      · rw [drained, handed]
        have start : (intake.take message.row asker).rows.reverse = intake.rows.reverse ++ [message.row] := by
          simp [Intake.take]
        rcases ih (intake.take message.row asker) with all | ⟨failed, some, butLast⟩
        · left
          rw [all, start]
          simp
        · right
          refine ⟨failed, by simp, ?_⟩
          rw [butLast, start, List.dropLast_cons_of_ne_nil some]
          simp

theorem drain_finished (limit : Int) (receiver : Receiver) (id mark : Int) (events : List Event)
    (intake : Intake) (finished : (drainEvents limit receiver id mark events intake).2 = none) :
    ∃ before stop, handedFrom limit receiver mark events intake = before ++ [stop] ∧
      mark - 1 ≤ stop.offset := by
  induction events generalizing intake with
  | nil => cases finished
  | cons event rest ih =>
      rcases drain_cases limit receiver id mark event rest intake with
        ⟨_, drained, _⟩ | ⟨_, drained, handed⟩ | ⟨_, _, _, _, drained, _⟩ |
        ⟨stop, _, _, reached, _, handed⟩ | ⟨message, asker, _, _, drained, handed⟩
      · rw [drained] at finished
        cases finished
      · rw [drained] at finished
        rw [handed]
        exact ih intake finished
      · rw [drained] at finished
        cases finished
      · exact ⟨[], stop, handed, reached⟩
      · rw [drained] at finished
        obtain ⟨before, stop, same, reached⟩ := ih _ finished
        exact ⟨message :: before, stop, by rw [handed, same]; rfl, reached⟩

def Ordered (delivered : List Message) : Prop := delivered.Pairwise fun a b => a.offset < b.offset

def belowMark (mark : Int) (delivered : List Message) : List Message :=
  delivered.filter fun message => message.offset < mark

def MeetsMark (mark : Int) (delivered : List Message) : Prop :=
  ∃ message ∈ delivered, message.offset = mark - 1

section Stop

variable (mark : Int) (before after : List Message) (stop : Message)

theorem after_stop (ordered : Ordered (before ++ stop :: after)) (reached : mark - 1 ≤ stop.offset) :
    ∀ message ∈ after, mark ≤ message.offset := by
  intro message member
  have behind := (List.pairwise_append.mp ordered).2.1
  have less := (List.pairwise_cons.mp behind).1 message member
  omega

theorem meets_mark_iff (ordered : Ordered (before ++ stop :: after))
    (below : ∀ message ∈ before, message.offset < mark - 1) (reached : mark - 1 ≤ stop.offset) :
    MeetsMark mark (before ++ stop :: after) ↔ stop.offset < mark := by
  constructor
  · rintro ⟨message, member, exact⟩
    rcases List.mem_append.mp member with early | late
    · have less := below message early
      omega
    · rcases List.mem_cons.mp late with same | later
      · rw [← same]
        omega
      · have past := after_stop mark before after stop ordered reached message later
        omega
  · intro within
    exact ⟨stop, by simp, by omega⟩

theorem below_mark_stop (ordered : Ordered (before ++ stop :: after))
    (below : ∀ message ∈ before, message.offset < mark - 1) (reached : mark - 1 ≤ stop.offset) :
    belowMark mark (before ++ stop :: after) = before ++ if stop.offset < mark then [stop] else [] := by
  have first : before.filter (fun message => decide (message.offset < mark)) = before := by
    rw [List.filter_eq_self]
    intro message member
    have less := below message member
    simp only [decide_eq_true_eq]
    omega
  have last : after.filter (fun message => decide (message.offset < mark)) = [] := by
    rw [List.filter_eq_nil_iff]
    intro message member
    have past := after_stop mark before after stop ordered reached message member
    simp only [decide_eq_true_eq]
    omega
  rw [belowMark, List.filter_append, first, List.filter_cons, last]
  by_cases within : stop.offset < mark <;> simp [within]

end Stop

-- A row past the mark is handed over only where no message stands right below the mark, and it is the
-- only such row and the last one.
theorem handed_past (limit : Int) (receiver : Receiver) (mark : Int) (events : List Event) (intake : Intake)
    (ordered : Ordered (messages events)) (past : Message)
    (member : past ∈ handedFrom limit receiver mark events intake) (beyond : mark ≤ past.offset) :
    ¬ MeetsMark mark (messages events) ∧ ∃ before, handedFrom limit receiver mark events intake = before ++ [past] ∧
      ∀ message ∈ before, message.offset < mark := by
  obtain ⟨after, delivered⟩ := handed_first limit receiver mark events intake
  have below := handed_below limit receiver mark events intake
  have split := List.dropLast_concat_getLast (List.ne_nil_of_mem member)
  have last : (handedFrom limit receiver mark events intake).getLast (List.ne_nil_of_mem member) = past := by
    rw [← split] at member
    rcases List.mem_append.mp member with early | same
    · have less := below past early
      omega
    · exact (List.mem_singleton.mp same).symm
  rw [last] at split
  constructor
  · rw [← delivered, ← split, List.append_assoc] at ordered ⊢
    rw [List.singleton_append] at ordered ⊢
    rw [meets_mark_iff mark _ after past ordered below (by omega)]
    omega
  · refine ⟨_, split.symm, ?_⟩
    intro message early
    have less := below message early
    omega

theorem finished_rows (limit : Int) (receiver : Receiver) (id mark : Int) (events : List Event)
    (intake : Intake) (ordered : Ordered (messages events))
    (finished : (drainEvents limit receiver id mark events intake).2 = none) :
    ∃ stop ∈ handedFrom limit receiver mark events intake, mark - 1 ≤ stop.offset ∧
      (MeetsMark mark (messages events) ↔ stop.offset < mark) ∧
      (drainEvents limit receiver id mark events intake).1.rows.reverse = intake.rows.reverse ++
        ((belowMark mark (messages events)).map Message.row ++
          if stop.offset < mark then [] else [stop.row]) := by
  obtain ⟨before, stop, handed, reached⟩ := drain_finished limit receiver id mark events intake finished
  obtain ⟨after, delivered⟩ := handed_first limit receiver mark events intake
  have below := handed_below limit receiver mark events intake
  rw [handed, List.dropLast_concat] at below
  rw [handed, List.append_assoc] at delivered
  rw [← delivered] at ordered ⊢
  refine ⟨stop, by simp [handed], reached, meets_mark_iff mark before after stop ordered below reached, ?_⟩
  rcases drain_rows limit receiver id mark events intake with all | ⟨failed, _⟩
  · rw [all, handed]
    simp only [List.singleton_append]
    rw [below_mark_stop mark before after stop ordered below reached]
    by_cases within : stop.offset < mark <;> simp [within]
  · rw [finished] at failed
    cases failed

theorem partition_access (partition : Partition) (oldest mark : Int) (oldestSeen : partition.oldest = .ok oldest)
    (newestSeen : partition.newest = .ok mark) (filled : oldest < mark) :
    (∃ fault, partition.access = .error fault) ∨ partition.access = .ok (.read mark) := by
  have rows : ¬ mark ≤ oldest := by omega
  simp only [Partition.access, oldestSeen, newestSeen, if_neg rows]
  cases partition.consume with
  | error fault => exact Or.inl ⟨_, rfl⟩
  | ok _ => exact Or.inr rfl

theorem drain_partition (limit : Int) (receiver : Receiver) (partition : Partition) (mark : Int)
    (intake : Intake) (opened : List Int) (access : partition.access = .ok (.read mark)) :
    drainAll limit receiver [partition] intake opened =
      ((drainEvents limit receiver partition.id mark partition.events intake).1, opened ++ [partition.id],
        (drainEvents limit receiver partition.id mark partition.events intake).2) := by
  simp only [drainAll, access]
  cases drained : drainEvents limit receiver partition.id mark partition.events intake with
  | mk after ended => cases ended <;> rfl

theorem partition_stops_at_mark_iff (limit : Int) (receiver : Receiver) (partition : Partition)
    (oldest mark : Int) (intake : Intake) (opened : List Int) (oldestSeen : partition.oldest = .ok oldest)
    (newestSeen : partition.newest = .ok mark) (filled : oldest < mark)
    (ordered : Ordered (messages partition.events)) :
    let drained := drainAll limit receiver [partition] intake opened
    let delivered := messages partition.events
    let handed := partition.handed limit receiver intake
    let wanted := intake.rows.reverse ++ (belowMark mark delivered).map Message.row
    handed <+: delivered ∧
      (drained.1.rows.reverse = intake.rows.reverse ++ handed.map Message.row ∨
        (drained.2.2.isSome = true ∧ handed ≠ [] ∧
          drained.1.rows.reverse = intake.rows.reverse ++ handed.dropLast.map Message.row)) ∧
      (∀ past ∈ handed, mark ≤ past.offset → ¬ MeetsMark mark delivered ∧
        ∃ before, handed = before ++ [past] ∧ ∀ message ∈ before, message.offset < mark) ∧
      (drained.2.2 = none →
        (drained.1.rows.reverse = wanted ↔ MeetsMark mark delivered) ∧
          (¬ MeetsMark mark delivered → ∃ past ∈ handed, mark ≤ past.offset ∧
            drained.1.rows.reverse = wanted ++ [past.row])) := by
  dsimp only
  rcases partition_access partition oldest mark oldestSeen newestSeen filled with ⟨fault, failed⟩ | access
  · simp [Partition.handed, drainAll, failed]
  · rw [drain_partition limit receiver partition mark intake opened access]
    simp only [Partition.handed, access]
    refine ⟨handed_first limit receiver mark partition.events intake,
      drain_rows limit receiver partition.id mark partition.events intake,
      handed_past limit receiver mark partition.events intake ordered, ?_⟩
    intro finished
    obtain ⟨stop, handed, reached, meets, rows⟩ :=
      finished_rows limit receiver partition.id mark partition.events intake ordered finished
    rw [meets, rows]
    by_cases within : stop.offset < mark
    · simp [within]
    · refine ⟨by simp [within], fun _ => ⟨stop, handed, by omega, by simp [within]⟩⟩

-- Offsets 1, 2 and 5 are gone, and the last one below the mark is there.
def sparse : Partition :=
  ⟨3, .ok 0, .ok 5, .ok (), [.message 0 (ascii "a\r\n"), .quiet, .message 3 (ascii "b"),
    .message 4 (ascii "c\n"), .message 6 (ascii "d")]⟩

theorem sparse_stops_at_mark :
    sparse.oldest = .ok 0 ∧ sparse.newest = .ok 5 ∧ Ordered (messages sparse.events) ∧
      MeetsMark 5 (messages sparse.events) ∧
      (drainAll 64 Receiver.all [sparse] ⟨[], 0, false⟩ []).1.rows.reverse =
        [] ++ (belowMark 5 (messages sparse.events)).map Message.row := by
  have ordered : Ordered (messages sparse.events) := by
    unfold Ordered
    decide
  have meets : MeetsMark 5 (messages sparse.events) := ⟨⟨4, ascii "c\n"⟩, by decide, by decide⟩
  have account := partition_stops_at_mark_iff 64 Receiver.all sparse 0 5 ⟨[], 0, false⟩ [] rfl rfl (by decide)
    ordered
  exact ⟨rfl, rfl, ordered, meets, (account.2.2.2 rfl).1.mpr meets⟩

-- Offsets 1 to 8 are gone: the row at 9 is taken although the mark is 5.
def compacted : Partition :=
  ⟨0, .ok 0, .ok 5, .ok (), [.message 0 (ascii "a"), .message 9 (ascii "b"), .message 10 (ascii "c")]⟩

theorem compacted_read_past_mark :
    drainAll 64 Receiver.all [compacted] ⟨[], 0, false⟩ [] = (⟨[ascii "b", ascii "a"], 2, false⟩, [0], none) ∧
      compacted.handed 64 Receiver.all ⟨[], 0, false⟩ = [⟨0, ascii "a"⟩, ⟨9, ascii "b"⟩] ∧
      (belowMark 5 (messages compacted.events)).map Message.row = [ascii "a"] := by
  exact ⟨rfl, rfl, rfl⟩

end OpcodeTable.Source
