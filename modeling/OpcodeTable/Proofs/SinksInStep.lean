import OpcodeTable.Proofs.FirstFailure
import OpcodeTable.Proofs.StandardPipeline

/-!
All pushes that a batch calls for are laid out in one schedule, record by record and sink by sink; a
delivery makes them in this order up to the first that is refused.
-/

set_option autoImplicit false

namespace OpcodeTable.Pipeline

open Sink (Record)

variable {σ δ : Type}

structure Push where
  place : Nat
  record : Record

def round (sinks : Nat) (record : Record) : List Push := (List.range sinks).map fun place => ⟨place, record⟩

def schedule (sinks : Nat) (records : List Record) : List Push := records.flatMap (round sinks)

def pushAt (behaviour : Behaviour σ δ) (push : Push) (standing : List (Slot σ) × δ) :
    Option Fault × List (Slot σ) × δ :=
  match standing.1[push.place]? with
  | none => (none, standing)
  | some slot =>
      match behaviour.push push.record slot.sink standing.2 with
      | (some fault, sink, after) => (some fault, standing.1.set push.place { slot with sink := sink }, after)
      | (none, sink, after) => (none, standing.1.set push.place (slot.accept sink push.record), after)

theorem offer_follows (behaviour : Behaviour σ δ) (record : Record) (served waiting : List (Slot σ)) (shared : δ) :
    let offered := offer behaviour record waiting shared
    follow (pushAt behaviour) ((List.range' served.length waiting.length).map fun place => ⟨place, record⟩)
      (served ++ waiting, shared) = (offered.fault, served ++ offered.slots, offered.shared) := by
  induction waiting generalizing served shared with
  | nil => rfl
  | cons slot rest ih =>
      dsimp only at ih ⊢
      rw [List.length_cons, List.range'_succ, List.map_cons, offer]
      rcases pushed : behaviour.push record slot.sink shared with ⟨_ | fault, sink, after⟩
      · have made : pushAt behaviour ⟨served.length, record⟩ (served ++ slot :: rest, shared) =
            (none, (served ++ [slot.accept sink record]) ++ rest, after) := by
          simp [pushAt, pushed]
        have continued := ih (served ++ [slot.accept sink record]) after
        rw [List.length_append, List.length_singleton] at continued
        rw [follow_next _ _ _ _ _ made, continued]
        simp
      · have refused : pushAt behaviour ⟨served.length, record⟩ (served ++ slot :: rest, shared) =
            (some fault, served ++ { slot with sink := sink } :: rest, after) := by
          simp [pushAt, pushed]
        rw [follow_failed _ _ _ _ _ _ refused]

theorem offer_length (behaviour : Behaviour σ δ) (record : Record) (slots : List (Slot σ)) (shared : δ) :
    (offer behaviour record slots shared).slots.length = slots.length := by
  induction slots generalizing shared with
  | nil => rfl
  | cons slot rest ih =>
      rw [offer]
      rcases behaviour.push record slot.sink shared with ⟨_ | fault, sink, after⟩
      · simp [ih after]
      · rfl

theorem round_follows (behaviour : Behaviour σ δ) (record : Record) (slots : List (Slot σ)) (shared : δ) :
    let offered := offer behaviour record slots shared
    follow (pushAt behaviour) (round slots.length record) (slots, shared) =
      (offered.fault, offered.slots, offered.shared) := by
  have followed := offer_follows behaviour record [] slots shared
  rw [List.length_nil, ← List.range_eq_range'] at followed
  exact followed

theorem deliver_follows (behaviour : Behaviour σ δ) (records : List Record) (slots : List (Slot σ)) (shared : δ) :
    let delivered := deliver behaviour records slots shared
    follow (pushAt behaviour) (schedule slots.length records) (slots, shared) =
      (delivered.fault, delivered.slots, delivered.shared) := by
  induction records generalizing slots shared with
  | nil => rfl
  | cons record rest ih =>
      have first := round_follows behaviour record slots shared
      have length := offer_length behaviour record slots shared
      dsimp only at ih first ⊢
      rw [schedule, List.flatMap_cons, deliver]
      rcases refused : (offer behaviour record slots shared).fault with _ | fault
      · rw [refused] at first
        rw [follow_append_done _ _ _ _ _ first, ← length]
        exact ih _ _
      · rw [refused] at first
        rw [follow_append_failed _ _ _ _ _ _ first]
        simp only [refused]

def taken (pushes : List Push) (place : Nat) : List Record :=
  (pushes.filter fun push => push.place == place).map Push.record

def Accepted (start : List (Slot σ)) (given : Nat → List Record) (slots : List (Slot σ)) : Prop :=
  ∀ place, slots[place]?.map Slot.records = start[place]?.map fun slot => slot.records ++ given place

theorem taken_single (push : Push) (place : Nat) :
    taken [push] place = if push.place = place then [push.record] else [] := by
  by_cases here : push.place = place
  · simp [taken, here]
  · simp [taken, here]

theorem taken_append (first second : List Push) (place : Nat) :
    taken (first ++ second) place = taken first place ++ taken second place := by
  simp [taken]

theorem accept_records (slot : Slot σ) (sink : σ) (record : Record) :
    (slot.accept sink record).records = slot.records ++ [record] := by
  simp [Slot.records, Slot.accept]

theorem accepted_refl (slots : List (Slot σ)) : Accepted slots (fun _ => []) slots := by
  intro place
  simp

theorem accepted_set (slots : List (Slot σ)) (place : Nat) (slot changed : Slot σ) (given : List Record)
    (found : slots[place]? = some slot) (grown : changed.records = slot.records ++ given) :
    Accepted slots (fun other => if place = other then given else []) (slots.set place changed) := by
  intro other
  obtain ⟨bound, _⟩ := List.getElem?_eq_some_iff.mp found
  by_cases here : place = other
  · rw [← here, List.getElem?_set_self bound, found]
    simp [grown]
  · rw [List.getElem?_set_ne here]
    simp [here]

theorem push_cases (behaviour : Behaviour σ δ) (push : Push) (slots : List (Slot σ)) (shared : δ) :
    (slots[push.place]? = none ∧ pushAt behaviour push (slots, shared) = (none, slots, shared)) ∨
    (∃ slot sink after, slots[push.place]? = some slot ∧
      behaviour.push push.record slot.sink shared = (none, sink, after) ∧
      pushAt behaviour push (slots, shared) = (none, slots.set push.place (slot.accept sink push.record), after)) ∨
    (∃ slot fault sink after, slots[push.place]? = some slot ∧
      behaviour.push push.record slot.sink shared = (some fault, sink, after) ∧
      pushAt behaviour push (slots, shared) = (some fault, slots.set push.place { slot with sink := sink }, after)) := by
  unfold pushAt
  rcases found : slots[push.place]? with _ | slot
  · exact Or.inl ⟨rfl, rfl⟩
  · rcases pushed : behaviour.push push.record slot.sink shared with ⟨_ | fault, sink, after⟩
    · exact Or.inr (Or.inl ⟨slot, sink, after, rfl, pushed, by simp only [pushed]⟩)
    · exact Or.inr (Or.inr ⟨slot, fault, sink, after, rfl, pushed, by simp only [pushed]⟩)

theorem push_accepted (behaviour : Behaviour σ δ) (push : Push) (slots after : List (Slot σ)) (shared later : δ)
    (made : pushAt behaviour push (slots, shared) = (none, after, later)) :
    Accepted slots (taken [push]) after := by
  intro place
  rw [taken_single]
  rcases push_cases behaviour push slots shared with
    ⟨absent, passed⟩ | ⟨slot, sink, left, found, _, accepted⟩ | ⟨_, _, _, _, _, _, refused⟩
  · rw [passed] at made
    cases made
    by_cases here : push.place = place
    · rw [← here, absent]
      rfl
    · simp [here]
  · rw [accepted] at made
    cases made
    exact accepted_set slots push.place slot _ [push.record] found (accept_records slot sink push.record) place
  · rw [refused] at made
    cases made

theorem refused_accepted (behaviour : Behaviour σ δ) (push : Push) (slots after : List (Slot σ)) (shared later : δ)
    (fault : Fault) (refused : pushAt behaviour push (slots, shared) = (some fault, after, later)) :
    Accepted slots (fun _ => []) after := by
  intro place
  rcases push_cases behaviour push slots shared with
    ⟨_, passed⟩ | ⟨_, _, _, _, _, accepted⟩ | ⟨slot, other, sink, left, found, _, kept⟩
  · rw [passed] at refused
    cases refused
  · rw [accepted] at refused
    cases refused
  · rw [kept] at refused
    cases refused
    rw [accepted_set slots push.place slot { slot with sink := sink } [] found (List.append_nil _).symm place]
    simp

theorem accepted_trans (start middle last : List (Slot σ)) (first second : Nat → List Record)
    (earlier : Accepted start first middle) (later : Accepted middle second last) :
    Accepted start (fun place => first place ++ second place) last := by
  intro place
  have before := earlier place
  rw [later place]
  generalize middle[place]? = between at before ⊢
  generalize start[place]? = old at before ⊢
  cases between with
  | none =>
      cases old with
      | none => rfl
      | some slot => cases before
  | some slot =>
      cases old with
      | none => cases before
      | some first =>
          simp only [Option.map_some, Option.some.injEq] at before ⊢
          rw [before, List.append_assoc]

theorem follow_accepted (behaviour : Behaviour σ δ) (pushes : List Push) (slots after : List (Slot σ))
    (shared later : δ) (done : follow (pushAt behaviour) pushes (slots, shared) = (none, after, later)) :
    Accepted slots (taken pushes) after := by
  induction pushes generalizing slots shared with
  | nil =>
      cases done
      exact accepted_refl after
  | cons push rest ih =>
      rcases made : pushAt behaviour push (slots, shared) with ⟨_ | fault, middle, between⟩
      · rw [follow_next _ _ _ _ _ made] at done
        have first := push_accepted behaviour push slots middle shared between made
        have both : taken (push :: rest) = fun place => taken [push] place ++ taken rest place :=
          funext (taken_append [push] rest)
        rw [both]
        exact accepted_trans slots middle after _ _ first (ih middle between done)
      · rw [follow_failed _ _ _ _ _ _ made] at done
        cases done

-- However far the pushes have got, the sinks have what the first of them gave; the one that was refused
-- gave nothing.
theorem moment_accepted (behaviour : Behaviour σ δ) (pushes : List Push) (slots : List (Slot σ)) (shared : δ) :
    ∃ made, made <+: pushes ∧ Accepted slots (taken made) (follow (pushAt behaviour) pushes (slots, shared)).2.1 := by
  rcases follow_cases (pushAt behaviour) pushes (slots, shared) with
    ⟨after, done⟩ | ⟨before, push, rest, reached, fault, after, split, passed, refused, all⟩
  · refine ⟨pushes, List.prefix_refl pushes, ?_⟩
    rw [done]
    exact follow_accepted behaviour pushes slots after.1 shared after.2 done
  · refine ⟨before, ⟨push :: rest, split.symm⟩, ?_⟩
    have earlier := follow_accepted behaviour before slots reached.1 shared reached.2 passed
    have nothing := refused_accepted behaviour push reached.1 after.1 reached.2 after.2 fault refused
    have whole := accepted_trans slots reached.1 after.1 _ _ earlier nothing
    rw [all]
    simpa only [List.append_nil] using whole

theorem taken_round (sinks place : Nat) (record : Record) :
    taken (round sinks record) place = if place < sinks then [record] else [] := by
  induction sinks with
  | zero => rfl
  | succ sinks ih =>
      rw [round, List.range_succ, List.map_append, taken_append]
      rw [round] at ih
      rw [ih, List.map_singleton, taken_single]
      by_cases last : sinks = place
      · simp [last]
      · by_cases earlier : place < sinks
        · simp [last, earlier, Nat.lt_succ_of_lt earlier]
        · have later : ¬ place < sinks + 1 := by omega
          simp [last, earlier, later]

theorem taken_schedule (sinks place : Nat) (records : List Record) (within : place < sinks) :
    taken (schedule sinks records) place = records := by
  induction records with
  | nil => rfl
  | cons record rest ih =>
      rw [schedule, List.flatMap_cons, taken_append, taken_round, if_pos within]
      exact congrArg (record :: ·) ih

def earlier (sinks : Nat) (records : List Record) (number place : Nat) (record : Record) : List Push :=
  schedule sinks (records.take number) ++ round place record

theorem taken_earlier (sinks number place other : Nat) (records : List Record) (record : Record)
    (found : records[number]? = some record) (within : other < sinks) :
    taken (earlier sinks records number place record) other =
      records.take (if other < place then number + 1 else number) := by
  rw [earlier, taken_append, taken_schedule sinks other _ within, taken_round]
  by_cases before : other < place
  · rw [if_pos before, if_pos before, List.take_add_one, found]
    rfl
  · rw [if_neg before, if_neg before, List.append_nil]

theorem round_split (sinks place : Nat) (record : Record) (within : place < sinks) :
    ∃ rest, round sinks record = round place record ++ ⟨place, record⟩ :: rest := by
  obtain ⟨more, rfl⟩ := Nat.exists_eq_add_of_lt within
  refine ⟨(List.range more).map fun later => ⟨place + (later + 1), record⟩, ?_⟩
  rw [round, Nat.add_assoc, List.range_add, List.range_succ_eq_map, List.map_append]
  simp [round, Function.comp_def]

theorem schedule_split (sinks number place : Nat) (records : List Record) (record : Record)
    (found : records[number]? = some record) (within : place < sinks) :
    ∃ rest, schedule sinks records = earlier sinks records number place record ++ ⟨place, record⟩ :: rest := by
  obtain ⟨rest, split⟩ := round_split sinks place record within
  obtain ⟨bound, here⟩ := List.getElem?_eq_some_iff.mp found
  refine ⟨rest ++ schedule sinks (records.drop (number + 1)), ?_⟩
  calc
    schedule sinks records = schedule sinks (records.take number ++ records.drop number) := by
      rw [List.take_append_drop]
    _ = schedule sinks (records.take number) ++ (round sinks record ++ schedule sinks (records.drop (number + 1))) := by
      rw [List.drop_eq_getElem_cons bound, here, schedule, List.flatMap_append, List.flatMap_cons]
      rfl
    _ = _ := by
      rw [split, earlier]
      simp

theorem schedule_first (sinks : Nat) (records : List Record) (made : List Push) (first : made <+: schedule sinks records) :
    made = schedule sinks records ∨ ∃ number place record, records[number]? = some record ∧ place < sinks ∧
      made = earlier sinks records number place record := by
  induction records generalizing made with
  | nil => exact Or.inl (List.prefix_nil.mp first)
  | cons record rest ih =>
      rw [schedule, List.flatMap_cons] at first
      have length : (round sinks record).length = sinks := by simp [round]
      have start := List.prefix_append (round sinks record) (rest.flatMap (round sinks))
      by_cases within : made.length < sinks
      · have cut := List.prefix_iff_eq_take.mp (List.prefix_of_prefix_length_le first start (by omega))
        rw [round, ← List.map_take, List.take_range, Nat.min_eq_left (Nat.le_of_lt within)] at cut
        exact Or.inr ⟨0, made.length, record, rfl, within, cut⟩
      · obtain ⟨more, rfl⟩ := List.prefix_of_prefix_length_le start first (by omega)
        rw [List.prefix_append_right_inj] at first
        rcases ih more first with whole | ⟨number, place, last, found, inside, cut⟩
        · left
          rw [whole]
          rfl
        · refine Or.inr ⟨number + 1, place, last, found, inside, ?_⟩
          rw [cut, earlier, earlier, List.take_succ_cons, ← List.append_assoc]
          rfl

theorem accepted_congr (start slots : List (Slot σ)) (first second : Nat → List Record)
    (same : ∀ place, place < start.length → first place = second place) (accepted : Accepted start first slots) :
    Accepted start second slots := by
  intro place
  rw [accepted place]
  cases found : start[place]? with
  | none => rfl
  | some slot =>
      obtain ⟨bound, _⟩ := List.getElem?_eq_some_iff.mp found
      simp [same place bound]

-- Each sink has accepted the first records; none has more of them than one before it, or lacks two that
-- another one has.
def InStep (start : List (Slot σ)) (records : List Record) (slots : List (Slot σ)) : Prop :=
  ∃ lengths : Nat → Nat, Accepted start (fun place => records.take (lengths place)) slots ∧
    (∀ place, lengths place ≤ records.length) ∧
    ∀ near far, near ≤ far → lengths far ≤ lengths near ∧ lengths near ≤ lengths far + 1

theorem delivery_in_step (behaviour : Behaviour σ δ) (records : List Record) (slots : List (Slot σ)) (shared : δ)
    (done : List Push) (first : done <+: schedule slots.length records) :
    InStep slots records (follow (pushAt behaviour) done (slots, shared)).2.1 := by
  obtain ⟨made, begun, accepted⟩ := moment_accepted behaviour done slots shared
  rcases schedule_first slots.length records made (begun.trans first) with
    rfl | ⟨number, place, record, found, _, rfl⟩
  · refine ⟨fun _ => records.length, ?_, by simp, by simp⟩
    refine accepted_congr _ _ _ _ ?_ accepted
    intro other within
    rw [taken_schedule slots.length other records within, List.take_length]
  · obtain ⟨bound, _⟩ := List.getElem?_eq_some_iff.mp found
    refine ⟨fun other => if other < place then number + 1 else number, ?_, ?_, ?_⟩
    · refine accepted_congr _ _ _ _ ?_ accepted
      intro other within
      exact taken_earlier slots.length number place other records record found within
    · intro other
      dsimp only
      split <;> omega
    · intro near far along
      dsimp only
      split <;> split <;> omega

-- The sink at `place` refuses record `number` after all pushes before that were made; `after` is how
-- things then stand.
def Refuses (behaviour : Behaviour σ δ) (slots : List (Slot σ)) (shared : δ) (records : List Record)
    (number place : Nat) (fault : Fault) (after : List (Slot σ) × δ) : Prop :=
  ∃ record slot sink standing, records[number]? = some record ∧
    follow (pushAt behaviour) (earlier slots.length records number place record) (slots, shared) = (none, standing) ∧
    standing.1[place]? = some slot ∧ behaviour.push record slot.sink standing.2 = (some fault, sink, after.2) ∧
    after.1 = standing.1.set place { slot with sink := sink }

theorem follow_refused (behaviour : Behaviour σ δ) (records : List Record) (slots : List (Slot σ)) (shared : δ)
    (number place : Nat) (fault : Fault) (after : List (Slot σ) × δ)
    (refuses : Refuses behaviour slots shared records number place fault after) :
    follow (pushAt behaviour) (schedule slots.length records) (slots, shared) = (some fault, after) ∧
      Accepted slots (fun other => records.take (if other < place then number + 1 else number)) after.1 := by
  obtain ⟨record, slot, sink, standing, found, made, here, refused, left⟩ := refuses
  have accepted := follow_accepted behaviour _ slots standing.1 shared standing.2 made
  have within : place < slots.length := by
    have same := accepted place
    rw [here] at same
    cases start : slots[place]? with
    | none =>
        rw [start] at same
        cases same
    | some old =>
        obtain ⟨bound, _⟩ := List.getElem?_eq_some_iff.mp start
        exact bound
  have pushed : pushAt behaviour ⟨place, record⟩ standing = (some fault, after) := by
    simp only [pushAt, here, refused, ← left]
  constructor
  · obtain ⟨rest, split⟩ := schedule_split slots.length number place records record found within
    rw [split, follow_append_done _ _ _ _ _ made, follow_failed _ _ _ _ _ _ pushed]
  · have nothing := refused_accepted behaviour ⟨place, record⟩ standing.1 after.1 standing.2 after.2 fault pushed
    refine accepted_congr _ _ _ _ ?_ (accepted_trans _ _ _ _ _ accepted nothing)
    intro other inside
    rw [List.append_nil]
    exact taken_earlier slots.length number place other records record found inside

theorem follow_schedule (behaviour : Behaviour σ δ) (records : List Record) (slots : List (Slot σ)) (shared : δ) :
    (∃ after, follow (pushAt behaviour) (schedule slots.length records) (slots, shared) = (none, after) ∧
      Accepted slots (fun _ => records) after.1) ∨
    ∃ number place fault after, Refuses behaviour slots shared records number place fault after := by
  rcases follow_cases (pushAt behaviour) (schedule slots.length records) (slots, shared) with
    ⟨after, done⟩ | ⟨before, push, rest, reached, fault, after, split, passed, refused, _⟩
  · refine Or.inl ⟨after, done, ?_⟩
    refine accepted_congr _ _ _ _ ?_ (follow_accepted behaviour _ slots after.1 shared after.2 done)
    intro place within
    exact taken_schedule slots.length place records within
  · right
    rcases schedule_first slots.length records before ⟨push :: rest, split.symm⟩ with
      whole | ⟨number, place, record, found, within, cut⟩
    · rw [← whole] at split
      exact absurd split (by simp)
    · obtain ⟨more, next⟩ := schedule_split slots.length number place records record found within
      rw [split, ← cut] at next
      have same := (List.cons.inj (List.append_cancel_left next)).1
      rw [cut] at passed
      rw [same] at refused
      rcases push_cases behaviour ⟨place, record⟩ reached.1 reached.2 with
        ⟨_, through⟩ | ⟨_, _, _, _, _, through⟩ | ⟨slot, other, sink, left, here, pushed, kept⟩
      · rw [through] at refused
        cases refused
      · rw [through] at refused
        cases refused
      · rw [kept] at refused
        cases refused
        exact ⟨number, place, fault, (reached.1.set place { slot with sink := sink }, left), record, slot, sink, reached,
          found, passed, here, pushed, rfl⟩

theorem numbered_from_at (seq place : Nat) (rows : List Bytes) :
    (numberedFrom seq rows)[place]? = rows[place]?.map fun line => ⟨(seq + place : Nat), line⟩ := by
  induction rows generalizing seq place with
  | nil => rfl
  | cons row rest ih =>
      cases place with
      | zero => rfl
      | succ place =>
          rw [numberedFrom, List.getElem?_cons_succ, List.getElem?_cons_succ, ih (seq + 1) place]
          simp [Nat.add_assoc, Nat.add_comm 1]

namespace Runner

def batch (runner : Runner) (scene : Scene) : Except Fault (List Bytes) :=
  match runner.source with
  | none => .error noSource
  | some source =>
      let report := (source.run scene.files scene.session.asker).1
      match report.fault with
      | some fault => .error (.context "source: " fault)
      | none =>
          match (Batch.transform (some runner.rewrite) report.rows scene.session).outcome with
          | .error fault => .error (.context "transform: " fault)
          | .ok rows => .ok rows

theorem hand_over_follows (runner : Runner) (scene : Scene) (moment : Metrics.Moment) (tally : Tally)
    (rows : List Bytes) (logs : List Log.Entry) :
    let ran := runner.handOver scene moment tally rows logs
    ∃ fault, follow (pushAt RowSink.behaviour) (schedule runner.sinks.length (numbered rows))
        (runner.sinks, scene.output) = (fault, ran.runner.sinks, ran.scene.output) ∧
      ran.fault = fault.map (.context "sink: ") := by
  dsimp only
  have observed := runner.metrics.observe_tally tally moment
  refine ⟨(deliver RowSink.behaviour (numbered rows) runner.sinks scene.output).fault, ?_⟩
  rw [deliver_follows]
  unfold handOver
  cases failed : (deliver RowSink.behaviour (numbered rows) runner.sinks scene.output).fault with
  | some fault =>
      simp only [failed]
      exact ⟨trivial, rfl⟩
  | none =>
      simp only [failed]
      rcases counted : runner.metrics.observe (.ofTally tally) moment with ⟨_ | fault, metrics⟩
      · exact ⟨rfl, rfl⟩
      · rw [counted] at observed
        cases observed

theorem run_cases (runner : Runner) (scene : Scene) (moment : Metrics.Moment) :
    let ran := runner.run scene moment
    (∃ fault, runner.batch scene = .error fault ∧ ran.fault = some fault ∧ ran.runner.sinks = runner.sinks ∧
      ran.scene.output = scene.output) ∨
    ∃ rows, runner.batch scene = .ok rows ∧
      ∃ fault, follow (pushAt RowSink.behaviour) (schedule runner.sinks.length (numbered rows))
          (runner.sinks, scene.output) = (fault, ran.runner.sinks, ran.scene.output) ∧
        ran.fault = fault.map (.context "sink: ") := by
  dsimp only
  unfold batch run
  cases runner.source with
  | none => exact Or.inl ⟨noSource, rfl, rfl, rfl, rfl⟩
  | some source =>
      dsimp only
      generalize source.run scene.files scene.session.asker = reading
      obtain ⟨report, after⟩ := reading
      cases report.fault with
      | some cause => exact Or.inl ⟨_, rfl, rfl, rfl, rfl⟩
      | none =>
          have same : rewrite { runner with source := some after } = runner.rewrite := rfl
          simp only [process, same]
          generalize Batch.transform (some runner.rewrite) report.rows scene.session = result
          cases result.outcome with
          | error cause => exact Or.inl ⟨_, rfl, rfl, rfl, rfl⟩
          | ok rows =>
              refine Or.inr ⟨rows, rfl, ?_⟩
              exact hand_over_follows { runner with source := some after } { scene with session := result.state }
                moment result.tally rows (report.logs ++ result.logs)

theorem run_in_step (runner : Runner) (scene : Scene) (moment : Metrics.Moment) :
    let ran := runner.run scene moment
    (∀ fault, runner.batch scene = .error fault →
      ran.fault = some fault ∧ ran.runner.sinks = runner.sinks ∧ ran.scene.output = scene.output) ∧
    ∀ out, runner.batch scene = .ok out →
      let records := numbered out
      let pushes := schedule runner.sinks.length records
      let reached (done : List Push) := (follow (pushAt RowSink.behaviour) done (runner.sinks, scene.output)).2
      (∀ number : Nat, records[number]? = out[number]?.map fun line => ⟨number, line⟩) ∧
      (ran.runner.sinks, ran.scene.output) = reached pushes ∧
      (∀ done, done <+: pushes → InStep runner.sinks records (reached done).1) ∧
      (ran.fault = none → Accepted runner.sinks (fun _ => records) ran.runner.sinks) ∧
      (∀ number place fault after,
        Refuses RowSink.behaviour runner.sinks scene.output records number place fault after →
        ran.fault = some (.context "sink: " fault) ∧ (ran.runner.sinks, ran.scene.output) = after ∧
          Accepted runner.sinks (fun other => records.take (if other < place then number + 1 else number))
            ran.runner.sinks) ∧
      (ran.fault ≠ none → ∃ number place fault after,
        Refuses RowSink.behaviour runner.sinks scene.output records number place fault after) := by
  intro ran
  rcases runner.run_cases scene moment with ⟨cause, failed, unsent⟩ | ⟨rows, settled, cause, followed, reply⟩
  · rw [failed]
    refine ⟨?_, nofun⟩
    intro fault same
    cases same
    exact unsent
  · rw [settled]
    refine ⟨nofun, ?_⟩
    intro out same records pushes reached
    cases same
    have settledBy := follow_schedule RowSink.behaviour records runner.sinks scene.output
    rw [followed] at settledBy
    refine ⟨?_, (congrArg Prod.snd followed).symm, ?_, ?_, ?_, ?_⟩
    · intro number
      have numbers := numbered_from_at 0 number rows
      rwa [Nat.zero_add] at numbers
    · intro done first
      exact delivery_in_step RowSink.behaviour records runner.sinks scene.output done first
    · intro complete
      rcases settledBy with ⟨after, done, accepted⟩ | ⟨number, place, fault, after, refuses⟩
      · cases done
        exact accepted
      · obtain ⟨stopped, _⟩ := follow_refused RowSink.behaviour records _ _ number place fault after refuses
        rw [followed] at stopped
        cases stopped
        rw [reply] at complete
        cases complete
    · intro number place fault after refuses
      obtain ⟨stopped, accepted⟩ := follow_refused RowSink.behaviour records _ _ number place fault after refuses
      rw [followed] at stopped
      cases stopped
      exact ⟨reply, rfl, accepted⟩
    · intro failed
      rcases settledBy with ⟨after, done, _⟩ | refused
      · cases done
        exact absurd reply failed
      · exact refused

end Runner

end OpcodeTable.Pipeline
