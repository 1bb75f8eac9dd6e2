import OpcodeTable.Pipeline.Runner

set_option autoImplicit false

namespace OpcodeTable

namespace Fault

inductive Carries (cause : Fault) : Fault → Prop
  | itself : Carries cause cause
  | within (before after : String) (whole : Fault) (inside : Carries cause whole) :
      Carries cause (.within before whole after)
  | first (whole other : Fault) (inside : Carries cause whole) : Carries cause (.both whole other)
  | second (other whole : Fault) (inside : Carries cause whole) : Carries cause (.both other whole)

theorem join_single (fault : Option Fault) : join [fault] = fault := by
  cases fault with
  | none => rfl
  | some cause => rfl

theorem join_cons_congr (fault : Option Fault) (first second : List (Option Fault)) (same : join first = join second) :
    join (fault :: first) = join (fault :: second) := by
  cases fault with
  | none => exact same
  | some cause => simp only [join, same]

theorem join_joined (fault : Option Fault) (more : List (Option Fault)) :
    join [fault, join more] = join (fault :: more) :=
  join_cons_congr fault [join more] more (join_single (join more))

end Fault

def undertake {α σ : Type} (act : α → σ → Option Fault × σ) : List α → σ → List (Option Fault) × σ
  | [], state => ([], state)
  | step :: rest, state =>
      let taken := act step state
      let others := undertake act rest taken.2
      (taken.1 :: others.1, others.2)

namespace Vector

theorem Connection.close_shut (connection : Connection) : connection.close.2.isOpen = false := by
  unfold close
  split
  · rfl
  · rename_i already
    simpa using already

def Client.Shut : Client → Prop
  | .remote connection => connection.isOpen = false
  | _ => True

theorem Client.close_shut (client : Client) : client.close.2.Shut := by
  cases client with
  | remote connection => exact connection.close_shut
  | passthrough => trivial
  | inProcess rewriter ending => trivial

end Vector

namespace Pipeline

open Sink (Device)

section Slots

variable {σ δ : Type} (behaviour : Behaviour σ δ)

theorem closed_places (place : Nat) (slots : List (Slot σ)) (shared : δ) :
    (closeSlots behaviour place slots shared).places = List.range' place slots.length := by
  induction slots generalizing place shared with
  | nil => rfl
  | cons slot rest ih =>
      rw [closeSlots, List.length_cons, List.range'_succ, ← ih (place + 1) (behaviour.close slot.sink shared).2.2]

theorem closed_closes (place : Nat) (slots : List (Slot σ)) (shared : δ) :
    (closeSlots behaviour place slots shared).slots.map Slot.closes = (slots.map Slot.closes).map (· + 1) := by
  induction slots generalizing place shared with
  | nil => rfl
  | cons slot rest ih =>
      rw [closeSlots, List.map_cons, List.map_cons, List.map_cons,
        ih (place + 1) (behaviour.close slot.sink shared).2.2]
      rfl

theorem closed_sinks (shut : σ → Prop) (shuts : ∀ sink shared, shut (behaviour.close sink shared).2.1)
    (place : Nat) (slots : List (Slot σ)) (shared : δ) :
    ∀ slot ∈ (closeSlots behaviour place slots shared).slots, shut slot.sink := by
  induction slots generalizing place shared with
  | nil => exact fun _ member => nomatch member
  | cons slot rest ih =>
      rw [closeSlots]
      exact List.forall_mem_cons.mpr ⟨shuts slot.sink shared, ih (place + 1) (behaviour.close slot.sink shared).2.2⟩

end Slots

def RowSource.Shut : RowSource → Prop
  | .lines source => source.origin = .file → source.stream = none
  | .topic source => source.feed = none
  | .memory _ => True

theorem RowSource.close_shut (source : RowSource) : source.close.2.Shut := by
  cases source with
  | lines source =>
      intro file
      simp only [Source.Lines.close] at file ⊢
      cases origin : source.origin with
      | file => rfl
      | given => simp [origin] at file
  | topic source =>
      cases feed : source.feed with
      | none => simp only [RowSource.close, Source.Topic.close, feed, Shut]
      | some _ => simp only [RowSource.close, Source.Topic.close, feed, Shut]
  | memory source => trivial

def RowSink.Shut : RowSink → Prop
  | .topic sink => sink.connected = false
  | _ => True

theorem RowSink.close_shut (sink : RowSink) (device : Device) : (sink.close device).2.1.Shut := by
  cases sink with
  | topic sink =>
      cases connected : sink.connected with
      | true => simp only [RowSink.close, Sink.Topic.close, connected, if_true, Shut]
      | false => simp only [RowSink.close, Sink.Topic.close, connected, Bool.false_eq_true, if_false, Shut]
  | console sink => trivial
  | memory sink => trivial

namespace Runner

def parts (runner : Runner) : List Part :=
  (if runner.source.isSome then [.source] else []) ++ .vector :: (List.range runner.sinks.length).map .sink

def closeAt (part : Part) (standing : Runner × Device) : Option Fault × Runner × Device :=
  match part with
  -- This one never became part of the pipeline.
  | .unhealthyClient => (none, standing)
  | .source => (standing.1.closeSource.1, standing.1.closeSource.2, standing.2)
  | .vector => (standing.1.closeVector.1, standing.1.closeVector.2, standing.2)
  | .sink place =>
      match standing.1.sinks[place]? with
      | none => (none, standing)
      | some slot =>
          let (fault, sink, after) := slot.sink.close standing.2
          (fault, { standing.1 with
            sinks := standing.1.sinks.set place (slot.close sink)
            released := standing.1.released ++ [.sink place] }, after)

theorem close_sinks_undertakes (runner : Runner) (served waiting : List (Slot RowSink)) (output : Device)
    (sinks : runner.sinks = served ++ waiting) :
    let closed := closeSlots RowSink.behaviour served.length waiting output
    let taken := undertake closeAt ((List.range' served.length waiting.length).map .sink) (runner, output)
    Fault.join taken.1 = closed.fault ∧ taken.2 = ({ runner with
      sinks := served ++ closed.slots
      released := runner.released ++ closed.places.map .sink }, closed.shared) := by
  induction waiting generalizing runner served output with
  | nil =>
      rw [List.append_nil] at sinks
      simp [undertake, closeSlots, Fault.join, ← sinks]
  | cons slot rest ih =>
      dsimp only at ih ⊢
      rw [List.length_cons, List.range'_succ, List.map_cons, undertake, closeSlots]
      rcases closing : slot.sink.close output with ⟨fault, sink, after⟩
      -- The sinks closed so far keep their places, so that the next one is found at their number.
      have found : runner.sinks[served.length]? = some slot := by simp [sinks]
      have step : closeAt (.sink served.length) (runner, output) =
          (fault, { runner with
            sinks := (served ++ [slot.close sink]) ++ rest
            released := runner.released ++ [.sink served.length] }, after) := by
        simp only [closeAt, found, closing]
        simp [sinks]
      have later := ih { runner with
        sinks := (served ++ [slot.close sink]) ++ rest
        released := runner.released ++ [.sink served.length] } (served ++ [slot.close sink]) after rfl
      rw [List.length_append, List.length_singleton] at later
      obtain ⟨faults, standing⟩ := later
      have behaves : RowSink.behaviour.close slot.sink output = (fault, sink, after) := closing
      simp only [step, behaves]
      refine ⟨?_, ?_⟩
      · rw [← faults]
        exact (Fault.join_joined fault _).symm
      · rw [standing]
        simp

theorem close_rest_undertakes (runner : Runner) (output : Device) :
    let closed := runner.closeVector.2.closeSinks output
    let taken := undertake closeAt (.vector :: (List.range runner.sinks.length).map .sink) (runner, output)
    Fault.join taken.1 = Fault.join [runner.closeVector.1, closed.fault] ∧
      taken.2 = (closed.runner, closed.output) := by
  have sinks := close_sinks_undertakes runner.closeVector.2 [] runner.sinks output rfl
  rw [List.length_nil, ← List.range_eq_range'] at sinks
  obtain ⟨faults, standing⟩ := sinks
  have fault : (runner.closeVector.2.closeSinks output).fault = _ := faults.symm
  dsimp only
  rw [undertake, closeAt, fault]
  exact ⟨(Fault.join_joined runner.closeVector.1 _).symm, standing⟩

theorem close_undertakes (runner : Runner) (output : Device) (running : runner.closed = false) :
    let taken := undertake closeAt runner.parts (runner, output)
    runner.close output = ⟨Fault.join taken.1, { taken.2.1 with closed := true }, taken.2.2⟩ := by
  have rest := close_rest_undertakes runner.closeSource.2 output
  dsimp only at rest ⊢
  unfold close parts
  simp only [running, Bool.false_eq_true, if_false]
  cases source : runner.source with
  | none =>
      have kept : runner.closeSource = (none, runner) := by simp only [closeSource, source]
      rw [kept] at rest ⊢
      obtain ⟨faults, standing⟩ := rest
      simp only [Option.isSome_none, Bool.false_eq_true, if_false, List.nil_append, faults, standing, Fault.join]
  | some part =>
      have same : runner.closeSource.2.sinks = runner.sinks := by simp only [closeSource, source]
      rw [same] at rest
      obtain ⟨faults, standing⟩ := rest
      simp only [Option.isSome_some, if_true, List.singleton_append, undertake, closeAt]
      simp only [undertake, closeAt] at faults standing
      rw [standing, Fault.join_cons_congr _ _ _ faults]

theorem parts_nodup (runner : Runner) : runner.parts.Nodup := by
  have sinks : ((List.range runner.sinks.length).map Part.sink).Nodup :=
    List.Pairwise.map _ (fun _ _ apart same => apart (Part.sink.inj same)) List.nodup_range
  unfold parts
  cases runner.source.isSome with
  | false => simpa using sinks
  | true => simpa using sinks

theorem close_lists (runner : Runner) (output : Device) (running : runner.closed = false) :
    (runner.close output).runner.released = runner.released ++ runner.parts ∧
      (runner.close output).runner.sinks.map Slot.closes = (runner.sinks.map Slot.closes).map (· + 1) := by
  have places := closed_places RowSink.behaviour 0 runner.sinks output
  have closes := closed_closes RowSink.behaviour 0 runner.sinks output
  rw [← List.range_eq_range'] at places
  unfold close parts
  simp only [running, Bool.false_eq_true, if_false]
  cases source : runner.source with
  | none => simp [closeSource, source, closeVector, closeSinks, places, closes]
  | some part => simp [closeSource, source, closeVector, closeSinks, places, closes]

structure Shut (runner : Runner) : Prop where
  source : ∀ source, runner.source = some source → source.Shut
  vector : runner.vector.Shut
  sinks : ∀ slot ∈ runner.sinks, slot.sink.Shut

theorem close_shut (runner : Runner) (output : Device) (running : runner.closed = false) :
    (runner.close output).runner.Shut := by
  unfold close
  simp only [running, Bool.false_eq_true, if_false]
  refine ⟨?_, Vector.Client.close_shut _, closed_sinks RowSink.behaviour RowSink.Shut RowSink.close_shut 0 _ output⟩
  intro source present
  cases given : runner.source with
  | none =>
      rw [closeSource, given] at present
      exact absurd (given.symm.trans present) nofun
  | some before =>
      rw [closeSource, given] at present
      exact Option.some.inj present ▸ before.close_shut

end Runner

end Pipeline

end OpcodeTable
