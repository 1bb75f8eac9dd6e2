import OpcodeTable.Pipeline.Assembly
import OpcodeTable.Proofs.Closing
import OpcodeTable.Proofs.FirstFailure

/-!
The tasks of putting a pipeline together are laid out in a list; the first one that fails ends the work,
and whatever was attached until then is closed.
-/

set_option autoImplicit false

namespace OpcodeTable.Pipeline

inductive Task where
  | loadSource
  | createSource
  | configureSource
  | dialVector
  | checkHealth
  | createSink (name : String)
  | loadSink (name : String)
  | configureSink (name : String)
deriving DecidableEq, Repr

namespace Task

def ofSink (name : String) : List Task := [.createSink name, .loadSink name, .configureSink name]

def sink? : Task → Option String
  | .configureSink name => some name
  | _ => none

end Task

def Spec.tasks (spec : Spec) : List Task :=
  [.loadSource, .createSource, .configureSource] ++ ([.dialVector, .checkHealth] ++ spec.sinks.flatMap Task.ofSink)

structure Draft where
  runner : Runner
  -- A client that was turned away, as it was left.
  rejected : Option Vector.Connection
  -- A sink that could not be configured, as it was left.
  abandoned : Option RowSink

namespace Draft

def blank : Draft := ⟨.empty, none, none⟩

def withSource (draft : Draft) (source : RowSource) : Draft :=
  { draft with runner := { draft.runner with source := some source } }

def withVector (draft : Draft) (client : Vector.Client) (policy : Vector.Policy) : Draft :=
  { draft with runner := { draft.runner with vector := client, policy := policy } }

def withSink (draft : Draft) (sink : RowSink) : Draft := { draft with runner := draft.runner.addSink sink }

def reject (draft : Draft) (connection : Vector.Connection) : Draft :=
  { draft with
    runner := { draft.runner with released := draft.runner.released ++ [.unhealthyClient] }
    rejected := some connection.close.2 }

end Draft

def VectorSpec.connection? (spec : VectorSpec) (site : Site) : Option Vector.Connection :=
  if spec.type == "grpc" then
    (Vector.Target.ofText spec.address).toOption.map fun target => .dial target (site.network.server spec.address)
  else none

def VectorSpec.client (spec : VectorSpec) (site : Site) : Vector.Client :=
  match spec.connection? site with
  | none => .passthrough
  | some connection => .remote connection

section Tasks

variable (spec : Spec) (site : Site) (scene : Scene)

-- One task. Settings that were read before are read again, to the same effect.
def perform (task : Task) (draft : Draft) : Option Fault × Draft :=
  match task with
  | .loadSource =>
      match Settings.LineSettings.load scene.files site.environment spec.source.config with
      | .error fault => (some (inSource spec.source.kind fault), draft)
      | .ok _ => (none, draft)
  | .createSource =>
      match openSource spec.source site scene.files with
      | .error fault => (some fault, draft)
      | .ok source => (none, draft.withSource source)
  | .configureSource =>
      match Settings.LineSettings.load scene.files site.environment spec.source.config, draft.runner.source with
      | .ok settings, some source =>
          match source.configure site.network settings with
          | (some fault, after) => (some (inSource spec.source.kind fault), draft.withSource after)
          | (none, after) => (none, draft.withSource after)
      | _, _ => (some .misuse, draft)
  | .dialVector =>
      if spec.vector.type == "passthrough" || spec.vector.type == "" then (none, draft)
      else if spec.vector.type == "grpc" then
        match Vector.Target.ofText spec.vector.address with
        | .error fault => (some (undialled spec.vector.address fault), draft)
        | .ok _ => (none, draft)
      else (some (unsupported spec.vector.type), draft)
  | .checkHealth =>
      match spec.vector.connection? site with
      | none => (none, draft.withVector .passthrough spec.vector.policy)
      | some connection =>
          match connection.health scene.session with
          | none => (none, draft.withVector (.remote connection) spec.vector.policy)
          | some fault => (some (unhealthy spec.vector.address fault), draft.reject connection)
  | .createSink name =>
      match Sink.Kind.ofName name with
      | .error fault => (if site.otherSinks.contains name then none else some fault, draft)
      | .ok _ => (none, draft)
  | .loadSink name =>
      match Sink.Kind.ofName name with
      | .error _ => (some (inSink name (noBlock name)), draft)
      | .ok .console => (none, draft)
      | .ok .topic =>
          match Settings.loadSinkTopic scene.files site.environment spec.topicConfig with
          | .error fault => (some (inSink name fault), draft)
          | .ok _ => (none, draft)
  | .configureSink name =>
      match Sink.Kind.ofName name, Settings.loadSinkTopic scene.files site.environment spec.topicConfig with
      | .ok .console, _ =>
          (none, draft.withSink (.console ((Sink.Console.onto .unlimited).configure spec.printCounter)))
      | .ok .topic, .ok settings =>
          match (Sink.Topic.onto site.network.exchange).configure settings with
          | (some fault, _, after) => (some (inSink name fault), { draft with abandoned := some (.topic after) })
          | (none, _, sink) => (none, draft.withSink (.topic sink))
      | _, _ => (some .misuse, draft)

inductive Refusal : Task → Fault → Prop
  | settings (cause : Fault) : Refusal .loadSource (inSource spec.source.kind cause)
  | source (fault : Fault) (failed : openSource spec.source site scene.files = .error fault) :
      Refusal .createSource fault
  | sourceless : Refusal .configureSource .misuse
  | dial (cause : Fault) : Refusal .dialVector (undialled spec.vector.address cause)
  | type (other : spec.vector.type ∉ ["passthrough", "", "grpc"]) :
      Refusal .dialVector (unsupported spec.vector.type)
  | sink (name : String) (fault : Fault) (failed : Sink.Kind.ofName name = .error fault) :
      Refusal (.createSink name) fault
  | sinkSettings (name : String) (cause : Fault) : Refusal (.loadSink name) (inSink name cause)
  | sinkless (name : String) : Refusal (.configureSink name) .misuse

inductive Outcome (draft : Draft) : Task → Option Fault × Draft → Prop
  | idle (task : Task) (source : task ≠ .createSource) (vector : task ≠ .checkHealth) (sink : task.sink? = none) :
      Outcome draft task (none, draft)
  | refused (task : Task) (fault : Fault) (refusal : Refusal spec site scene task fault) :
      Outcome draft task (some fault, draft)
  | created (source : RowSource) : Outcome draft .createSource (none, draft.withSource source)
  | configured (source after : RowSource) (present : draft.runner.source = some source) :
      Outcome draft .configureSource (none, draft.withSource after)
  | unconfigured (cause : Fault) (source after : RowSource) (present : draft.runner.source = some source) :
      Outcome draft .configureSource (some (inSource spec.source.kind cause), draft.withSource after)
  | attached : Outcome draft .checkHealth (none, draft.withVector (spec.vector.client site) spec.vector.policy)
  | rejected (cause : Fault) (connection : Vector.Connection)
      (dialled : spec.vector.connection? site = some connection) :
      Outcome draft .checkHealth (some (unhealthy spec.vector.address cause), draft.reject connection)
  | added (name : String) (sink : RowSink) (opened : openSink spec site scene.files name = .ok sink) :
      Outcome draft (.configureSink name) (none, draft.withSink sink)
  | abandoned (cause : Fault) (name : String) (sink : RowSink) (shut : sink.Shut) :
      Outcome draft (.configureSink name) (some (inSink name cause), { draft with abandoned := some sink })

theorem configure_refused (sink after : Sink.Topic) (settings : Sink.TopicSettings) (client : Option Broker.Client)
    (fault : Fault) (fresh : sink.connected = false) (refused : sink.configure settings = (some fault, client, after)) :
    after.connected = false := by
  unfold Sink.Topic.configure at refused
  split at refused
  · cases refused
    exact fresh
  · have refusal := congrArg Prod.fst refused
    have left := congrArg (fun result => result.2.2) refused
    dsimp only at refusal left
    rw [← left, refusal]
    rfl

theorem load_source_outcome (draft : Draft) :
    Outcome spec site scene draft .loadSource (perform spec site scene .loadSource draft) := by
  rw [perform]
  split
  · exact .refused _ _ (.settings _)
  · exact .idle _ nofun nofun rfl

theorem create_source_outcome (draft : Draft) :
    Outcome spec site scene draft .createSource (perform spec site scene .createSource draft) := by
  rw [perform]
  split
  · rename_i fault failed
    exact .refused _ fault (.source fault failed)
  · exact .created _

theorem configure_source_outcome (draft : Draft) :
    Outcome spec site scene draft .configureSource (perform spec site scene .configureSource draft) := by
  rw [perform]
  split
  · rename_i source _ present
    split
    · exact .unconfigured _ source _ present
    · exact .configured source _ present
  · exact .refused _ _ .sourceless

theorem dial_vector_outcome (draft : Draft) :
    Outcome spec site scene draft .dialVector (perform spec site scene .dialVector draft) := by
  rw [perform]
  split
  · exact .idle _ nofun nofun rfl
  · rename_i passes
    split
    · split
      · exact .refused _ _ (.dial _)
      · exact .idle _ nofun nofun rfl
    · rename_i remote
      simp only [Bool.or_eq_true, beq_iff_eq, not_or] at passes remote
      exact .refused _ _ (.type (by simp [passes, remote]))

theorem check_health_outcome (draft : Draft) :
    Outcome spec site scene draft .checkHealth (perform spec site scene .checkHealth draft) := by
  have client : Outcome spec site scene draft .checkHealth (none, _) := .attached
  rw [VectorSpec.client] at client
  rw [perform]
  split
  · rename_i absent
    rwa [absent] at client
  · rename_i connection dialled
    rw [dialled] at client
    split
    · exact client
    · exact .rejected _ connection dialled

theorem create_sink_outcome (name : String) (draft : Draft) :
    Outcome spec site scene draft (.createSink name) (perform spec site scene (.createSink name) draft) := by
  rw [perform]
  split
  · rename_i fault failed
    split
    · exact .idle _ nofun nofun rfl
    · exact .refused _ fault (.sink name fault failed)
  · exact .idle _ nofun nofun rfl

theorem load_sink_outcome (name : String) (draft : Draft) :
    Outcome spec site scene draft (.loadSink name) (perform spec site scene (.loadSink name) draft) := by
  rw [perform]
  split
  · exact .refused _ _ (.sinkSettings name _)
  · exact .idle _ nofun nofun rfl
  · split
    · exact .refused _ _ (.sinkSettings name _)
    · exact .idle _ nofun nofun rfl

theorem configure_sink_outcome (name : String) (draft : Draft) :
    Outcome spec site scene draft (.configureSink name) (perform spec site scene (.configureSink name) draft) := by
  rw [perform]
  split
  · rename_i kind
    exact .added name _ (by simp only [openSink, kind])
  · rename_i settings kind loaded
    split
    · rename_i cause client after configured
      exact .abandoned cause name _ (configure_refused _ after settings client cause rfl configured)
    · rename_i client sink configured
      exact .added name _ (by simp only [openSink, kind, openTopicSink, loaded, configured])
  · exact .refused _ _ (.sinkless name)

theorem perform_outcome (task : Task) (draft : Draft) :
    Outcome spec site scene draft task (perform spec site scene task draft) := by
  cases task with
  | loadSource => exact load_source_outcome spec site scene draft
  | createSource => exact create_source_outcome spec site scene draft
  | configureSource => exact configure_source_outcome spec site scene draft
  | dialVector => exact dial_vector_outcome spec site scene draft
  | checkHealth => exact check_health_outcome spec site scene draft
  | createSink name => exact create_sink_outcome spec site scene name draft
  | loadSink name => exact load_sink_outcome spec site scene name draft
  | configureSink name => exact configure_sink_outcome spec site scene name draft

theorem perform_passed (task : Task) (draft after : Draft)
    (passed : perform spec site scene task draft = (none, after)) :
    Outcome spec site scene draft task (none, after) :=
  passed ▸ perform_outcome spec site scene task draft

theorem perform_failed (task : Task) (draft left : Draft) (fault : Fault)
    (failed : perform spec site scene task draft = (some fault, left)) :
    Outcome spec site scene draft task (some fault, left) :=
  failed ▸ perform_outcome spec site scene task draft

structure Holds (done : List Task) (draft : Draft) : Prop where
  closed : draft.runner.closed = false
  source : draft.runner.source.isSome = decide (.createSource ∈ done)
  vector : draft.runner.vector = if .checkHealth ∈ done then spec.vector.client site else .passthrough
  sinks : draft.runner.sinks.map (fun slot => .ok slot.sink) =
    (done.filterMap Task.sink?).map (openSink spec site scene.files)
  closes : draft.runner.sinks.map Slot.closes = (done.filterMap Task.sink?).map fun _ => 0

structure Draft.Sound (draft : Draft) : Prop where
  released : draft.runner.released = []
  rejected : draft.rejected = none
  abandoned : draft.abandoned = none

theorem blank_holds : Holds spec site scene [] .blank := ⟨rfl, rfl, rfl, rfl, rfl⟩

theorem blank_sound : Draft.blank.Sound := ⟨rfl, rfl, rfl⟩

-- The parts that are there when the tasks have been done, in the order in which they are closed. A client
-- that leaves rows alone is there from the start.
def attachedBy (done : List Task) : List Part :=
  (if .createSource ∈ done then [.source] else [])
    ++ .vector :: (List.range (done.filterMap Task.sink?).length).map .sink

structure FailsAt (before : List Task) (task : Task) (fault : Fault) (left : Draft) : Prop where
  listed : before ++ [task] <+: spec.tasks
  failed : ∃ reached, follow (perform spec site scene) before .blank = (none, reached) ∧
    perform spec site scene task reached = (some fault, left)

variable {spec site scene}

namespace Holds

variable {done : List Task} {draft : Draft} (holds : Holds spec site scene done draft)

include holds

theorem more (task : Task) (source : task ≠ .createSource) (vector : task ≠ .checkHealth) (sink : task.sink? = none) :
    Holds spec site scene (done ++ [task]) draft := by
  have same : (done ++ [task]).filterMap Task.sink? = done.filterMap Task.sink? := by
    rw [List.filterMap_append, List.filterMap_cons_none sink, List.filterMap_nil, List.append_nil]
  refine ⟨holds.closed, ?_, ?_, same ▸ holds.sinks, same ▸ holds.closes⟩
  · simpa [source.symm] using holds.source
  · simpa [vector.symm] using holds.vector

theorem created (source : RowSource) : Holds spec site scene (done ++ [.createSource]) (draft.withSource source) := by
  refine ⟨holds.closed, ?_, ?_, ?_, ?_⟩
  · simp [Draft.withSource]
  · simpa [Draft.withSource] using holds.vector
  · simpa [Draft.withSource, List.filterMap_cons, Task.sink?] using holds.sinks
  · simpa [Draft.withSource, List.filterMap_cons, Task.sink?] using holds.closes

theorem replaced (source after : RowSource) (present : draft.runner.source = some source) :
    Holds spec site scene done (draft.withSource after) := by
  refine ⟨holds.closed, ?_, holds.vector, holds.sinks, holds.closes⟩
  rw [← holds.source, present]
  rfl

theorem attached : Holds spec site scene (done ++ [.checkHealth])
    (draft.withVector (spec.vector.client site) spec.vector.policy) := by
  refine ⟨holds.closed, ?_, ?_, ?_, ?_⟩
  · simpa [Draft.withVector] using holds.source
  · simp [Draft.withVector]
  · simpa [Draft.withVector, List.filterMap_cons, Task.sink?] using holds.sinks
  · simpa [Draft.withVector, List.filterMap_cons, Task.sink?] using holds.closes

theorem added (name : String) (sink : RowSink) (opened : openSink spec site scene.files name = .ok sink) :
    Holds spec site scene (done ++ [.configureSink name]) (draft.withSink sink) := by
  refine ⟨holds.closed, ?_, ?_, ?_, ?_⟩
  · simpa [Draft.withSink, Runner.addSink] using holds.source
  · simpa [Draft.withSink, Runner.addSink] using holds.vector
  · simp [Draft.withSink, Runner.addSink, Slot.fresh, Task.sink?, opened, holds.sinks]
  · simp [Draft.withSink, Runner.addSink, Slot.fresh, Task.sink?, holds.closes]

theorem parts : draft.runner.parts = attachedBy done := by
  have length : draft.runner.sinks.length = (done.filterMap Task.sink?).length := by
    simpa using congrArg List.length holds.sinks
  rw [Runner.parts, attachedBy, holds.source, length]
  simp

theorem close (output : Sink.Device) :
    let closing := undertake Runner.closeAt (attachedBy done) (draft.runner, output)
    draft.runner.close output = ⟨Fault.join closing.1, { closing.2.1 with closed := true }, closing.2.2⟩ ∧
      closing.2.1.released = draft.runner.released ++ attachedBy done ∧ (attachedBy done).Nodup ∧
      closing.2.1.sinks.map Slot.closes = ((done.filterMap Task.sink?).map fun _ => 1) ∧ closing.2.1.Shut := by
  have closed := draft.runner.close_undertakes output holds.closed
  obtain ⟨listed, counted⟩ := draft.runner.close_lists output holds.closed
  have shut := draft.runner.close_shut output holds.closed
  have apart := draft.runner.parts_nodup
  rw [holds.parts] at closed listed apart
  rw [closed] at listed counted shut
  rw [holds.closes, List.map_map] at counted
  exact ⟨closed, listed, apart, counted, shut.source, shut.vector, shut.sinks⟩

end Holds

theorem Outcome.done {done : List Task} {draft after : Draft} {task : Task}
    (outcome : Outcome spec site scene draft task (none, after)) (holds : Holds spec site scene done draft)
    (sound : draft.Sound) : Holds spec site scene (done ++ [task]) after ∧ after.Sound := by
  obtain ⟨released, rejected, abandoned⟩ := sound
  cases outcome with
  | idle task source vector sink => exact ⟨holds.more task source vector sink, released, rejected, abandoned⟩
  | created source => exact ⟨holds.created source, released, rejected, abandoned⟩
  | configured source after present =>
      exact ⟨(holds.replaced source after present).more _ nofun nofun rfl, released, rejected, abandoned⟩
  | attached => exact ⟨holds.attached, released, rejected, abandoned⟩
  | added name sink opened => exact ⟨holds.added name sink opened, released, rejected, abandoned⟩

structure Halted (spec : Spec) (site : Site) (task : Task) (left : Draft) : Prop where
  released : left.runner.released = if task = .checkHealth then [.unhealthyClient] else []
  rejected : task = .checkHealth →
    ∃ connection, spec.vector.connection? site = some connection ∧ left.rejected = some connection.close.2
  kept : task ≠ .checkHealth → left.rejected = none
  abandoned : ∀ sink, left.abandoned = some sink → sink.Shut

theorem Outcome.failed {done : List Task} {draft left : Draft} {task : Task} {fault : Fault}
    (outcome : Outcome spec site scene draft task (some fault, left)) (holds : Holds spec site scene done draft)
    (sound : draft.Sound) : Holds spec site scene done left ∧ Halted spec site task left := by
  obtain ⟨released, rejected, abandoned⟩ := sound
  have nothing : ∀ sink, draft.abandoned = some sink → sink.Shut :=
    fun sink given => nomatch abandoned.symm.trans given
  cases outcome with
  | unconfigured cause source after present =>
      exact ⟨holds.replaced source after present, released, nofun, fun _ => rejected, nothing⟩
  | rejected cause connection dialled =>
      refine ⟨⟨holds.closed, holds.source, holds.vector, holds.sinks, holds.closes⟩, ?_, ?_, ?_, nothing⟩
      · simp [Draft.reject, released]
      · exact fun _ => ⟨connection, dialled, rfl⟩
      · exact fun other => absurd rfl other
  | abandoned cause name sink shut =>
      refine ⟨⟨holds.closed, holds.source, holds.vector, holds.sinks, holds.closes⟩,
        released, nofun, fun _ => rejected, ?_⟩
      intro left same
      exact Option.some.inj same ▸ shut
  | refused task fault refusal =>
      have vector : task ≠ .checkHealth := by
        rintro rfl
        cases refusal
      exact ⟨holds, by rw [if_neg vector, released], fun same => absurd same vector, fun _ => rejected, nothing⟩

theorem follow_holds (tasks : List Task) {done : List Task} {draft reached : Draft}
    (passed : follow (perform spec site scene) tasks draft = (none, reached))
    (holds : Holds spec site scene done draft) (sound : draft.Sound) :
    Holds spec site scene (done ++ tasks) reached ∧ reached.Sound := by
  induction tasks generalizing done draft with
  | nil =>
      cases passed
      exact ⟨(List.append_nil done).symm ▸ holds, sound⟩
  | cons task rest ih =>
      rcases step : perform spec site scene task draft with ⟨_ | fault, after⟩
      · rw [follow_next _ task rest draft after step] at passed
        obtain ⟨holds, sound⟩ := (perform_passed spec site scene task draft after step).done holds sound
        rw [← List.singleton_append, ← List.append_assoc]
        exact ih passed holds sound
      · rw [follow_failed _ task rest draft after fault step] at passed
        cases passed

theorem FailsAt.follow {before : List Task} {task : Task} {fault : Fault} {left : Draft}
    (fails : FailsAt spec site scene before task fault left) :
    follow (perform spec site scene) spec.tasks .blank = (some fault, left) := by
  obtain ⟨⟨after, listed⟩, reached, passed, failed⟩ := fails
  rw [← listed, List.append_assoc, follow_append_done _ _ _ _ _ passed, List.singleton_append,
    follow_failed _ _ _ _ _ _ failed]

theorem FailsAt.leaves {before : List Task} {task : Task} {fault : Fault} {left : Draft}
    (fails : FailsAt spec site scene before task fault left) :
    Holds spec site scene before left ∧ Halted spec site task left := by
  obtain ⟨_, reached, passed, failed⟩ := fails
  obtain ⟨holds, sound⟩ := follow_holds before passed (blank_holds spec site scene) blank_sound
  exact (perform_failed spec site scene task reached left fault failed).failed holds sound

variable (spec site scene)

def conclude : Option Fault × Draft → Except Unfinished Runner
  | (some fault, draft) => .error ⟨fault, draft.runner, draft.rejected⟩
  | (none, draft) => .ok draft.runner

theorem attach_source_follows (draft : Draft) (sound : draft.Sound) :
    attachSource spec.source site scene.files draft.runner =
      conclude (follow (perform spec site scene) [.loadSource, .createSource, .configureSource] draft) := by
  unfold attachSource
  cases loaded : Settings.LineSettings.load scene.files site.environment spec.source.config with
  | error fault => simp only [follow, perform, loaded, conclude, sound.rejected]
  | ok settings =>
      cases opened : openSource spec.source site scene.files with
      | error fault => simp only [follow, perform, loaded, opened, conclude, sound.rejected]
      | ok source =>
          rcases configured : source.configure site.network settings with ⟨_ | fault, after⟩
          · simp only [follow, perform, loaded, opened, configured, conclude, Draft.withSource]
          · simp only [follow, perform, loaded, opened, configured, conclude, Draft.withSource, sound.rejected]

theorem attach_vector_follows (draft : Draft) (sound : draft.Sound) :
    attachVector spec.vector site scene.session draft.runner =
      conclude (follow (perform spec site scene) [.dialVector, .checkHealth] draft) := by
  unfold attachVector
  by_cases leaves : (spec.vector.type == "passthrough" || spec.vector.type == "") = true
  · have nothing : spec.vector.connection? site = none := by
      have other : (spec.vector.type == "grpc") = false := by
        simp only [Bool.or_eq_true, beq_iff_eq] at leaves
        rcases leaves with named | blank
        · rw [named]
          decide
        · rw [blank]
          decide
      simp only [VectorSpec.connection?, other, Bool.false_eq_true, if_false]
    simp only [leaves, if_true, follow, perform, nothing, conclude, Draft.withVector]
  · by_cases remote : (spec.vector.type == "grpc") = true
    · cases read : Vector.Target.ofText spec.vector.address with
      | error fault =>
          simp only [leaves, remote, Bool.false_eq_true, if_true, if_false, read, follow, perform, conclude,
            sound.rejected]
      | ok target =>
          have dialled : spec.vector.connection? site =
              some (.dial target (site.network.server spec.vector.address)) := by
            rw [VectorSpec.connection?, if_pos remote, read]
            rfl
          cases health :
              Vector.Connection.health (.dial target (site.network.server spec.vector.address)) scene.session with
          | none =>
              simp only [leaves, remote, Bool.false_eq_true, if_true, if_false, read, dialled, health, follow, perform,
                conclude, Draft.withVector]
          | some fault =>
              simp only [leaves, remote, Bool.false_eq_true, if_true, if_false, read, dialled, health, follow, perform,
                conclude, Draft.reject]
    · simp only [leaves, remote, Bool.false_eq_true, if_false, follow, perform, conclude, sound.rejected]

theorem open_sink_follows (name : String) (draft : Draft) (sound : draft.Sound) :
    match openSink spec site scene.files name with
    | .ok sink => follow (perform spec site scene) (Task.ofSink name) draft = (none, draft.withSink sink)
    | .error fault => conclude (follow (perform spec site scene) (Task.ofSink name) draft) =
        .error ⟨fault, draft.runner, none⟩ := by
  unfold openSink
  cases named : Sink.Kind.ofName name with
  | error fault =>
      by_cases known : site.otherSinks.contains name = true
      · simp only [Task.ofSink, follow, perform, named, known, if_true, conclude, sound.rejected]
      · simp only [Task.ofSink, follow, perform, named, known, Bool.false_eq_true, if_false, conclude, sound.rejected]
  | ok kind =>
      cases kind with
      | console => simp only [Task.ofSink, follow, perform, named]
      | topic =>
          unfold openTopicSink
          cases loaded : Settings.loadSinkTopic scene.files site.environment spec.topicConfig with
          | error fault => simp only [Task.ofSink, follow, perform, named, loaded, conclude, sound.rejected]
          | ok settings =>
              rcases configured : (Sink.Topic.onto site.network.exchange).configure settings with
                ⟨_ | fault, client, after⟩
              · simp only [Task.ofSink, follow, perform, named, loaded, configured]
              · simp only [Task.ofSink, follow, perform, named, loaded, configured, conclude, sound.rejected]

theorem attach_sinks_follows (names : List String) (draft : Draft) (sound : draft.Sound) :
    attachSinks spec site scene.files names draft.runner =
      conclude (follow (perform spec site scene) (names.flatMap Task.ofSink) draft) := by
  induction names generalizing draft with
  | nil => rfl
  | cons name rest ih =>
      have first := open_sink_follows spec site scene name draft sound
      rw [List.flatMap_cons, attachSinks]
      cases opened : openSink spec site scene.files name with
      | ok sink =>
          rw [opened] at first
          rw [follow_append_done _ _ _ _ _ first]
          exact ih (draft.withSink sink) ⟨sound.released, sound.rejected, sound.abandoned⟩
      | error fault =>
          rw [opened] at first
          rcases ended : follow (perform spec site scene) (Task.ofSink name) draft with ⟨_ | cause, left⟩
          · rw [ended] at first
            cases first
          · rw [ended] at first
            rw [follow_append_failed _ _ _ _ _ _ ended]
            exact first.symm

theorem conclude_append (first second : List Task) (draft : Draft) (next : Runner → Except Unfinished Runner)
    (follows : ∀ reached, follow (perform spec site scene) first draft = (none, reached) →
      next reached.runner = conclude (follow (perform spec site scene) second reached)) :
    (conclude (follow (perform spec site scene) first draft) >>= next) =
      conclude (follow (perform spec site scene) (first ++ second) draft) := by
  rcases ended : follow (perform spec site scene) first draft with ⟨_ | fault, reached⟩
  · rw [follow_append_done _ _ _ _ _ ended, ← follows reached ended]
    rfl
  · rw [follow_append_failed _ _ _ _ _ _ ended]
    rfl

theorem assemble_follows :
    assemble spec site scene = (conclude (follow (perform spec site scene) spec.tasks .blank)).map
      fun runner => { runner with publishing := spec.metrics } := by
  have attached : (attachSource spec.source site scene.files .empty >>= fun runner =>
      attachVector spec.vector site scene.session runner >>= attachSinks spec site scene.files spec.sinks) =
        conclude (follow (perform spec site scene) spec.tasks .blank) := by
    have source := attach_source_follows spec site scene .blank blank_sound
    rw [show Runner.empty = Draft.blank.runner from rfl, source, Spec.tasks]
    apply conclude_append
    intro sourced done
    -- A stage only hands its runner on; nothing is lost by that because it gave nothing up.
    obtain ⟨holds, sound⟩ := follow_holds _ done (blank_holds spec site scene) blank_sound
    rw [attach_vector_follows spec site scene sourced sound]
    apply conclude_append
    intro served done
    obtain ⟨_, sound⟩ := follow_holds _ done holds sound
    exact attach_sinks_follows spec site scene spec.sinks served sound
  rw [← attached]
  unfold assemble
  simp only [bind, Except.bind, pure, Except.pure]
  cases attachSource spec.source site scene.files .empty with
  | error unfinished => rfl
  | ok sourced =>
      dsimp only
      cases attachVector spec.vector site scene.session sourced with
      | error unfinished => rfl
      | ok served =>
          dsimp only
          cases attachSinks spec site scene.files spec.sinks served with
          | error unfinished => rfl
          | ok runner => rfl

theorem built_or_fails :
    (∃ done, follow (perform spec site scene) spec.tasks .blank = (none, done) ∧
      build spec site scene = .ok { done.runner with publishing := spec.metrics }) ∨
    ∃ before task fault left, FailsAt spec site scene before task fault left := by
  rcases follow_cases (perform spec site scene) spec.tasks .blank with
    ⟨done, all⟩ | ⟨before, task, after, reached, fault, left, split, passed, failed, _⟩
  · refine Or.inl ⟨done, all, ?_⟩
    rw [build, assemble_follows, all]
    rfl
  · exact Or.inr ⟨before, task, fault, left, ⟨after, by rw [split]; simp⟩, reached, passed, failed⟩

theorem failed_build_closes :
    ((∃ done, follow (perform spec site scene) spec.tasks .blank = (none, done) ∧
        build spec site scene = .ok { done.runner with publishing := spec.metrics }) ∨
      ∃ before task fault left, FailsAt spec site scene before task fault left) ∧
    ∀ before task fault left, FailsAt spec site scene before task fault left →
      let closing := undertake Runner.closeAt (attachedBy before) (left.runner, scene.output)
      let closed := closing.2.1
      build spec site scene = .error ⟨fault, closed.released, closing.2.2, left.rejected⟩ ∧
      Holds spec site scene before left ∧
      closed.released = (if task = .checkHealth then [.unhealthyClient] else []) ++ attachedBy before ∧
      closed.released.Nodup ∧
      closed.sinks.map Slot.closes = ((before.filterMap Task.sink?).map fun _ => 1) ∧
      closed.Shut ∧
      (∀ sink, left.abandoned = some sink → sink.Shut) ∧
      (task = .checkHealth → ∃ connection, spec.vector.connection? site = some connection ∧
        left.rejected = some connection.close.2 ∧ connection.close.2.isOpen = false) ∧
      (task ≠ .checkHealth → left.rejected = none) := by
  refine ⟨built_or_fails spec site scene, ?_⟩
  intro before task fault left fails closing closed
  obtain ⟨holds, halted⟩ := fails.leaves
  obtain ⟨ended, listed, apart, counted, shut⟩ := holds.close scene.output
  have built : build spec site scene = .error ⟨fault, closed.released, closing.2.2, left.rejected⟩ := by
    rw [build, assemble_follows, fails.follow]
    simp only [conclude, Except.map, ended]
    rfl
  refine ⟨built, holds, ?_, ?_, counted, shut, halted.abandoned, ?_, halted.kept⟩
  · rw [listed, halted.released]
  · rw [listed, halted.released]
    split
    · exact List.nodup_cons.mpr ⟨by simp [attachedBy], apart⟩
    · exact apart
  · intro checked
    obtain ⟨connection, dialled, rejected⟩ := halted.rejected checked
    exact ⟨connection, dialled, rejected, connection.close_shut⟩

end Tasks

def paged : Spec := { Spec.standard with vector := ⟨"grpc", "rewriter:443", 0, 0, 0⟩, sinks := ["stdout", "pager"] }

def attended : Site :=
  ⟨[], ⟨[], none⟩, { Network.none with server := fun _ => some (.start (some ⟨fun _ text => .row text⟩) []) }, []⟩

def desk : Scene := ⟨⟨[], []⟩, .unlimited, ⟨0, none, [], false⟩⟩

theorem unknown_sink_undoes :
    ∃ output, build paged attended desk =
      .error ⟨.plain ("unknown sink " ++ Text.quote "pager"), [.source, .vector, .sink 0], output, none⟩ := by
  let before : List Task :=
    [.loadSource, .createSource, .configureSource, .dialVector, .checkHealth] ++ Task.ofSink "stdout"
  let reached := (follow (perform paged attended desk) before .blank).2
  have passed : follow (perform paged attended desk) before .blank = (none, reached) :=
    Prod.ext (by decide +kernel) rfl
  have failed : perform paged attended desk (.createSink "pager") reached =
      (some (.plain ("unknown sink " ++ Text.quote "pager")), reached) := rfl
  obtain ⟨built, _, released, _, _, _, _, _, kept⟩ :=
    (failed_build_closes paged attended desk).2 before (.createSink "pager") _ reached
      ⟨⟨[.loadSink "pager", .configureSink "pager"], rfl⟩, reached, passed, failed⟩
  rw [kept nofun] at built
  exact ⟨_, released ▸ built⟩

end OpcodeTable.Pipeline
