import OpcodeTable.Pipeline.Document
import OpcodeTable.Proofs.EnvironmentOverFile
import OpcodeTable.Proofs.FailedBuild

/-!
The names that are accepted are those that building knows, but for one: a sink without a name passes,
because a rule on a choice says nothing about an empty text.
-/

set_option autoImplicit false

namespace OpcodeTable

theorem insert_filled (field : String) (problem : Problem) (report : Report) :
    (report.insert field problem).isEmpty = false := by
  cases report with
  | nil => rfl
  | cons first found rest =>
      rw [Report.insert]
      split <;> rfl

theorem report_blank_iff (complaints : List (String × Problem)) :
    (Report.ofList complaints).isEmpty = true ↔ complaints = [] := by
  rcases List.eq_nil_or_concat complaints with rfl | ⟨before, last, rfl⟩
  · simp [Report.ofList, Report.isEmpty]
  · simp [Report.ofList, insert_filled]

namespace Pipeline

theorem field_blank_iff (name : String) (problem : Option Problem) : field name problem = [] ↔ problem = none := by
  cases problem <;> simp [field]

theorem section_blank_iff (report : Report) : section? report = none ↔ report.isEmpty = true := by
  cases filled : report.isEmpty <;> simp [section?, filled]

theorem required_met_iff (text : String) : required text = none ↔ text ≠ "" := by
  simp [required]

theorem choice_met_iff (allowed : List String) (text : String) :
    choice allowed text = none ↔ text ∈ "" :: allowed := by
  by_cases blank : text = ""
  · simp [choice, blank]
  · simp [choice, blank]

theorem named_met_iff (allowed : List String) (text : String) (present : "" ∉ allowed) :
    (required text <|> choice allowed text) = none ↔ text ∈ allowed := by
  rw [Option.orElse_eq_orElse, Option.orElse_eq_or, Option.or_eq_none_iff, required_met_iff, choice_met_iff,
    List.mem_cons]
  constructor
  · rintro ⟨filled, blank | member⟩
    · exact absurd blank filled
    · exact member
  · intro member
    exact ⟨fun blank => present (blank ▸ member), Or.inr member⟩

theorem sink_problems_blank_iff (sinks : List String) :
    sinkProblems sinks = [] ↔ ∀ name ∈ sinks, name ∈ "" :: sinkNames := by
  simp only [sinkProblems, List.flatMap_eq_nil_iff, field_blank_iff, choice_met_iff]
  constructor
  · intro each name member
    obtain ⟨index, inside, here⟩ := List.getElem_of_mem member
    refine each (name, index) ?_
    rw [List.mem_zipIdx_iff_getElem?, ← here]
    exact List.getElem?_eq_getElem inside
  · rintro each ⟨name, index⟩ member
    exact each name (List.fst_mem_of_mem_zipIdx member)

structure Spec.Sound (names : List String) (spec : Spec) : Prop where
  source : spec.source.kind ∈ ["stdin", "file", "kafka"]
  vector : spec.vector.type ∈ ["passthrough", "grpc"]
  address : spec.vector.type = "grpc" → spec.vector.address ≠ ""
  timeout : 0 ≤ spec.vector.timeoutMs
  present : spec.sinks ≠ []
  sinks : ∀ name ∈ spec.sinks, name ∈ names

def sinkRegistry : List String := ["stdout", "kafka"]

theorem source_report_blank_iff (source : SourceSpec) :
    source.report.isEmpty = true ↔ source.kind ∈ ["stdin", "file", "kafka"] := by
  rw [SourceSpec.report, report_blank_iff, field_blank_iff, named_met_iff _ _ (by decide)]
  rfl

theorem vector_report_blank_iff (vector : VectorSpec) :
    vector.report.isEmpty = true ↔ vector.type ∈ ["passthrough", "grpc"] ∧
      (vector.type = "grpc" → vector.address ≠ "") ∧ 0 ≤ vector.timeoutMs := by
  have address : (if vector.type == "grpc" then required vector.address else none) = none ↔
      (vector.type = "grpc" → vector.address ≠ "") := by
    by_cases remote : vector.type = "grpc" <;> simp [remote, required_met_iff]
  have timeout : (if vector.timeoutMs < 0 then some (Problem.belowMinimum 0) else none) = none ↔
      0 ≤ vector.timeoutMs := by
    simp
  rw [VectorSpec.report, report_blank_iff, List.append_eq_nil_iff, List.append_eq_nil_iff, field_blank_iff,
    field_blank_iff, field_blank_iff, named_met_iff _ _ (by decide), address, timeout, and_assoc]
  rfl

theorem sinks_problem_blank_iff (sinks : List String) :
    sinksProblem sinks = none ↔ sinks ≠ [] ∧ ∀ name ∈ sinks, name ∈ "" :: sinkRegistry := by
  rw [sinksProblem]
  by_cases blank : sinks = []
  · simp [blank]
  · rw [if_neg (by simpa using blank), section_blank_iff, report_blank_iff, sink_problems_blank_iff]
    exact (and_iff_right blank).symm

theorem report_sound_iff (spec : Spec) : spec.report.isEmpty = true ↔ spec.Sound ("" :: sinkRegistry) := by
  rw [Spec.report, report_blank_iff, List.append_eq_nil_iff, List.append_eq_nil_iff, field_blank_iff,
    field_blank_iff, field_blank_iff, section_blank_iff, section_blank_iff, source_report_blank_iff,
    vector_report_blank_iff, sinks_problem_blank_iff]
  constructor
  · rintro ⟨⟨source, vector, address, timeout⟩, present, sinks⟩
    exact ⟨source, vector, address, timeout, present, sinks⟩
  · rintro ⟨source, vector, address, timeout, present, sinks⟩
    exact ⟨⟨source, vector, address, timeout⟩, present, sinks⟩

namespace Spec

def DescribedBy (files : Files) (path : String) (described : Spec) : Prop :=
  ∃ content node, files.read path = .ok content ∧ Yaml.Node.read content = some node ∧ ofNode node = .ok described

def completed (described : Spec) : Spec := { described with schemaVersion := "v1" }.withDefaults

theorem load_described (files : Files) (path : String) (described : Spec)
    (parsed : described.DescribedBy files path) : load files path = accept path described := by
  obtain ⟨content, node, readable, document, decoded⟩ := parsed
  simp only [load, readable, document, decoded]

theorem accept_completed (path : String) (described : Spec)
    (version : described.schemaVersion = "" ∨ described.schemaVersion = "v1") :
    accept path described =
      if described.completed.report.isEmpty then .ok (described.completed.resolvePaths (Path.directory path))
      else .error (.context ("pipeline " ++ path ++ ": ") (.invalid described.completed.report)) := by
  have supported : (if described.schemaVersion == "" then Settings.supportedSchema else described.schemaVersion) =
      "v1" := by
    rcases version with blank | given
    · rw [blank]
      rfl
    · rw [given]
      rfl
  rw [accept, supported]
  rfl

theorem load_accepted_iff (files : Files) (path : String) (described : Spec)
    (parsed : described.DescribedBy files path)
    (version : described.schemaVersion = "" ∨ described.schemaVersion = "v1") :
    load files path = .ok (described.completed.resolvePaths (Path.directory path)) ↔
      described.completed.Sound ("" :: sinkRegistry) := by
  rw [load_described files path described parsed, accept_completed path described version, ← report_sound_iff]
  by_cases blank : described.completed.report.isEmpty = true
  · exact iff_of_true (if_pos blank) blank
  · refine iff_of_false ?_ blank
    rw [if_neg blank]
    nofun

theorem accept_supported (path : String) (described spec : Spec) (accepted : accept path described = .ok spec) :
    described.schemaVersion = "" ∨ described.schemaVersion = "v1" := by
  let version := if described.schemaVersion == "" then Settings.supportedSchema else described.schemaVersion
  have supported : version = "v1" := by
    by_cases same : version = "v1"
    · exact same
    · have refused : accept path described = .error (unsupported version) := if_pos (bne_iff_ne.mpr same)
      rw [refused] at accepted
      cases accepted
  by_cases blank : described.schemaVersion = ""
  · exact Or.inl blank
  · exact Or.inr ((if_neg (by simpa using blank)).symm.trans supported)

theorem load_sound (files : Files) (path : String) (spec : Spec) (loaded : load files path = .ok spec) :
    spec.Sound ("" :: sinkRegistry) := by
  rw [load] at loaded
  split at loaded
  · cases loaded
  · split at loaded
    · cases loaded
    · split at loaded
      · cases loaded
      · rename_i described _
        rw [accept_completed path described (accept_supported path described spec loaded)] at loaded
        split at loaded
        · rename_i blank
          cases loaded
          obtain ⟨source, vector, address, timeout, present, sinks⟩ := (report_sound_iff _).mp blank
          exact ⟨source, vector, address, timeout, present, sinks⟩
        · cases loaded

end Spec

inductive NamesUnknown : Fault → Prop
  | source (kind : String) : NamesUnknown (.plain ("lines: unsupported source " ++ Text.quote kind))
  | vector (type : String) : NamesUnknown (unsupported type)
  | sink (name : String) : NamesUnknown (.plain ("unknown sink " ++ Text.quote name))
  | block (name : String) (other : name ∉ sinkRegistry) : NamesUnknown (inSink name (noBlock name))

inductive Blames (spec : Spec) : Fault → Prop
  | misuse : Blames spec .misuse
  | source (cause : Fault) : Blames spec (inSource spec.source.kind cause)
  | dial (cause : Fault) : Blames spec (undialled spec.vector.address cause)
  | health (cause : Fault) : Blames spec (unhealthy spec.vector.address cause)
  | sink (name : String) (listed : name ∈ spec.sinks) (cause : Fault) : Blames spec (inSink name cause)

theorem unknown_context (before : String) (cause : Fault) (unknown : NamesUnknown (.context before cause)) :
    ∃ name, name ∉ sinkRegistry ∧ before = "sink " ++ name ++ ": " := by
  generalize whole : Fault.context before cause = fault at unknown
  cases unknown with
  | source kind => cases whole
  | vector type => cases whole
  | sink name => cases whole
  | block name other =>
      rw [Fault.context, inSink, Fault.context] at whole
      exact ⟨name, other, (Fault.within.inj whole).1⟩

theorem blames_known (spec : Spec) (fault : Fault) (sinks : ∀ name ∈ spec.sinks, name ∈ sinkRegistry)
    (blames : Blames spec fault) : ¬ NamesUnknown fault := by
  intro unknown
  cases blames with
  | misuse => cases unknown
  | source cause =>
      obtain ⟨name, _, same⟩ := unknown_context _ cause unknown
      simp [← String.toList_inj] at same
  | dial cause =>
      obtain ⟨name, _, same⟩ := unknown_context _ cause unknown
      simp [← String.toList_inj] at same
  | health cause =>
      obtain ⟨name, _, same⟩ := unknown_context _ cause unknown
      simp [← String.toList_inj] at same
  | sink known listed cause =>
      obtain ⟨name, other, same⟩ := unknown_context _ cause unknown
      have equal : known = name := by
        simpa [← String.toList_inj] using same
      exact other (equal ▸ sinks known listed)

theorem sink_known (name : String) (known : name ∈ sinkRegistry) : ∃ kind, Sink.Kind.ofName name = .ok kind := by
  simp only [sinkRegistry, List.mem_cons, List.not_mem_nil, or_false] at known
  rcases known with rfl | rfl
  · exact ⟨.console, rfl⟩
  · exact ⟨.topic, rfl⟩

section Building

variable (spec : Spec) (site : Site) (scene : Scene)

theorem open_source_blames (source : spec.source.kind ∈ ["stdin", "file", "kafka"]) (fault : Fault)
    (failed : openSource spec.source site scene.files = .error fault) : Blames spec fault := by
  rw [openSource] at failed
  split at failed
  · split at failed
    · cases failed
      exact .source _
    · cases failed
  · rename_i lines
    simp only [List.mem_cons, List.not_mem_nil, or_false] at source
    rcases source with named | named | named
    · rw [named] at failed
      cases failed
    · rw [named] at failed
      cases failed
    · exact absurd (by rw [named]; rfl) lines

theorem listed_sink (task : Task) (name : String) (made : task ∈ Task.ofSink name) (listed : task ∈ spec.tasks) :
    name ∈ spec.sinks := by
  simp only [Task.ofSink, List.mem_cons, List.not_mem_nil, or_false] at made
  rcases made with rfl | rfl | rfl <;> simpa [Spec.tasks, Task.ofSink] using listed

section Known

variable (source : spec.source.kind ∈ ["stdin", "file", "kafka"]) (vector : spec.vector.type ∈ ["passthrough", "grpc"])
  (sinks : ∀ name ∈ spec.sinks, name ∈ sinkRegistry)

include source vector sinks

theorem refusal_blames (task : Task) (listed : task ∈ spec.tasks) (fault : Fault)
    (refusal : Refusal spec site scene task fault) : Blames spec fault := by
  cases refusal with
  | settings cause => exact .source cause
  | source fault failed => exact open_source_blames spec site scene source fault failed
  | sourceless => exact .misuse
  | dial cause => exact .dial cause
  | type other =>
      simp only [List.mem_cons, List.not_mem_nil, or_false] at vector other
      exact absurd (vector.imp_right Or.inr) other
  | sink name fault failed =>
      have here := listed_sink spec _ name (by simp [Task.ofSink]) listed
      obtain ⟨kind, known⟩ := sink_known name (sinks name here)
      rw [known] at failed
      cases failed
  | sinkSettings name cause => exact .sink name (listed_sink spec _ name (by simp [Task.ofSink]) listed) cause
  | sinkless name => exact .misuse

theorem perform_blames (task : Task) (listed : task ∈ spec.tasks) (draft left : Draft) (fault : Fault)
    (failed : perform spec site scene task draft = (some fault, left)) : Blames spec fault := by
  cases perform_failed spec site scene task draft left fault failed with
  | refused task fault refusal => exact refusal_blames spec site scene source vector sinks task listed fault refusal
  | unconfigured cause source after present => exact .source cause
  | rejected cause connection dialled => exact .health cause
  | abandoned cause name sink shut => exact .sink name (listed_sink spec _ name (by simp [Task.ofSink]) listed) cause

end Known

theorem build_failed (failed : Failed) (built : build spec site scene = .error failed) :
    ∃ task ∈ spec.tasks, ∃ draft left, perform spec site scene task draft = (some failed.fault, left) := by
  rw [build, assemble_follows] at built
  rcases follow_cases (perform spec site scene) spec.tasks .blank with
    ⟨done, all⟩ | ⟨before, task, after, reached, fault, left, split, _, stopped, ended⟩
  · rw [all] at built
    cases built
  · rw [ended] at built
    refine ⟨task, by simp [split], reached, left, ?_⟩
    rw [stopped, ← Except.error.inj built]

theorem done_each (tasks : List Task) (draft done : Draft)
    (all : follow (perform spec site scene) tasks draft = (none, done)) :
    ∀ task ∈ tasks, ∃ before after, perform spec site scene task before = (none, after) := by
  induction tasks generalizing draft with
  | nil => nofun
  | cons task rest ih =>
      rcases step : perform spec site scene task draft with ⟨_ | fault, after⟩
      · rw [follow_next _ task rest draft after step] at all
        exact List.forall_mem_cons.mpr ⟨⟨draft, after, step⟩, ih after all⟩
      · rw [follow_failed _ task rest draft after fault step] at all
        cases all

-- A sink without a name has no settings, whatever else is known of it.
theorem nameless_fails (nameless : "" ∈ spec.sinks) : ∃ failed, build spec site scene = .error failed := by
  cases built : build spec site scene with
  | error failed => exact ⟨failed, rfl⟩
  | ok runner =>
      rcases built_or_fails spec site scene with ⟨done, all, _⟩ | ⟨before, task, fault, left, fails⟩
      · have listed : Task.loadSink "" ∈ spec.tasks := by simp [Spec.tasks, Task.ofSink, nameless]
        obtain ⟨draft, after, passed⟩ := done_each spec site scene _ _ _ all _ listed
        cases passed
      · rw [build, assemble_follows, fails.follow] at built
        cases built

end Building

-- Which descriptions are accepted, where that differs from the names that can be built, and what building
-- makes of an accepted one.
theorem accepted_known_iff (files : Files) (path : String) (described : Spec)
    (parsed : described.DescribedBy files path)
    (version : described.schemaVersion = "" ∨ described.schemaVersion = "v1") :
    let spec := described.completed.resolvePaths (Path.directory path)
    let accepted := Spec.load files path = .ok spec
    (accepted ∨ ∃ report, Spec.load files path = .error (.context ("pipeline " ++ path ++ ": ") (.invalid report))) ∧
      (accepted ↔ described.completed.Sound ("" :: sinkRegistry)) ∧
      ((accepted ↔ described.completed.Sound sinkRegistry) ↔ ¬ (accepted ∧ "" ∈ described.sinks)) ∧
      (accepted → ∀ site scene,
        ("" ∉ described.sinks → ∀ failed, build spec site scene = .error failed → ¬ NamesUnknown failed.fault) ∧
          ("" ∈ described.sinks → ∃ failed, build spec site scene = .error failed)) := by
  intro spec accepted
  have sound : accepted ↔ described.completed.Sound ("" :: sinkRegistry) :=
    Spec.load_accepted_iff files path described parsed version
  have named : described.completed.Sound sinkRegistry ↔ accepted ∧ "" ∉ described.sinks := by
    rw [sound]
    constructor
    · rintro ⟨source, vector, address, timeout, present, sinks⟩
      exact ⟨⟨source, vector, address, timeout, present, fun name member => List.mem_cons_of_mem _ (sinks name member)⟩,
        fun nameless => absurd (sinks "" nameless) (by decide)⟩
    · rintro ⟨⟨source, vector, address, timeout, present, sinks⟩, filled⟩
      refine ⟨source, vector, address, timeout, present, fun name member => ?_⟩
      exact (List.mem_cons.mp (sinks name member)).resolve_left fun blank => filled (blank ▸ member)
  refine ⟨?_, sound, ?_, ?_⟩
  · have loaded := Spec.load_described files path described parsed
    rw [Spec.accept_completed path described version] at loaded
    split at loaded
    · exact Or.inl loaded
    · exact Or.inr ⟨_, loaded⟩
  · rw [named, iff_self_and, not_and]
  · intro given site scene
    constructor
    · intro filled failed built
      obtain ⟨task, listed, draft, left, stopped⟩ := build_failed spec site scene failed built
      have known := named.mpr ⟨given, filled⟩
      exact blames_known spec _ known.sinks
        (perform_blames spec site scene known.source known.vector known.sinks task listed draft left _ stopped)
    · exact nameless_fails spec site scene

theorem described_by_file (content : String) (described : Spec)
    (decoded : ((Yaml.Node.read (ascii content)).bind fun node => (Spec.ofNode node).toOption) = some described) :
    described.DescribedBy (Settings.settingsFile content) "s" := by
  obtain ⟨node, document, given⟩ := Option.bind_eq_some_iff.mp decoded
  exact ⟨_, node, Settings.settings_file_found content, document, ok_of_given _ described given⟩

def remote : Spec :=
  { Spec.empty with vector := ⟨"grpc", "rewriter:443", 0, 0, 0⟩, sinks := ["kafka", "stdout"] }

def remoteText : String := "vector:\n  type: grpc\n  address: rewriter:443\nsinks: [kafka, stdout]\n"

theorem remote_known :
    remote.DescribedBy (Settings.settingsFile remoteText) "s" ∧ remote.schemaVersion = "" ∧
      Spec.load (Settings.settingsFile remoteText) "s" = .ok (remote.completed.resolvePaths (Path.directory "s")) ∧
      ∀ site scene failed, build (remote.completed.resolvePaths (Path.directory "s")) site scene = .error failed →
        ¬ NamesUnknown failed.fault := by
  have described : remote.DescribedBy (Settings.settingsFile remoteText) "s" :=
    described_by_file remoteText remote (by decide +kernel)
  obtain ⟨_, sound, _, building⟩ := accepted_known_iff _ "s" remote described (Or.inl rfl)
  have accepted := sound.mpr ⟨by decide, by decide, by decide, by decide, by decide, by decide⟩
  exact ⟨described, rfl, accepted, fun site scene => (building accepted site scene).1 (by decide)⟩

def nameless : Spec := { Spec.standard with sinks := [""] }

def namelessText : String := "sinks: [\"\"]\n"

theorem nameless_sink_accepted :
    Spec.load (Settings.settingsFile namelessText) "s" = .ok nameless ∧ ¬ nameless.Sound sinkRegistry ∧
      ∃ failed, build nameless attended desk = .error failed ∧
        failed.fault = .plain ("unknown sink " ++ Text.quote "") := by
  refine ⟨?_, fun sound => absurd (sound.sinks "" (by decide)) (by decide), ?_⟩
  · have described : Spec.DescribedBy (Settings.settingsFile namelessText) "s" { Spec.empty with sinks := [""] } :=
      described_by_file namelessText _ (by decide +kernel)
    rw [Spec.load_described _ _ _ described]
    rfl
  · let before : List Task := [.loadSource, .createSource, .configureSource, .dialVector, .checkHealth]
    let reached := (follow (perform nameless attended desk) before .blank).2
    have passed : follow (perform nameless attended desk) before .blank = (none, reached) :=
      Prod.ext (by decide +kernel) rfl
    have fails : FailsAt nameless attended desk before (.createSink "") (.plain ("unknown sink " ++ Text.quote ""))
        reached := ⟨⟨[.loadSink "", .configureSink ""], rfl⟩, reached, passed, rfl⟩
    exact ⟨_, by rw [build, assemble_follows, fails.follow]; rfl, rfl⟩

end Pipeline

end OpcodeTable
