import OpcodeTable.Engine
import OpcodeTable.Proofs.BufferedOutput
import OpcodeTable.Proofs.LineReading
import OpcodeTable.Proofs.Transform

set_option autoImplicit false

namespace OpcodeTable

namespace Settings

theorem source_layer_unset (environment : Environment)
    (unset : ∀ entry ∈ environment, entry.1.startsWith "OPTAB_" = false) :
    LineSettings.environmentLayer environment = [] := by
  have marked : "OPTAB_".toList <+: "OPTAB_SOURCE__".toList := by decide
  have nothing : bindings "OPTAB_SOURCE__" [] environment = [] := by
    unfold bindings
    rw [List.filterMap_eq_nil_iff.mpr, List.mergeSort_nil]
    rintro ⟨name, text⟩ member
    have other := String.startsWith_string_eq_false_iff.mp (unset (name, text) member)
    have unmarked : name.startsWith "OPTAB_SOURCE__" = false := by
      rw [String.startsWith_string_eq_false_iff]
      exact fun longer => other (marked.trans longer)
    simp [unmarked]
  rw [LineSettings.environmentLayer, ofEnvironment, nothing, List.foldl_nil]

theorem line_settings_default (files : Files) (environment : Environment)
    (unset : ∀ entry ∈ environment, entry.1.startsWith "OPTAB_" = false) :
    LineSettings.load files environment "" = .ok ⟨"", Source.defaultLimit⟩ := by
  have file : ofFile files "" = .ok [] := rfl
  have layer : overlay [] (LineSettings.environmentLayer environment) = [] := by
    rw [source_layer_unset environment unset, overlay]
  unfold LineSettings.load
  rw [file]
  simp only [bind, Except.bind, layer]
  rfl

end Settings

namespace Batch

def echo {σ : Type} (row : Bytes) (state : σ) : Answer σ := ⟨.ok row, state, []⟩

def settledRow (row : Bytes) : Option Bytes :=
  match Row.classify row with
  | .plain => some (Rule.normalize row)
  | .vector => some row
  | _ => none

theorem echo_answered {σ : Type} (rows : List Bytes) (state : σ) :
    Answered (some echo) rows state ∧ texts (exchanges (some echo) rows state) = rows := by
  induction rows with
  | nil => exact ⟨⟨rfl, by simp [exchanges]⟩, rfl⟩
  | cons row rest ih =>
      obtain ⟨served, same⟩ := ih
      refine ⟨(answered_cons (some echo) row rest state).mpr ⟨echo, row, rfl, rfl, served⟩, ?_⟩
      rw [exchanges_cons echo row rest state row rfl]
      rw [texts] at same
      rw [texts, List.filterMap_cons]
      exact congrArg (row :: ·) same

theorem weave_settled (rows : List Bytes) : weave rows (vectorRows rows) = rows.filterMap settledRow := by
  induction rows with
  | nil => rfl
  | cons row rest ih =>
      cases classified : Row.classify row with
      | vector =>
          rw [vector_rows_take row rest classified]
          simp [weave, settledRow, classified, ih]
      | plain | empty | leadingChar | rexMark =>
          rw [vector_rows_skip row rest _ classified (by decide)]
          simp [weave, settledRow, classified, ih]

theorem transform_echo {σ : Type} (rows : List Bytes) (state : σ) :
    (transform (some echo) rows state).outcome = .ok (rows.filterMap settledRow) := by
  obtain ⟨served, same⟩ := echo_answered (vectorRows rows) state
  have completed := transform_completed (some echo) rows state served
  rw [completed.outcome, same, weave_settled]

end Batch

namespace Metrics

theorem add_count (counter : Counter) (count : Nat) : counter.add? count = some (counter.add count) := by
  rw [Counter.add?, if_neg (Int.not_lt.mpr (Int.natCast_nonneg count)), Int.toNat_natCast]

namespace Registry

theorem drop_all_counts (counts : List (String × Nat)) (registry : Registry) :
    (dropAll (counts.map fun entry => (entry.1, (entry.2 : Int))) registry).1 = none := by
  induction counts generalizing registry with
  | nil => rfl
  | cons entry rest ih =>
      simp only [List.map_cons, dropAll, drop, add_count]
      exact ih _

-- What a batch counts is never negative, so that the counters take it.
theorem observe_tally (registry : Registry) (tally : Tally) (moment : Moment) :
    (registry.observe (.ofTally tally) moment).1 = none := by
  have reasons : (Sample.ofTally tally).dropped =
      (tally.reasons.map fun reason => (reason.1.name, reason.2)).map fun entry => (entry.1, (entry.2 : Int)) := by
    rw [List.map_map]
    rfl
  simp only [observe, reasons]
  simp only [Sample.ofTally, add_count]
  split
  · rename_i refused
    rw [← refused, drop_all_counts]
  · rfl

end Registry

end Metrics

namespace Pipeline

def standardSource (input : Source.Stream) : Source.Lines := ⟨.given, "", Source.defaultLimit, some input⟩

def standardRunner (input : Source.Stream) : Runner :=
  { Runner.empty with
    source := some (.lines (standardSource input))
    sinks := [.fresh (.console (.onto .unlimited))] }

theorem build_standard (site : Site) (scene : Scene)
    (unset : ∀ entry ∈ site.environment, entry.1.startsWith "OPTAB_" = false) :
    build .standard site scene = .ok (standardRunner site.input) := by
  have settings := Settings.line_settings_default scene.files site.environment unset
  have source : attachSource Spec.standard.source site scene.files .empty =
      .ok { Runner.empty with source := some (.lines (standardSource site.input)) } := by
    unfold attachSource
    rw [show Spec.standard.source.config = "" from rfl, settings]
    rfl
  unfold build assemble
  rw [source]
  rfl

structure Closable (runner : Runner) : Prop where
  running : runner.closed = false
  source : ∃ lines, runner.source = some (.lines lines)
  vector : runner.vector = .passthrough

theorem close_closable (runner : Runner) (device : Sink.Device) (counter : Bool) (contents : Bytes)
    (closable : Closable runner) (printing : Printing runner.sinks device counter contents) :
    (runner.close device).fault = none ∧ (runner.close device).output.written = contents := by
  obtain ⟨lines, source⟩ := closable.source
  obtain ⟨fault, written⟩ := close_printing 0 runner.sinks device counter contents printing
  simp only [Runner.close, closable.running, Runner.closeSource, source, RowSource.close, Runner.closeVector,
    closable.vector, Vector.Client.close, Runner.closeSinks, fault, Fault.join]
  exact ⟨rfl, written⟩

theorem hand_over_printing (runner : Runner) (scene : Scene) (moment : Metrics.Moment) (tally : Tally)
    (rows : List Bytes) (logs : List Log.Entry) (counter : Bool) (contents : Bytes) (closable : Closable runner)
    (printing : Printing runner.sinks scene.output counter contents) :
    let ran := runner.handOver scene moment tally rows logs
    ran.fault = none ∧ Closable ran.runner ∧ Printing ran.runner.sinks ran.scene.output counter
      (contents ++ (numbered rows).flatMap (Sink.rendered counter)) := by
  obtain ⟨delivered, printed⟩ :=
    deliver_printing (numbered rows) runner.sinks scene.output counter contents printing
  have observed := runner.metrics.observe_tally tally moment
  unfold Runner.handOver
  simp only [delivered]
  split
  · rename_i fault metrics refused
    rw [refused] at observed
    cases observed
  · exact ⟨rfl, ⟨closable.running, closable.source, closable.vector⟩, printed⟩

theorem rewrite_echo (runner : Runner) (vector : runner.vector = .passthrough) (policy : runner.policy = .none) :
    runner.rewrite = Batch.echo := by
  funext row session
  simp only [Runner.rewrite, vector, policy]
  rfl

theorem process_printing (runner : Runner) (scene : Scene) (moment : Metrics.Moment) (rows : List Bytes)
    (logs : List Log.Entry) (counter : Bool) (contents : Bytes) (closable : Closable runner)
    (policy : runner.policy = .none) (printing : Printing runner.sinks scene.output counter contents) :
    let ran := runner.process scene moment rows logs
    ran.fault = none ∧ Closable ran.runner ∧ Printing ran.runner.sinks ran.scene.output counter
      (contents ++ (numbered (rows.filterMap Batch.settledRow)).flatMap (Sink.rendered counter)) := by
  have outcome := Batch.transform_echo rows scene.session
  unfold Runner.process
  simp only [rewrite_echo runner closable.vector policy, outcome]
  exact hand_over_printing runner _ moment _ _ _ counter contents closable printing

theorem numbered_rendered (seq : Nat) (rows : List Bytes) :
    (numberedFrom seq rows).flatMap (Sink.rendered false) = rows.flatMap (· ++ [Bytes.newline]) := by
  induction rows generalizing seq with
  | nil => rfl
  | cons row rest ih =>
      rw [numberedFrom, List.flatMap_cons, List.flatMap_cons, ih (seq + 1)]
      rfl

def standardText (lines : List Bytes) : Bytes :=
  ((lines.map Source.dropReturn).filterMap Batch.settledRow).flatMap (· ++ [Bytes.newline])

theorem standard_printing (input : Source.Stream) (device : Sink.Device) (accepting : device.room = none) :
    Printing (standardRunner input).sinks device false device.written := by
  exact ⟨_, _, rfl, rfl, rfl, accepting, Sink.Writer.onto_carries device⟩

def standardRead (input : Source.Stream) (reason : Fault) : Source.Report × Source.Lines :=
  (standardSource input).runOn input ⟨false, reason⟩ .all

def drainedRunner (input : Source.Stream) (reason : Fault) : Runner :=
  { standardRunner input with source := some (.lines (standardRead input reason).2) }

theorem drained_closable (input : Source.Stream) (reason : Fault) : Closable (drainedRunner input reason) :=
  ⟨rfl, ⟨_, rfl⟩, rfl⟩

section Waiting

variable (input : Source.Stream) (scene : Scene) (moment : Metrics.Moment) (reason : Fault)
  (waits : scene.session.asker = ⟨false, reason⟩)

include waits

theorem run_standard :
    (standardRunner input).run scene moment =
      match (standardRead input reason).1.fault with
      | some fault =>
          ⟨some (.context "source: " fault), .zero, drainedRunner input reason, scene,
            (standardRead input reason).1.logs⟩
      | none =>
          (drainedRunner input reason).process scene moment (standardRead input reason).1.rows
            (standardRead input reason).1.logs := by
  have read : (RowSource.lines (standardSource input)).run scene.files scene.session.asker =
      ((standardRead input reason).1, .lines (standardRead input reason).2) := by
    rw [waits]
    rfl
  unfold Runner.run
  simp only [standardRunner, read]
  rfl

theorem run_fitting (accepting : scene.output.room = none) (complete : input.ending = none)
    (short : ∀ line ∈ Source.linesOf input.left, line.length < Source.defaultLimit) :
    let ran := (standardRunner input).run scene moment
    ran.fault = none ∧ Closable ran.runner ∧ Printing ran.runner.sinks ran.scene.output false
      (scene.output.written ++ standardText (Source.linesOf input.left)) := by
  obtain ⟨rows, fault⟩ := (standardSource input).run_on_fitting input reason complete short
  rw [run_standard input scene moment reason waits, standardRead, fault, rows, standardText,
    ← numbered_rendered 0 (((Source.linesOf input.left).map Source.dropReturn).filterMap Batch.settledRow)]
  exact process_printing (drainedRunner input reason) scene moment _ _ false scene.output.written
    (drained_closable input reason) rfl (standard_printing input scene.output accepting)

theorem run_overrun (before after : List Bytes) (long : Bytes) (accepting : scene.output.room = none)
    (lines : Source.linesOf input.left = before ++ long :: after)
    (short : ∀ line ∈ before, line.length < Source.defaultLimit) (overrun : Source.defaultLimit ≤ long.length) :
    let ran := (standardRunner input).run scene moment
    ran.fault = some (.context "source: " (Source.tooLong before.length)) ∧ Closable ran.runner ∧
      Printing ran.runner.sinks ran.scene.output false scene.output.written := by
  have fault := (standardSource input).run_on_too_long input reason before after long lines short overrun
  rw [run_standard input scene moment reason waits, standardRead, fault]
  exact ⟨rfl, drained_closable input reason, standard_printing input scene.output accepting⟩

end Waiting

end Pipeline

namespace Engine

open Pipeline

theorem bootstrap_standard (site : Site) (scene : Scene)
    (unset : ∀ entry ∈ site.environment, entry.1.startsWith "OPTAB_" = false) :
    bootstrap "" site scene = .ok ⟨standardRunner site.input⟩ := by
  have described : describe "" scene.files = .ok .standard := rfl
  rw [bootstrap, described]
  simp only
  rw [build_standard site scene unset]

theorem publish_kept (executed : Executed) (network : Network) :
    (publish executed network).fault = executed.fault ∧
      (publish executed network).scene.output = executed.scene.output := by
  unfold publish
  split
  · exact ⟨rfl, rfl⟩
  · exact ⟨rfl, rfl⟩

theorem run_printed (engine : Engine) (network : Network) (scene : Scene) (moment : Metrics.Moment)
    (counter : Bool) (contents : Bytes) (closable : Closable (engine.runner.run scene moment).runner)
    (printing : Printing (engine.runner.run scene moment).runner.sinks
      (engine.runner.run scene moment).scene.output counter contents) :
    (engine.run network scene moment).fault = (engine.runner.run scene moment).fault ∧
      (engine.run network scene moment).scene.output.written = contents := by
  obtain ⟨fault, written⟩ := close_closable _ _ counter contents closable printing
  obtain ⟨sameFault, sameOutput⟩ := publish_kept (engine.execute scene moment) network
  rw [run, sameFault, sameOutput]
  refine ⟨?_, written⟩
  simp only [execute, fault]
  cases (engine.runner.run scene moment).fault with
  | none => rfl
  | some fault => rfl

theorem first_overrun (limit : Nat) (lines : List Bytes) (overrun : ∃ line ∈ lines, limit ≤ line.length) :
    ∃ before long after, lines = before ++ long :: after ∧ (∀ line ∈ before, line.length < limit) ∧
      limit ≤ long.length := by
  obtain ⟨line, member, long⟩ := overrun
  have found : (lines.find? fun line => decide (limit ≤ line.length)).isSome := by
    rw [List.find?_isSome]
    exact ⟨line, member, decide_eq_true long⟩
  obtain ⟨first, located⟩ := Option.isSome_iff_exists.mp found
  obtain ⟨tooLong, before, after, split, short⟩ := List.find?_eq_some_iff_append.mp located
  refine ⟨before, first, after, split, ?_, of_decide_eq_true tooLong⟩
  intro line earlier
  have fits := short line earlier
  simp only [Bool.not_eq_true', decide_eq_false_iff_not] at fits
  omega

theorem standard_output (site : Site) (network : Network) (scene : Scene) (moment : Metrics.Moment)
    (unset : ∀ entry ∈ site.environment, entry.1.startsWith "OPTAB_" = false)
    (complete : site.input.ending = none) (live : scene.session.isOver = false)
    (accepting : scene.output.room = none) :
    ∃ engine, bootstrap "" site scene = .ok engine ∧
      let executed := engine.run network scene moment
      let lines := Source.linesOf site.input.left
      ((∀ line ∈ lines, line.length < Source.defaultLimit) → executed.fault = none ∧
        executed.scene.output.written = scene.output.written ++ standardText lines) ∧
      ((∃ line ∈ lines, Source.defaultLimit ≤ line.length) →
        (∃ fault, executed.fault = some fault ∧ fault.causes = [.lineTooLong]) ∧
        executed.scene.output.written = scene.output.written) := by
  have waits : scene.session.asker = ⟨false, scene.session.reason⟩ := by rw [Vector.Session.asker, live]
  refine ⟨⟨standardRunner site.input⟩, bootstrap_standard site scene unset, ?_, ?_⟩
  · intro short
    obtain ⟨fault, closable, printing⟩ := run_fitting site.input scene moment _ waits accepting complete short
    obtain ⟨sameFault, written⟩ :=
      run_printed ⟨standardRunner site.input⟩ network scene moment false _ closable printing
    exact ⟨sameFault.trans fault, written⟩
  · intro overrun
    obtain ⟨before, long, after, split, short, tooLong⟩ := first_overrun _ _ overrun
    obtain ⟨fault, closable, printing⟩ :=
      run_overrun site.input scene moment _ waits before after long accepting split short tooLong
    obtain ⟨sameFault, written⟩ :=
      run_printed ⟨standardRunner site.input⟩ network scene moment false _ closable printing
    exact ⟨⟨_, sameFault.trans fault, rfl⟩, written⟩

def quietScene : Scene := ⟨⟨[], []⟩, .unlimited, .start⟩

def bareSite (input : Source.Stream) : Site := ⟨[("HOME", "/root")], input, .none, []⟩

def dribble : Source.Stream := ⟨[ascii "REX.W + 03", ascii " /r\r\nVEX x", ascii "mm1\n\nnote"], none⟩

def flood : Source.Stream := ⟨[ascii "0F A2\n", List.replicate Source.defaultLimit 0x41], none⟩

theorem flood_overruns : ∃ line ∈ Source.linesOf flood.left, Source.defaultLimit ≤ line.length := by
  have text : flood.left = ascii "0F A2" ++ Bytes.newline :: List.replicate Source.defaultLimit 0x41 := by
    simp only [flood, Source.Stream.left, List.flatten_cons, List.flatten_nil, List.append_nil]
    rfl
  have unbroken : Bytes.newline ∉ List.replicate Source.defaultLimit (0x41 : UInt8) := by
    intro member
    have same := List.eq_of_mem_replicate member
    revert same
    decide
  refine ⟨List.replicate Source.defaultLimit 0x41, ?_, Nat.le_of_eq List.length_replicate.symm⟩
  rw [text, Source.lines_of_line _ _ (by decide), Source.lines_of_unbroken _ unbroken]
  · exact List.mem_cons_of_mem _ List.mem_cons_self
  · apply List.ne_nil_of_length_pos
    rw [List.length_replicate]
    decide

theorem standard_output_reached :
    (∃ engine, bootstrap "" (bareSite dribble) quietScene = .ok engine ∧
      (engine.run .none quietScene ⟨0, 0⟩).fault = none ∧
      (engine.run .none quietScene ⟨0, 0⟩).scene.output.written = ascii "/rw03\nVEX xmm1\n") ∧
    ∃ engine, bootstrap "" (bareSite flood) quietScene = .ok engine ∧
      (engine.run .none quietScene ⟨0, 0⟩).fault.isSome = true ∧
      (engine.run .none quietScene ⟨0, 0⟩).scene.output.written = [] := by
  have unset : ∀ entry ∈ [("HOME", "/root")], entry.1.startsWith "OPTAB_" = false := by
    intro entry member
    rw [List.mem_singleton.mp member, String.startsWith_string_eq_false_iff]
    decide
  constructor
  · obtain ⟨engine, built, printed, _⟩ :=
      standard_output (bareSite dribble) .none quietScene ⟨0, 0⟩ unset rfl rfl rfl
    obtain ⟨fault, written⟩ := printed (by decide)
    refine ⟨engine, built, fault, written.trans ?_⟩
    decide
  · obtain ⟨engine, built, _, stopped⟩ :=
      standard_output (bareSite flood) .none quietScene ⟨0, 0⟩ unset rfl rfl rfl
    obtain ⟨⟨fault, failed, _⟩, written⟩ := stopped flood_overruns
    exact ⟨engine, built, by rw [failed]; rfl, written⟩

end Engine

end OpcodeTable
