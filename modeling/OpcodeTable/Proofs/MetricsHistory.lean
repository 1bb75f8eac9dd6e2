import Mathlib.Algebra.GroupWithZero.Nat
import OpcodeTable.Proofs.StandardPipeline

set_option autoImplicit false

namespace OpcodeTable

open Row (RowClass)

namespace Metrics

theorem Counter.total_add (counter : Counter) (amount : Nat) :
    (counter.add amount).total = counter.total + amount := by
  simp [Counter.add, Counter.total, Nat.add_comm]

namespace Registry

theorem counter_of_set (reason other : String) (counter : Counter) (entries : List (String × Counter)) :
    counterOf other (setCounter reason counter entries) =
      if reason = other then counter else counterOf other entries := by
  induction entries with
  | nil => simp [setCounter, counterOf]
  | cons entry rest ih =>
      by_cases here : entry.1 = reason
      · by_cases same : reason = other
        · simp [setCounter, counterOf, here, same]
        · simp [setCounter, counterOf, here, same]
      · by_cases first : entry.1 = other
        · have apart : reason ≠ other := fun same => here (first.trans same.symm)
          simp [setCounter, counterOf, first, apart.symm, apart]
        · simp only [setCounter, counterOf, beq_iff_eq, here, first, if_false]
          exact ih

def totalOf (entries : List (String × Counter)) : Nat := (entries.map fun entry => entry.2.total).sum

theorem total_of_set (reason : String) (counter : Counter) (entries : List (String × Counter)) :
    totalOf (setCounter reason counter entries) + (counterOf reason entries).total =
      totalOf entries + counter.total := by
  induction entries with
  | nil => simp [setCounter, counterOf, totalOf, Counter.zero, Counter.total]
  | cons entry rest ih =>
      by_cases here : entry.1 = reason
      · simp only [setCounter, counterOf, beq_iff_eq, here, if_true, totalOf, List.map_cons, List.sum_cons]
        omega
      · simp only [setCounter, counterOf, beq_iff_eq, here, if_false, totalOf, List.map_cons, List.sum_cons] at ih ⊢
        omega

theorem names_of_set (reason : String) (counter : Counter) (entries : List (String × Counter))
    (known : reason ∈ entries.map Prod.fst) :
    (setCounter reason counter entries).map Prod.fst = entries.map Prod.fst := by
  induction entries with
  | nil => cases known
  | cons entry rest ih =>
      by_cases here : entry.1 = reason
      · simp [setCounter, here]
      · rw [List.map_cons, List.mem_cons] at known
        simp [setCounter, here, ih (known.resolve_left (Ne.symm here))]

def amountOf (reason : String) (counts : List (String × Nat)) : Nat :=
  ((counts.filter fun count => count.1 = reason).map Prod.snd).sum

def asSample (counts : List (String × Nat)) : List (String × Int) :=
  counts.map fun count => (count.1, (count.2 : Int))

theorem drop_count (registry : Registry) (reason : String) (amount : Nat) :
    registry.drop reason amount =
      (none, { registry with
        dropped := setCounter reason ((counterOf reason registry.dropped).add amount) registry.dropped }) := by
  simp only [drop, add_count]

theorem dropped_total_eq (registry : Registry) : registry.droppedTotal = totalOf registry.dropped :=
  List.sum_eq_foldr.symm

structure Drops (counts : List (String × Nat)) (before after : Registry) : Prop where
  read : after.read = before.read
  written : after.written = before.written
  vector : after.vector = before.vector
  reason : ∀ reason, after.droppedBy reason = before.droppedBy reason + amountOf reason counts
  total : after.droppedTotal = before.droppedTotal + (counts.map Prod.snd).sum
  names : (∀ count ∈ counts, count.1 ∈ before.dropped.map Prod.fst) →
    after.dropped.map Prod.fst = before.dropped.map Prod.fst

theorem drop_drops (registry : Registry) (reason : String) (amount : Nat) :
    Drops [(reason, amount)] registry (registry.drop reason amount).2 := by
  rw [drop_count]
  refine ⟨rfl, rfl, rfl, ?_, ?_, ?_⟩
  · intro other
    by_cases same : reason = other
    · simp [droppedBy, counter_of_set, Counter.total_add, amountOf, same]
    · simp [droppedBy, counter_of_set, amountOf, same]
  · have balance := total_of_set reason ((counterOf reason registry.dropped).add amount) registry.dropped
    rw [Counter.total_add] at balance
    simp only [dropped_total_eq, List.map_cons, List.map_nil, List.sum_cons, List.sum_nil]
    omega
  · intro known
    exact names_of_set reason _ registry.dropped (known (reason, amount) List.mem_cons_self)

theorem Drops.trans {first second : List (String × Nat)} {before middle after : Registry}
    (earlier : Drops first before middle) (later : Drops second middle after) :
    Drops (first ++ second) before after := by
  refine ⟨later.read.trans earlier.read, later.written.trans earlier.written,
    later.vector.trans earlier.vector, ?_, ?_, ?_⟩
  · intro reason
    rw [later.reason, earlier.reason]
    simp [amountOf, Nat.add_assoc]
  · rw [later.total, earlier.total]
    simp [Nat.add_assoc]
  · intro known
    have kept := earlier.names fun count member => known count (List.mem_append_left _ member)
    rw [later.names, kept]
    intro count member
    rw [kept]
    exact known count (List.mem_append_right _ member)

theorem drop_all_drops (counts : List (String × Nat)) (registry : Registry) :
    Drops counts registry (dropAll (asSample counts) registry).2 := by
  induction counts generalizing registry with
  | nil => exact ⟨rfl, rfl, rfl, fun _ => rfl, rfl, fun _ => rfl⟩
  | cons count rest ih =>
      have here := drop_drops registry count.1 count.2
      have later := ih (registry.drop count.1 count.2).2
      rw [drop_count] at here later
      simp only [asSample, List.map_cons, dropAll, drop_count]
      exact here.trans later

end Registry

end Metrics

namespace Tally

def counts (tally : Tally) : List (String × Nat) := tally.reasons.map fun reason => (reason.1.name, reason.2)

theorem counts_total (tally : Tally) : (tally.counts.map Prod.snd).sum = tally.droppedTotal := by
  by_cases empty : tally.empty = 0 <;> by_cases leading : tally.leadingChar = 0 <;>
    by_cases rex : tally.rexMark = 0 <;>
    simp [counts, reasons, droppedTotal, empty, leading, rex, Nat.add_assoc]

theorem counts_amount (tally : Tally) (reason : RowClass) (dropped : reason.isDropped = true) :
    Metrics.Registry.amountOf reason.name tally.counts = tally.dropped reason := by
  cases reason with
  | plain => cases dropped
  | vector => cases dropped
  | empty | leadingChar | rexMark =>
      by_cases empty : tally.empty = 0 <;> by_cases leading : tally.leadingChar = 0 <;>
        by_cases rex : tally.rexMark = 0 <;>
        simp [Metrics.Registry.amountOf, counts, reasons, Tally.dropped, RowClass.name, empty, leading, rex]

end Tally

namespace Metrics.Registry

theorem observe_drops (registry : Registry) (tally : Tally) (moment : Moment) :
    (registry.observe (.ofTally tally) moment).2 =
      (dropAll (asSample tally.counts) { registry with
        read := registry.read.add tally.read
        written := registry.written.add tally.written
        vector := registry.vector.add tally.vector }).2.stamp moment := by
  have sampled : (Sample.ofTally tally).dropped = asSample tally.counts := by
    rw [asSample, Tally.counts, List.map_map]
    rfl
  have taken := registry.observe_tally tally moment
  simp only [observe, sampled] at taken ⊢
  simp only [Sample.ofTally, add_count] at taken ⊢
  split
  · rename_i fault after refused
    rw [refused] at taken
    cases taken
  · rename_i after counted
    rw [counted]

structure Sums (registry : Registry) (tallies : List Tally) : Prop where
  read : registry.read.total = (tallies.map Tally.read).sum
  written : registry.written.total = (tallies.map Tally.written).sum
  vector : registry.vector.total = (tallies.map Tally.vector).sum
  dropped : ∀ reason : RowClass, reason.isDropped = true →
    registry.droppedBy reason.name = (tallies.map fun tally => tally.dropped reason).sum
  droppedTotal : registry.droppedTotal = (tallies.map Tally.droppedTotal).sum
  reasons : registry.dropped.map Prod.fst = [RowClass.empty, .leadingChar, .rexMark].map RowClass.name

theorem start_sums : Sums .start [] := by
  refine ⟨rfl, rfl, rfl, ?_, rfl, rfl⟩
  intro reason dropped
  cases reason with
  | plain => cases dropped
  | vector => cases dropped
  | empty | leadingChar | rexMark => rfl

theorem observe_sums (registry : Registry) (tallies : List Tally) (tally : Tally) (moment : Moment)
    (sums : Sums registry tallies) :
    Sums (registry.observe (.ofTally tally) moment).2 (tallies ++ [tally]) := by
  have drops := drop_all_drops tally.counts { registry with
    read := registry.read.add tally.read
    written := registry.written.add tally.written
    vector := registry.vector.add tally.vector }
  have known : ∀ count ∈ tally.counts, count.1 ∈ registry.dropped.map Prod.fst := by
    rw [sums.reasons]
    intro count member
    obtain ⟨reason, listed, rfl⟩ := List.mem_map.mp member
    apply List.mem_map_of_mem
    exact List.mem_map_of_mem (f := Prod.fst) (List.mem_filter.mp listed).1
  rw [observe_drops]
  constructor
  case read =>
      have same : (Registry.stamp _ moment).read = _ := drops.read
      rw [same, Counter.total_add, sums.read]
      simp
  case written =>
      have same : (Registry.stamp _ moment).written = _ := drops.written
      rw [same, Counter.total_add, sums.written]
      simp
  case vector =>
      have same : (Registry.stamp _ moment).vector = _ := drops.vector
      rw [same, Counter.total_add, sums.vector]
      simp
  case dropped =>
      intro reason dropped
      have added : (Registry.stamp _ moment).droppedBy reason.name = _ := drops.reason reason.name
      have before : registry.droppedBy reason.name = _ := sums.dropped reason dropped
      rw [added, tally.counts_amount reason dropped, List.map_append, List.sum_append, ← before]
      rfl
  case droppedTotal =>
      have added : (Registry.stamp _ moment).droppedTotal = _ := drops.total
      have before : registry.droppedTotal = _ := sums.droppedTotal
      rw [added, tally.counts_total, List.map_append, List.sum_append, ← before]
      rfl
  case reasons =>
      have kept : (Registry.stamp _ moment).dropped.map Prod.fst = _ := drops.names known
      rw [kept]
      exact sums.reasons

end Metrics.Registry

namespace Tally

structure Balanced (tally : Tally) : Prop where
  read : tally.read = tally.written + tally.droppedTotal
  vector : tally.vector ≤ tally.written

end Tally

namespace Batch

theorem weave_vectors (rows given : List Bytes) (enough : (vectorRows rows).length ≤ given.length) :
    (vectorRows rows).length ≤ (weave rows given).length := by
  induction rows generalizing given with
  | nil => exact Nat.zero_le _
  | cons row rest ih =>
      cases classified : Row.classify row with
      | vector =>
          rw [vector_rows_take row rest classified, List.length_cons] at enough ⊢
          have tail := ih (given.drop 1) (by rw [List.length_drop]; omega)
          simp only [weave, classified, List.length_append, List.length_take]
          omega
      | plain | empty | leadingChar | rexMark =>
          rw [vector_rows_skip row rest _ classified (by decide)] at enough ⊢
          have tail := ih given enough
          simp only [weave, classified, List.length_cons]
          omega

theorem transform_balanced {σ : Type} (rewrite : Option (Bytes → σ → Answer σ)) (rows : List Bytes) (state : σ)
    (written : List Bytes) (finished : (transform rewrite rows state).outcome = .ok written) :
    (transform rewrite rows state).tally.Balanced := by
  obtain ⟨served, _⟩ := transform_rows rewrite rows state written finished
  have completed := transform_completed rewrite rows state served
  obtain ⟨_, enough⟩ := answered_lengths rewrite (vectorRows rows) state served
  refine ⟨completed.balance, ?_⟩
  rw [completed.vector, completed.written]
  exact weave_vectors rows _ (Nat.le_of_eq enough.symm)

end Batch

namespace Pipeline.Runner

structure Counted (runner : Runner) (moment : Metrics.Moment) (ran : Ran) : Prop where
  failed : ran.fault ≠ none → ran.runner.metrics = runner.metrics
  succeeded : ran.fault = none → ran.tally.Balanced ∧
    ran.runner.metrics = (runner.metrics.observe (.ofTally ran.tally) moment).2

theorem hand_over_counted (runner : Runner) (scene : Scene) (moment : Metrics.Moment) (tally : Tally)
    (rows : List Bytes) (logs : List Log.Entry) (balanced : tally.Balanced) :
    Counted runner moment (runner.handOver scene moment tally rows logs) := by
  have taken := runner.metrics.observe_tally tally moment
  unfold handOver
  cases delivered : (deliver RowSink.behaviour (numbered rows) runner.sinks scene.output).fault with
  | some fault =>
      simp only [delivered]
      exact ⟨fun _ => rfl, nofun⟩
  | none =>
      simp only [delivered]
      rcases counted : runner.metrics.observe (.ofTally tally) moment with ⟨_ | fault, metrics⟩
      · exact ⟨fun failed => absurd rfl failed, fun _ => ⟨balanced, by rw [counted]⟩⟩
      · rw [counted] at taken
        cases taken

theorem process_counted (runner : Runner) (scene : Scene) (moment : Metrics.Moment) (rows : List Bytes)
    (logs : List Log.Entry) : Counted runner moment (runner.process scene moment rows logs) := by
  unfold process
  cases outcome : (Batch.transform (some runner.rewrite) rows scene.session).outcome with
  | error fault =>
      simp only [outcome]
      exact ⟨fun _ => rfl, nofun⟩
  | ok written =>
      simp only [outcome]
      apply hand_over_counted
      exact Batch.transform_balanced _ rows scene.session written outcome

theorem run_counted (runner : Runner) (scene : Scene) (moment : Metrics.Moment) :
    Counted runner moment (runner.run scene moment) := by
  unfold run
  cases runner.source with
  | none => exact ⟨fun _ => rfl, nofun⟩
  | some source =>
      dsimp only
      generalize source.run scene.files scene.session.asker = reading
      obtain ⟨report, after⟩ := reading
      cases report.fault with
      | some fault => exact ⟨fun _ => rfl, nofun⟩
      | none =>
          have counted := process_counted { runner with source := some after } scene moment report.rows report.logs
          exact ⟨counted.failed, counted.succeeded⟩

-- A run is started at a scene of its own: between two runs anything outside the pipeline may change.
structure Call where
  scene : Scene
  moment : Metrics.Moment

def answer (runner : Runner) (call : Call) : Ran := runner.run call.scene call.moment

def history (runner : Runner) : List Call → List Ran
  | [] => []
  | call :: rest => runner.answer call :: (runner.answer call).runner.history rest

def afterCalls (runner : Runner) (calls : List Call) : Runner :=
  calls.foldl (fun standing call => (standing.answer call).runner) runner

def succeededTallies (runs : List Ran) : List Tally :=
  (runs.filter fun ran => ran.fault.isNone).map Ran.tally

theorem history_sums (runner : Runner) (calls : List Call) (tallies : List Tally)
    (sums : runner.metrics.Sums tallies) :
    (runner.afterCalls calls).metrics.Sums (tallies ++ succeededTallies (runner.history calls)) ∧
      ∀ tally ∈ succeededTallies (runner.history calls), tally.Balanced := by
  induction calls generalizing runner tallies with
  | nil =>
      refine ⟨?_, nofun⟩
      rw [history, succeededTallies, List.filter_nil, List.map_nil, List.append_nil]
      exact sums
  | cons call rest ih =>
      have counted := runner.run_counted call.scene call.moment
      cases fault : (runner.answer call).fault with
      | some cause =>
          have kept := counted.failed (by rw [← answer, fault]; exact nofun)
          have same : succeededTallies (runner.history (call :: rest)) =
              succeededTallies ((runner.answer call).runner.history rest) := by
            simp [history, succeededTallies, fault]
          rw [same]
          apply ih (runner.answer call).runner tallies
          rw [answer, kept]
          exact sums
      | none =>
          obtain ⟨balanced, observed⟩ := counted.succeeded fault
          have more : succeededTallies (runner.history (call :: rest)) =
              (runner.answer call).tally :: succeededTallies ((runner.answer call).runner.history rest) := by
            simp [history, succeededTallies, fault]
          have later := ih (runner.answer call).runner (tallies ++ [(runner.answer call).tally]) (by
            rw [answer, observed]
            exact runner.metrics.observe_sums tallies _ call.moment sums)
          rw [List.append_assoc, List.singleton_append] at later
          rw [more]
          exact ⟨later.1, List.forall_mem_cons.mpr ⟨balanced, later.2⟩⟩

theorem balanced_sums (tallies : List Tally) (balanced : ∀ tally ∈ tallies, tally.Balanced) :
    (tallies.map Tally.read).sum = (tallies.map Tally.written).sum + (tallies.map Tally.droppedTotal).sum ∧
      (tallies.map Tally.vector).sum ≤ (tallies.map Tally.written).sum := by
  induction tallies with
  | nil => exact ⟨rfl, Nat.le_refl 0⟩
  | cons tally rest ih =>
      obtain ⟨here, later⟩ := List.forall_mem_cons.mp balanced
      obtain ⟨read, vector⟩ := ih later
      simp only [List.map_cons, List.sum_cons, read, here.read]
      have first := here.vector
      omega

-- After every call of a history, since the calls up to it are a history themselves.
theorem metrics_conserve_rows (runner : Runner) (fresh : runner.metrics = .start) (calls : List Call) :
    let metrics := (runner.afterCalls calls).metrics
    metrics.read.total = metrics.written.total + metrics.droppedTotal ∧
      metrics.vector.total ≤ metrics.written.total ∧
      metrics.Sums (succeededTallies (runner.history calls)) ∧
      ∀ call, ((runner.afterCalls calls).answer call).fault ≠ none →
        ((runner.afterCalls calls).answer call).runner.metrics = metrics := by
  intro metrics
  obtain ⟨sums, balanced⟩ := runner.history_sums calls [] (fresh ▸ Metrics.Registry.start_sums)
  rw [List.nil_append] at sums
  obtain ⟨read, vector⟩ := balanced_sums _ balanced
  refine ⟨?_, ?_, sums, ?_⟩
  · rw [sums.read, sums.written, sums.droppedTotal]
    exact read
  · rw [sums.vector, sums.written]
    exact vector
  · intro call failed
    exact ((runner.afterCalls calls).run_counted call.scene call.moment).failed failed

-- Its source is away at the second run, its rewriter refuses the third, and its sink the fourth.
def uneven : Runner :=
  { empty with
    source := some (.memory ⟨fun run => if run = 1 then ([], some (.plain "away"))
      else ([ascii "90 NOP", [], ascii "VEX a"], none), 0, none⟩)
    vector := .inProcess (.scripted [.echo, .fail (.plain "no"), .echo]) none
    sinks := [.fresh (.memory ⟨fun offers _ => if offers = 3 then some (.plain "full") else none, 0, none⟩)] }

def callAfter (rewritten : Nat) : Call :=
  ⟨⟨⟨[], []⟩, .unlimited, ⟨0, none, List.replicate rewritten [], false⟩⟩, ⟨0, 0⟩⟩

def fiveCalls : List Call := [0, 1, 1, 2, 3].map callAfter

theorem uneven_conserves_rows :
    uneven.metrics = .start ∧
      (uneven.history fiveCalls).map (fun ran => ran.fault.isNone) = [true, false, false, false, true] ∧
      (uneven.afterCalls fiveCalls).metrics.Sums [⟨3, 2, 1, 1, 0, 0⟩, ⟨3, 2, 1, 1, 0, 0⟩] := by
  have tallies : succeededTallies (uneven.history fiveCalls) = [⟨3, 2, 1, 1, 0, 0⟩, ⟨3, 2, 1, 1, 0, 0⟩] := by
    decide
  obtain ⟨_, _, sums, _⟩ := metrics_conserve_rows uneven rfl fiveCalls
  rw [tallies] at sums
  exact ⟨rfl, by decide, sums⟩

end Pipeline.Runner

end OpcodeTable
