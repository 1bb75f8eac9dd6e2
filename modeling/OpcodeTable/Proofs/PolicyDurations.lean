import OpcodeTable.Proofs.KnownNames
import OpcodeTable.Proofs.StandardPipeline

set_option autoImplicit false

namespace OpcodeTable

namespace Vector.Policy

-- The most milliseconds that can be held in 64 bits as nanoseconds.
def longest : Int := 9223372036854

theorem nanoseconds_exact_iff (milliseconds : Int) :
    nanoseconds milliseconds = milliseconds * 1000000 ↔ -longest ≤ milliseconds ∧ milliseconds ≤ longest := by
  have bound : Word.bound 64 = 9223372036854775808 := rfl
  rw [nanoseconds, Word.wrap_same_iff 64 (by decide)]
  simp only [Word.fits, Bool.and_eq_true, decide_eq_true_eq, bound, longest]
  omega

end Vector.Policy

namespace Pipeline

-- A duration in nanoseconds that a policy makes of one in milliseconds: as long, but for whole spans of 64 bits.
structure HeldAs (milliseconds nanoseconds : Int) : Prop where
  fits : Word.fits 64 nanoseconds = true
  spans : (Word.span 64 : Int) ∣ milliseconds * 1000000 - nanoseconds

theorem held_nanoseconds (milliseconds : Int) : HeldAs milliseconds (Vector.Policy.nanoseconds milliseconds) :=
  ⟨Word.wrap_fits 64 (by decide) _, Word.wrap_differs 64 _⟩

section Installed

variable (spec : Spec) (site : Site) (scene : Scene)

theorem attach_vector_policy (runner served : Runner)
    (attached : attachVector spec.vector site scene.session runner = .ok served) :
    served.policy = spec.vector.policy := by
  rw [attachVector] at attached
  split at attached
  · cases attached
    rfl
  · split at attached
    · split at attached
      · cases attached
      · dsimp only at attached
        split at attached
        · cases attached
          rfl
        · cases attached
    · cases attached

theorem attach_sinks_policy (names : List String) (runner filled : Runner)
    (attached : attachSinks spec site scene.files names runner = .ok filled) : filled.policy = runner.policy := by
  induction names generalizing runner with
  | nil =>
      cases attached
      rfl
  | cons name rest ih =>
      rw [attachSinks] at attached
      split at attached
      · cases attached
      · have kept := ih _ attached
        exact kept

theorem build_policy (runner : Runner) (built : build spec site scene = .ok runner) :
    runner.policy = spec.vector.policy := by
  rw [build] at built
  split at built
  · rename_i assembled done
    cases built
    simp only [assemble, bind, Except.bind] at done
    split at done
    · cases done
    · split at done
      · cases done
      · rename_i served attached
        split at done
        · cases done
        · rename_i filled stored
          cases done
          exact (attach_sinks_policy spec site scene _ _ _ stored).trans
            (attach_vector_policy spec site scene _ _ attached)
  · cases built

end Installed

theorem installed_durations_iff (files : Files) (path : String) (spec : Spec) (site : Site) (scene : Scene)
    (runner : Runner) (accepted : Spec.load files path = .ok spec) (built : build spec site scene = .ok runner) :
    let vector := spec.vector
    let policy := runner.policy
    policy.attempts = vector.attempts ∧
      HeldAs vector.timeoutMs policy.timeout ∧ HeldAs vector.backoffMs policy.backoff ∧
      (policy.timeout = vector.timeoutMs * 1000000 ↔ vector.timeoutMs ≤ Vector.Policy.longest) ∧
      (policy.backoff = vector.backoffMs * 1000000 ↔
        -Vector.Policy.longest ≤ vector.backoffMs ∧ vector.backoffMs ≤ Vector.Policy.longest) ∧
      (0 < vector.timeoutMs → vector.timeoutMs ≤ Vector.Policy.longest → 0 < policy.timeout) := by
  intro vector policy
  have installed : policy = vector.policy := build_policy spec site scene runner built
  have timeout : policy.timeout = Vector.Policy.nanoseconds vector.timeoutMs := by rw [installed]; rfl
  have backoff : policy.backoff = Vector.Policy.nanoseconds vector.backoffMs := by rw [installed]; rfl
  have bounded : 0 ≤ vector.timeoutMs := (Spec.load_sound files path spec accepted).timeout
  have above : -Vector.Policy.longest ≤ vector.timeoutMs := by
    have positive : 0 < Vector.Policy.longest := by decide
    omega
  have exact : policy.timeout = vector.timeoutMs * 1000000 ↔ vector.timeoutMs ≤ Vector.Policy.longest := by
    rw [timeout, Vector.Policy.nanoseconds_exact_iff]
    exact and_iff_right above
  refine ⟨by rw [installed]; rfl, timeout ▸ held_nanoseconds _, backoff ▸ held_nanoseconds _, exact, ?_, ?_⟩
  · rw [backoff, Vector.Policy.nanoseconds_exact_iff]
  · intro given short
    rw [exact.mpr short]
    omega

def timedText (milliseconds : String) : String :=
  "vector:\n  timeout_ms: " ++ milliseconds ++ "\n  retry_policy:\n    backoff_ms: 50\nsinks: [stdout]\n"

def timed (milliseconds : Int) : Spec :=
  { Spec.standard with vector := ⟨"passthrough", "", milliseconds, 0, 50⟩ }

theorem timed_loads (text : String) (milliseconds : Int) (written : ((Yaml.Node.read (ascii (timedText text))).bind
    fun node => (Spec.ofNode node).toOption) =
      some { Spec.empty with vector := ⟨"", "", milliseconds, 0, 50⟩, sinks := ["stdout"] })
    (positive : 0 ≤ milliseconds) :
    Spec.load (Settings.settingsFile (timedText text)) "s" = .ok (timed milliseconds) := by
  have sound : (timed milliseconds).Sound ("" :: sinkRegistry) := by
    constructor <;> simp [timed, Spec.standard, sinkRegistry, positive]
  exact (Spec.load_accepted_iff _ "s" _ (described_by_file (timedText text) _ written) (Or.inl rfl)).mpr sound

theorem timed_builds (milliseconds : Int) : ∃ runner, build (timed milliseconds) attended desk = .ok runner := by
  have settings := Settings.line_settings_default desk.files attended.environment nofun
  have source : attachSource (timed milliseconds).source attended desk.files .empty =
      .ok { Runner.empty with source := some (.lines (standardSource attended.input)) } := by
    unfold attachSource
    rw [show (timed milliseconds).source.config = "" from rfl, settings]
    rfl
  unfold build assemble
  rw [source]
  exact ⟨_, rfl⟩

theorem longest_timeout_installed :
    ∃ runner, Spec.load (Settings.settingsFile (timedText "9223372036854")) "s" = .ok (timed 9223372036854) ∧
      build (timed 9223372036854) attended desk = .ok runner ∧
      runner.policy.timeout = 9223372036854000000 ∧ runner.policy.backoff = 50000000 := by
  have loaded := timed_loads "9223372036854" 9223372036854 (by decide +kernel) (by decide)
  obtain ⟨runner, built⟩ := timed_builds 9223372036854
  obtain ⟨_, _, _, timeout, backoff, _⟩ := installed_durations_iff _ "s" _ attended desk runner loaded built
  exact ⟨runner, loaded, built, timeout.mpr (by decide), backoff.mpr (by decide)⟩

theorem overlong_timeout_lost :
    ∃ runner, Spec.load (Settings.settingsFile (timedText "9223372036855")) "s" = .ok (timed 9223372036855) ∧
      build (timed 9223372036855) attended desk = .ok runner ∧
      runner.policy.timeout = -9223372036854551616 ∧ runner.policy.wraps = false := by
  have loaded := timed_loads "9223372036855" 9223372036855 (by decide +kernel) (by decide)
  obtain ⟨runner, built⟩ := timed_builds 9223372036855
  have policy := build_policy _ attended desk runner built
  refine ⟨runner, loaded, built, ?_, ?_⟩
  · rw [policy]
    rfl
  · rw [policy]
    rfl

end Pipeline

end OpcodeTable
