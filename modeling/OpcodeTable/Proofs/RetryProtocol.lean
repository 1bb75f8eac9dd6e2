import OpcodeTable.Proofs.Retries

set_option autoImplicit false

namespace OpcodeTable.Vector

namespace Session

def DoneBy (session : Session) (moment : Nat) : Prop :=
  ∃ ending, session.endsAt = some ending ∧ ending ≤ moment

theorem done_by_mono (session : Session) (early late : Nat) (before : early ≤ late)
    (done : session.DoneBy early) : session.DoneBy late := by
  obtain ⟨ending, ends, reached⟩ := done
  exact ⟨ending, ends, Nat.le_trans reached before⟩

theorem is_over_iff (session : Session) : session.isOver = true ↔ session.DoneBy session.now := by
  simp [isOver, DoneBy, Option.any_eq_true]

theorem wait_cases (session : Session) (delay : Nat) :
    let waited := session.waitUntil (session.now + delay)
    (session.DoneBy (session.now + delay) ∧ ∃ later, waited = (.error session.reason, later)) ∨
      (¬ session.DoneBy (session.now + delay) ∧
        waited = (.ok (), { session with now := session.now + delay })) := by
  dsimp only
  rw [waitUntil, Nat.max_eq_right (Nat.le_add_right _ _)]
  cases ends : session.endsAt with
  | none => exact Or.inr ⟨by simp [DoneBy, ends], rfl⟩
  | some ending =>
      by_cases reached : ending ≤ session.now + delay
      · simp only [if_pos reached]
        exact Or.inl ⟨⟨ending, ends, reached⟩, _, rfl⟩
      · simp only [if_neg reached]
        exact Or.inr ⟨by simp [DoneBy, ends, reached], trivial⟩

theorem wait_interrupted (session later : Session) (delay : Nat) (ended : Fault)
    (waited : session.waitUntil (session.now + delay) = (.error ended, later)) :
    session.DoneBy (session.now + delay) ∧ ended = session.reason := by
  rcases session.wait_cases delay with ⟨done, _, interrupted⟩ | ⟨_, passed⟩
  · rw [interrupted] at waited
    cases waited
    exact ⟨done, rfl⟩
  · rw [passed] at waited
    cases waited

theorem wait_over (session later : Session) (delay : Nat)
    (waited : session.waitUntil (session.now + delay) = (.ok (), later)) :
    ¬ session.DoneBy (session.now + delay) ∧ later = { session with now := session.now + delay } := by
  rcases session.wait_cases delay with ⟨_, _, interrupted⟩ | ⟨live, passed⟩
  · rw [interrupted] at waited
    cases waited
  · rw [passed] at waited
    cases waited
    exact ⟨live, rfl⟩

end Session

namespace Policy

structure Retries (policy : Policy) (number : Nat) (call : Call) (fault : Fault) : Prop where
  failed : call.result = .error fault
  left : number < policy.attempts
  valid : fault.statusOf ≠ some .invalidArgument
  live : ¬ call.after.DoneBy call.after.now

def Interrupts (policy : Policy) (call : Call) : Prop :=
  call.after.DoneBy (call.after.now + policy.backoff.toNat)

def rested (policy : Policy) (call : Call) : Session :=
  { call.after with now := call.after.now + policy.backoff.toNat }

def callAt (policy : Policy) (next : Caller) (row : Bytes) (session : Session) : Call :=
  Call.make next (policy.limit session) row session

-- What can happen from a call on: it is the last one, the caller gives up while the policy waits, or
-- there is another call.
inductive Course (policy : Policy) (next : Caller) (row : Bytes) :
    Nat → Session → List Call → Except Fault Bytes → List Log.Entry → Prop
  | last (number : Nat) (session : Session)
      (final : ∀ fault, ¬ policy.Retries number (policy.callAt next row session) fault) :
      Course policy next row number session [policy.callAt next row session]
        (policy.callAt next row session).result []
  | interrupted (number : Nat) (session : Session) (fault : Fault)
      (decided : policy.Retries number (policy.callAt next row session) fault)
      (ended : policy.Interrupts (policy.callAt next row session)) :
      Course policy next row number session [policy.callAt next row session]
        (.error (policy.callAt next row session).after.reason) [retryEntry (number + 1) fault]
  | again (number : Nat) (session : Session) (fault : Fault) (calls : List Call)
      (result : Except Fault Bytes) (logs : List Log.Entry)
      (decided : policy.Retries number (policy.callAt next row session) fault)
      (live : ¬ policy.Interrupts (policy.callAt next row session))
      (later : Course policy next row (number + 1) (policy.rested (policy.callAt next row session))
        calls result logs) :
      Course policy next row number session (policy.callAt next row session :: calls) result
        (retryEntry (number + 1) fault :: logs)

theorem single_at {α : Type} (item other : α) (j : Nat) : [item][j]? = some other ↔ j = 0 ∧ item = other := by
  cases j with
  | zero => simp
  | succ j => simp

theorem not_final_iff (fault : Fault) (session : Session) :
    isFinal fault session = false ↔
      fault.statusOf ≠ some .invalidArgument ∧ ¬ session.DoneBy session.now := by
  rw [← Session.is_over_iff]
  simp [isFinal]

theorem retries_unique (policy : Policy) (number : Nat) (call : Call) (first second : Fault)
    (one : policy.Retries number call first) (two : policy.Retries number call second) : first = second :=
  Except.error.inj (one.failed.symm.trans two.failed)

theorem given_final (policy : Policy) (number : Nat) (call : Call) (text : Bytes)
    (given : call.result = .ok text) : ∀ fault, ¬ policy.Retries number call fault := by
  intro fault decided
  have failed := decided.failed
  rw [given] at failed
  cases failed

theorem refused_final (policy : Policy) (number : Nat) (call : Call) (fault : Fault)
    (failed : call.result = .error fault) (final : ¬ policy.Retries number call fault) :
    ∀ other, ¬ policy.Retries number call other := by
  intro other decided
  rw [Except.error.inj (failed.symm.trans decided.failed)] at final
  exact final decided

theorem course_given (policy : Policy) (next : Caller) (row : Bytes) (number : Nat) (session : Session)
    (text : Bytes) (given : (policy.callAt next row session).result = .ok text) :
    Course policy next row number session [policy.callAt next row session] (.ok text) [] := by
  rw [← given]
  exact .last number session (policy.given_final number _ text given)

theorem course_refused (policy : Policy) (next : Caller) (row : Bytes) (number : Nat) (session : Session)
    (fault : Fault) (failed : (policy.callAt next row session).result = .error fault)
    (final : ¬ policy.Retries number (policy.callAt next row session) fault) :
    Course policy next row number session [policy.callAt next row session] (.error fault) [] := by
  rw [← failed]
  exact .last number session (policy.refused_final number _ fault failed final)

theorem retry_course (policy : Policy) (next : Caller) (row : Bytes) (left number : Nat) (fault : Fault)
    (session : Session) (logs : List Log.Entry) (counted : (number : Int) + left = policy.attempts)
    (failed : (policy.callAt next row session).result = .error fault) :
    let call := policy.callAt next row session
    let retry := policy.retry next row left (number + 1) fault call.after logs
    ∃ entries, retry.logs = logs.reverse ++ entries ∧
      Course policy next row number session (call :: policy.retried next row left fault call.after)
        retry.result entries := by
  dsimp only
  induction left generalizing number fault session logs with
  | zero =>
      refine ⟨[], by simp [retry], course_refused policy next row number session fault failed ?_⟩
      intro decided
      have remaining := decided.left
      omega
  | succ left ih =>
      have decision : policy.Retries number (policy.callAt next row session) fault ↔
          isFinal fault (policy.callAt next row session).after = false := by
        rw [not_final_iff]
        exact ⟨fun decided => ⟨decided.valid, decided.live⟩, fun unsettled => ⟨failed, by omega, unsettled.1, unsettled.2⟩⟩
      rcases retry_cases policy next row left (number + 1) fault (policy.callAt next row session).after logs with
        ⟨final, ran, made⟩ | ⟨live, ended, later, waited, ran, made⟩ | ⟨live, later, text, waited, given, ran, made⟩ |
        ⟨live, later, again, waited, refused, ran, made⟩
      · rw [ran, made]
        refine ⟨[], by simp, course_refused policy next row number session fault failed ?_⟩
        rw [decision, final]
        decide
      · obtain ⟨done, rfl⟩ := Session.wait_interrupted _ later _ ended waited
        rw [ran, made]
        exact ⟨[retryEntry (number + 1) fault], by simp,
          .interrupted number session fault (decision.mpr live) done⟩
      · obtain ⟨undone, rfl⟩ := Session.wait_over _ later _ waited
        rw [ran, made]
        refine ⟨[retryEntry (number + 1) fault], by simp, ?_⟩
        exact .again number session fault _ _ _ (decision.mpr live) undone
          (course_given policy next row (number + 1) _ text given)
      · obtain ⟨undone, rfl⟩ := Session.wait_over _ later _ waited
        obtain ⟨entries, logged, course⟩ :=
          ih (number + 1) again _ (retryEntry (number + 1) fault :: logs) (by omega) refused
        rw [ran, made]
        refine ⟨retryEntry (number + 1) fault :: entries, ?_, ?_⟩
        · exact logged.trans (by simp)
        · exact .again number session fault _ _ _ (decision.mpr live) undone course

theorem rewrite_course (policy : Policy) (next : Caller) (row : Bytes) (session : Session)
    (wrapped : policy.wraps = true) (counted : 0 ≤ policy.attempts) :
    Course policy next row 0 session (policy.calls next row session)
      (policy.rewrite next row session).result (policy.rewrite next row session).logs := by
  rcases rewrite_cases policy next row session with
    ⟨skips, _, _⟩ | ⟨_, bare, _, _⟩ | ⟨_, _, text, given, ran, made⟩ | ⟨_, _, fault, refused, ran, made⟩
  · have negative := skips.2
    omega
  · rw [wrapped] at bare
    cases bare
  · rw [ran, made]
    exact course_given policy next row 0 session text given
  · have count : ((0 : Nat) : Int) + policy.attempts.toNat = policy.attempts := by omega
    obtain ⟨entries, logged, course⟩ :=
      retry_course policy next row policy.attempts.toNat 0 fault session [] count refused
    rw [List.reverse_nil, List.nil_append] at logged
    rw [ran, made]
    exact logged ▸ course

section Course

variable {policy : Policy} {next : Caller} {row : Bytes} {number : Nat} {session : Session}
  {calls : List Call} {result : Except Fault Bytes} {logs : List Log.Entry}

theorem course_first (course : Course policy next row number session calls result logs) :
    calls[0]? = some (policy.callAt next row session) := by
  cases course <;> rfl

theorem course_genuine (course : Course policy next row number session calls result logs) :
    ∀ (j : Nat) (call : Call), calls[j]? = some call → call = policy.callAt next row call.session := by
  induction course with
  | last number session final =>
      intro j call found
      obtain ⟨-, rfl⟩ := (single_at _ call j).mp found
      rfl
  | interrupted number session fault decided ended =>
      intro j call found
      obtain ⟨-, rfl⟩ := (single_at _ call j).mp found
      rfl
  | again number session fault calls result logs decided live later ih =>
      intro j call found
      cases j with
      | zero =>
          cases found
          rfl
      | succ j => exact ih j call found

theorem course_onward (course : Course policy next row number session calls result logs) :
    ∀ (j : Nat) (call : Call), calls[j]? = some call →
      ((∃ later, calls[j + 1]? = some later) ↔
        ∃ fault, policy.Retries (number + j) call fault ∧ ¬ policy.Interrupts call) := by
  induction course with
  | last number session final =>
      intro j call found
      obtain ⟨rfl, rfl⟩ := (single_at _ call j).mp found
      simp [final]
  | interrupted number session fault decided ended =>
      intro j call found
      obtain ⟨rfl, rfl⟩ := (single_at _ call j).mp found
      simp [ended]
  | again number session fault calls result logs decided live later ih =>
      intro j call found
      cases j with
      | zero =>
          cases found
          exact ⟨fun _ => ⟨fault, decided, live⟩, fun _ => ⟨_, course_first later⟩⟩
      | succ j =>
          have position : number + (j + 1) = number + 1 + j := by omega
          rw [position]
          exact ih j call found

theorem course_pause (course : Course policy next row number session calls result logs) :
    ∀ (j : Nat) (call later : Call), calls[j]? = some call → calls[j + 1]? = some later →
      later.session = policy.rested call := by
  induction course with
  | last number session final =>
      intro j call later found more
      cases more
  | interrupted number session fault decided ended =>
      intro j call later found more
      cases more
  | again number session fault calls result logs decided live following ih =>
      intro j call later found more
      cases j with
      | zero =>
          cases found
          have first := course_first following
          rw [List.getElem?_cons_succ, first] at more
          cases more
          rfl
      | succ j => exact ih j call later found more

theorem course_result (course : Course policy next row number session calls result logs) :
    ∀ (j : Nat) (call : Call), calls[j]? = some call → calls[j + 1]? = Option.none →
      ((∀ fault, ¬ policy.Retries (number + j) call fault) → result = call.result) ∧
        ∀ fault, policy.Retries (number + j) call fault → result = .error call.after.reason := by
  induction course with
  | last number session final =>
      intro j call found _
      obtain ⟨rfl, rfl⟩ := (single_at _ call j).mp found
      exact ⟨fun _ => rfl, fun fault decided => absurd decided (final fault)⟩
  | interrupted number session fault decided ended =>
      intro j call found _
      obtain ⟨rfl, rfl⟩ := (single_at _ call j).mp found
      exact ⟨fun final => absurd decided (final fault), fun _ _ => rfl⟩
  | again number session fault calls result logs decided live later ih =>
      intro j call found ended
      cases j with
      | zero =>
          rw [List.getElem?_cons_succ, course_first later] at ended
          cases ended
      | succ j =>
          have position : number + (j + 1) = number + 1 + j := by omega
          rw [position]
          exact ih j call found ended

theorem course_logs (course : Course policy next row number session calls result logs) :
    ∀ (j : Nat) (entry : Log.Entry), logs[j]? = some entry ↔
      ∃ call fault, calls[j]? = some call ∧ policy.Retries (number + j) call fault ∧
        entry = retryEntry (number + j + 1) fault := by
  induction course with
  | last number session final =>
      intro j entry
      constructor
      · intro found
        cases found
      · rintro ⟨call, fault, found, decided, -⟩
        obtain ⟨rfl, rfl⟩ := (single_at _ call j).mp found
        exact absurd decided (final fault)
  | interrupted number session fault decided ended =>
      intro j entry
      constructor
      · intro found
        obtain ⟨rfl, rfl⟩ := (single_at _ entry j).mp found
        exact ⟨_, fault, rfl, decided, rfl⟩
      · rintro ⟨call, found, place, again, rfl⟩
        obtain ⟨rfl, rfl⟩ := (single_at _ call j).mp place
        rw [retries_unique policy _ _ found fault again decided]
        rfl
  | again number session fault calls result logs decided live later ih =>
      intro j entry
      cases j with
      | zero =>
          constructor
          · intro found
            cases found
            exact ⟨_, fault, rfl, decided, rfl⟩
          · rintro ⟨call, found, place, again, rfl⟩
            cases place
            rw [retries_unique policy _ _ found fault again decided]
            rfl
      | succ j =>
          have position : number + (j + 1) = number + 1 + j := by omega
          rw [position]
          exact ih j entry

end Course

structure Account (policy : Policy) (next : Caller) (row : Bytes) (session : Session) (made : List Call)
    (rewritten : Rewritten) : Prop where
  first : ∃ call, made[0]? = some call ∧ call.session = session
  -- The time limit of a call is counted from its own start.
  genuine : ∀ (j : Nat) call, made[j]? = some call → call.limit = policy.limit call.session ∧
    next call.limit row call.session = (call.result, call.after)
  onward : ∀ (j : Nat) call, made[j]? = some call → ((∃ later, made[j + 1]? = some later) ↔
    ∃ fault, policy.Retries j call fault ∧ ¬ policy.Interrupts call)
  pause : ∀ (j : Nat) call later, made[j]? = some call → made[j + 1]? = some later →
    later.session = policy.rested call
  given : ∀ (j : Nat) call text, made[j]? = some call → call.result = .ok text →
    made.length = j + 1 ∧ rewritten.result = .ok text
  refused : ∀ (j : Nat) call fault, made[j]? = some call → made.length = j + 1 → call.result = .error fault →
    ¬ policy.Retries j call fault → rewritten.result = .error fault
  interrupted : ∀ (j : Nat) call fault, made[j]? = some call → made.length = j + 1 →
    policy.Retries j call fault → rewritten.result = .error call.after.reason
  warned : ∀ (j : Nat) entry, rewritten.logs[j]? = some entry ↔ ∃ call fault, made[j]? = some call ∧
    policy.Retries j call fault ∧ entry = retryEntry (j + 1) fault
  timedOut : ∀ (j : Nat) call, made[j]? = some call → call.result = .error .deadlineExceeded →
    j < policy.attempts → ¬ policy.Interrupts call →
      ∃ later, made[j + 1]? = some later ∧ ∀ moment, later.limit = some moment → later.session.now < moment

theorem limit_ahead (policy : Policy) (session : Session) (moment : Nat)
    (limited : policy.limit session = some moment) : session.now < moment := by
  unfold limit at limited
  split at limited
  · cases limited
    omega
  · cases limited

theorem last_at {α : Type} (items : List α) (j : Nat) (item : α) (found : items[j]? = some item) :
    items.length = j + 1 ↔ items[j + 1]? = Option.none := by
  have inside := (List.getElem?_eq_some_iff.mp found).1
  rw [List.getElem?_eq_none_iff]
  omega

theorem course_account (policy : Policy) (next : Caller) (row : Bytes) (session : Session) (made : List Call)
    (rewritten : Rewritten) (course : Course policy next row 0 session made rewritten.result rewritten.logs) :
    Account policy next row session made rewritten := by
  have onward (j : Nat) (call : Call) (found : made[j]? = some call) := course_onward course j call found
  have result (j : Nat) (call : Call) (found : made[j]? = some call) := course_result course j call found
  have warned := course_logs course
  simp only [Nat.zero_add] at onward result warned
  have genuine := course_genuine course
  refine ⟨⟨_, course_first course, rfl⟩, ?_, onward, course_pause course, ?_, ?_, ?_, warned, ?_⟩
  · intro j call found
    have same := genuine j call found
    rw [same]
    exact ⟨rfl, rfl⟩
  · intro j call text found right
    have final := policy.given_final j call text right
    have ended : made[j + 1]? = Option.none := by
      cases more : made[j + 1]? with
      | none => rfl
      | some later =>
          obtain ⟨fault, decided, -⟩ := (onward j call found).mp ⟨later, more⟩
          exact absurd decided (final fault)
    exact ⟨(last_at made j call found).mpr ended, ((result j call found ended).1 final).trans right⟩
  · intro j call fault found last failed final
    have ended := (last_at made j call found).mp last
    exact ((result j call found ended).1 (policy.refused_final j call fault failed final)).trans failed
  · intro j call fault found last decided
    exact (result j call found ((last_at made j call found).mp last)).2 fault decided
  · intro j call found expired left live
    have undone : ¬ call.after.DoneBy call.after.now :=
      mt (call.after.done_by_mono _ _ (Nat.le_add_right _ _)) live
    have decided : policy.Retries j call .deadlineExceeded := ⟨expired, left, by decide, undone⟩
    obtain ⟨later, more⟩ := (onward j call found).mpr ⟨_, decided, live⟩
    refine ⟨later, more, ?_⟩
    intro moment limited
    rw [genuine (j + 1) later more] at limited
    exact policy.limit_ahead _ moment limited

theorem hang_times_out (policy : Policy) (rewriter : Rewriter) (row : Bytes) (session : Session)
    (limited : 0 < policy.timeout) (hangs : rewriter.reply session.calls.length row = .hang)
    (live : ¬ session.DoneBy (session.now + policy.timeout.toNat)) :
    let call := policy.callAt rewriter.call row session
    call.result = .error .deadlineExceeded ∧ call.after.endsAt = session.endsAt ∧
      call.after.now = session.now + policy.timeout.toNat := by
  have waited : (session.record row).waitUntil (session.now + policy.timeout.toNat) =
      (.ok (), { session.record row with now := session.now + policy.timeout.toNat }) := by
    rcases (session.record row).wait_cases policy.timeout.toNat with ⟨done, _⟩ | ⟨_, passed⟩
    · exact absurd done live
    · exact passed
  simp only [callAt, Call.make, limit, if_pos limited, Rewriter.call, hangs, waited]
  exact ⟨trivial, rfl, trivial⟩

-- Under a policy that makes calls, the rewriting goes as accounted. Its calls are the ones that a
-- rewriter notes down, and the time limit of one call keeps none from being made after it.
theorem retries_follow_protocol (policy : Policy) (next : Caller) (row : Bytes) (session : Session)
    (wrapped : policy.wraps = true) (counted : 0 ≤ policy.attempts) :
    let made := policy.calls next row session
    let rewritten := policy.rewrite next row session
    Account policy next row session made rewritten ∧
      (Notes next → rewritten.session.calls = session.calls ++ List.replicate made.length row) ∧
      ∀ (rewriter : Rewriter) (j : Nat) call, next = rewriter.call → made[j]? = some call →
        0 < policy.timeout → rewriter.reply call.session.calls.length row = .hang → j < policy.attempts →
        ¬ call.session.DoneBy (call.session.now + policy.timeout.toNat + policy.backoff.toNat) →
          call.result = .error .deadlineExceeded ∧ ∃ later, made[j + 1]? = some later := by
  have course := rewrite_course policy next row session wrapped counted
  have account := course_account policy next row session _ _ course
  refine ⟨account, ?_, ?_⟩
  · intro notes
    rw [rewrite_notes policy next row session notes, List.map_const']
  · rintro rewriter j call rfl found limited hangs left live
    have same := course_genuine course j call found
    have during : ¬ call.session.DoneBy (call.session.now + policy.timeout.toNat) :=
      mt (call.session.done_by_mono _ _ (Nat.le_add_right _ _)) live
    obtain ⟨expired, ends, now⟩ := policy.hang_times_out rewriter row call.session limited hangs during
    rw [← same] at expired ends now
    have resting : ¬ policy.Interrupts call := by
      rw [Interrupts, Session.DoneBy, ends, now]
      exact live
    obtain ⟨later, more, -⟩ := account.timedOut j call found expired left resting
    exact ⟨expired, later, more⟩

def patient : Policy := .ofMillis 5 2 1

def flaky : Rewriter := .scripted [.fail (.status .unavailable "down"), .hang, .echo]

-- The third call gives the row. A caller that has half a millisecond is out of time before the second.
theorem patient_follows_protocol :
    patient.wraps = true ∧ 0 ≤ patient.attempts ∧
      (patient.rewrite flaky.call (ascii "VEX a") .start).result = .ok (ascii "VEX a") ∧
      (patient.rewrite flaky.call (ascii "VEX a") .start).session.calls = List.replicate 3 (ascii "VEX a") ∧
      (patient.rewrite flaky.call (ascii "VEX a") (.startWithin 500000)).result = .error .deadlineExceeded ∧
      (patient.rewrite flaky.call (ascii "VEX a") (.startWithin 500000)).logs[0]? =
        some (retryEntry 1 (.status .unavailable "down")) := by
  have wrapped : patient.wraps = true := by decide
  have counted : 0 ≤ patient.attempts := by decide
  obtain ⟨account, noted, -⟩ := retries_follow_protocol patient flaky.call (ascii "VEX a") .start wrapped counted
  obtain ⟨hurried, -, -⟩ :=
    retries_follow_protocol patient flaky.call (ascii "VEX a") (.startWithin 500000) wrapped counted
  have decided : patient.Retries 0 (patient.callAt flaky.call (ascii "VEX a") (.startWithin 500000))
      (.status .unavailable "down") := by
    refine ⟨rfl, by decide, by decide, ?_⟩
    rintro ⟨ending, ends, reached⟩
    cases ends
    revert reached
    decide
  refine ⟨wrapped, counted, ?_, ?_, ?_, ?_⟩
  · exact (account.given 2 _ _ rfl rfl).2
  · exact noted (rewriter_notes flaky)
  · exact hurried.interrupted 0 _ _ rfl rfl decided
  · exact (hurried.warned 0 _).mpr ⟨_, _, rfl, decided, rfl⟩

end Policy

end OpcodeTable.Vector
