import OpcodeTable.Pipeline.Assembly
import OpcodeTable.Pipeline.Document
import OpcodeTable.Proofs.Transform

set_option autoImplicit false

namespace OpcodeTable.Vector

structure Call where
  limit : Option Nat
  session : Session
  result : Except Fault Bytes
  after : Session

def Call.make (next : Caller) (limit : Option Nat) (row : Bytes) (session : Session) : Call :=
  ⟨limit, session, (next limit row session).1, (next limit row session).2⟩

def Notes (next : Caller) : Prop :=
  ∀ limit row session, (Call.make next limit row session).after.calls = session.calls ++ [row]

theorem wait_calls (session later : Session) (moment : Nat) (ended : Except Fault Unit)
    (waited : session.waitUntil moment = (ended, later)) : later.calls = session.calls := by
  unfold Session.waitUntil at waited
  split at waited
  · split at waited
    · cases waited
      rfl
    · cases waited
      rfl
  · cases waited
    rfl

namespace Policy

def retried (policy : Policy) (next : Caller) (row : Bytes) : Nat → Fault → Session → List Call
  | 0, _, _ => []
  | left + 1, fault, session =>
      if isFinal fault session then []
      else
        match session.waitUntil (session.now + policy.backoff.toNat) with
        | (.error _, _) => []
        | (.ok (), later) =>
            let call := Call.make next (policy.limit later) row later
            call ::
              match call.result with
              | .ok _ => []
              | .error again => policy.retried next row left again call.after

def calls (policy : Policy) (next : Caller) (row : Bytes) (session : Session) : List Call :=
  if !policy.wraps then [Call.make next Option.none row session]
  else if policy.attempts < 0 then []
  else
    let call := Call.make next (policy.limit session) row session
    call ::
      match call.result with
      | .ok _ => []
      | .error fault => policy.retried next row policy.attempts.toNat fault call.after

def Skips (policy : Policy) : Prop := 0 < policy.timeout ∧ policy.attempts < 0

theorem skips_iff (policy : Policy) : policy.Skips ↔ policy.wraps = true ∧ policy.attempts < 0 := by
  simp only [Skips, wraps, Bool.not_eq_true', Bool.and_eq_false_iff, decide_eq_false_iff_not]
  omega

theorem retry_cases (policy : Policy) (next : Caller) (row : Bytes) (left attempt : Nat) (fault : Fault)
    (session : Session) (logs : List Log.Entry) :
    let retry := policy.retry next row (left + 1) attempt fault session logs
    let retried := policy.retried next row (left + 1) fault session
    let noted := retryEntry attempt fault :: logs
    let wait := session.waitUntil (session.now + policy.backoff.toNat)
    (isFinal fault session = true ∧ retry = ⟨.error fault, session, logs.reverse⟩ ∧ retried = []) ∨
    (isFinal fault session = false ∧ ∃ ended later, wait = (.error ended, later) ∧
      retry = ⟨.error ended, later, noted.reverse⟩ ∧ retried = []) ∨
    (isFinal fault session = false ∧ ∃ later text, wait = (.ok (), later) ∧
      let call := Call.make next (policy.limit later) row later
      call.result = .ok text ∧ retry = ⟨.ok text, call.after, noted.reverse⟩ ∧ retried = [call]) ∨
    (isFinal fault session = false ∧ ∃ later again, wait = (.ok (), later) ∧
      let call := Call.make next (policy.limit later) row later
      call.result = .error again ∧
        retry = policy.retry next row left (attempt + 1) again call.after noted ∧
        retried = call :: policy.retried next row left again call.after) := by
  dsimp only
  rw [retry, retried]
  cases final : isFinal fault session with
  | true => exact Or.inl ⟨rfl, rfl, rfl⟩
  | false =>
      right
      cases waited : session.waitUntil (session.now + policy.backoff.toNat) with
      | mk ended later =>
          cases ended with
          | error ending => exact Or.inl ⟨rfl, ending, later, rfl, rfl, rfl⟩
          | ok _ =>
              right
              dsimp only [call, Call.make]
              cases answered : next (policy.limit later) row later with
              | mk result after =>
                  cases result with
                  | ok text => exact Or.inl ⟨rfl, later, text, rfl, by simp [answered]⟩
                  | error again => exact Or.inr ⟨rfl, later, again, rfl, by simp [answered]⟩

-- The four kinds of rewriting: no call, one call without a policy, and a first call that gives a text
-- or is followed by retries.
theorem rewrite_cases (policy : Policy) (next : Caller) (row : Bytes) (session : Session) :
    let rewritten := policy.rewrite next row session
    let calls := policy.calls next row session
    let bare := Call.make next Option.none row session
    let first := Call.make next (policy.limit session) row session
    (policy.Skips ∧ rewritten = ⟨.ok [], session, []⟩ ∧ calls = []) ∨
    (¬ policy.Skips ∧ policy.wraps = false ∧ rewritten = ⟨bare.result, bare.after, []⟩ ∧ calls = [bare]) ∨
    (¬ policy.Skips ∧ policy.wraps = true ∧ ∃ text, first.result = .ok text ∧
      rewritten = ⟨.ok text, first.after, []⟩ ∧ calls = [first]) ∨
    (¬ policy.Skips ∧ policy.wraps = true ∧ ∃ fault, first.result = .error fault ∧
      rewritten = policy.retry next row policy.attempts.toNat 1 fault first.after [] ∧
      calls = first :: policy.retried next row policy.attempts.toNat fault first.after) := by
  dsimp only
  rw [rewrite, calls, skips_iff]
  cases wrapped : policy.wraps with
  | false => exact Or.inr (Or.inl ⟨by simp, rfl, rfl, rfl⟩)
  | true =>
      by_cases negative : policy.attempts < 0
      · exact Or.inl ⟨⟨rfl, negative⟩, by simp [negative], by simp [negative]⟩
      · right
        right
        have called : ¬ (true = true ∧ policy.attempts < 0) := fun both => negative both.2
        dsimp only [call, Call.make]
        cases answered : next (policy.limit session) row session with
        | mk result after =>
            cases result with
            | ok text => exact Or.inl ⟨called, rfl, text, rfl, by simp [negative]⟩
            | error fault => exact Or.inr ⟨called, rfl, fault, rfl, by simp [negative]⟩

theorem retried_genuine (policy : Policy) (next : Caller) (row : Bytes) (left : Nat) (fault : Fault)
    (session : Session) :
    ∀ call ∈ policy.retried next row left fault session,
      next call.limit row call.session = (call.result, call.after) := by
  induction left generalizing fault session with
  | zero => simp [retried]
  | succ left ih =>
      rcases retry_cases policy next row left 0 fault session [] with
        ⟨_, _, made⟩ | ⟨_, _, _, _, _, made⟩ | ⟨_, later, _, _, _, _, made⟩ | ⟨_, later, again, _, _, _, made⟩
      · simp [made]
      · simp [made]
      · rw [made]
        intro call member
        rw [List.mem_singleton.mp member]
        rfl
      · rw [made]
        intro call member
        rcases List.mem_cons.mp member with first | more
        · rw [first]
          rfl
        · exact ih again _ call more

theorem calls_genuine (policy : Policy) (next : Caller) (row : Bytes) (session : Session) :
    ∀ call ∈ policy.calls next row session, next call.limit row call.session = (call.result, call.after) := by
  intro call member
  rcases rewrite_cases policy next row session with
    ⟨_, _, made⟩ | ⟨_, _, _, made⟩ | ⟨_, _, _, _, _, made⟩ | ⟨_, _, fault, _, _, made⟩
  · rw [made] at member
    cases member
  · rw [made] at member
    rw [List.mem_singleton.mp member]
    rfl
  · rw [made] at member
    rw [List.mem_singleton.mp member]
    rfl
  · rw [made] at member
    rcases List.mem_cons.mp member with first | more
    · rw [first]
      rfl
    · exact retried_genuine policy next row _ fault _ call more

theorem retry_text (policy : Policy) (next : Caller) (row : Bytes) (left attempt : Nat) (fault : Fault)
    (session : Session) (logs : List Log.Entry) (text : Bytes)
    (given : (policy.retry next row left attempt fault session logs).result = .ok text) :
    ∃ call ∈ policy.retried next row left fault session, call.result = .ok text := by
  induction left generalizing attempt fault session logs with
  | zero => cases given
  | succ left ih =>
      rcases retry_cases policy next row left attempt fault session logs with
        ⟨_, ran, _⟩ | ⟨_, _, _, _, ran, _⟩ | ⟨_, later, found, _, right, ran, made⟩ |
        ⟨_, later, again, _, _, ran, made⟩
      · rw [ran] at given
        cases given
      · rw [ran] at given
        cases given
      · rw [ran] at given
        rw [made]
        exact ⟨_, List.mem_singleton_self _, right.trans given⟩
      · rw [ran] at given
        rw [made]
        obtain ⟨call, member, right⟩ := ih _ _ _ _ given
        exact ⟨call, List.mem_cons_of_mem _ member, right⟩

theorem retry_notes (policy : Policy) (next : Caller) (row : Bytes) (left attempt : Nat) (fault : Fault)
    (session : Session) (logs : List Log.Entry) (notes : Notes next) :
    (policy.retry next row left attempt fault session logs).session.calls =
      session.calls ++ (policy.retried next row left fault session).map fun _ => row := by
  induction left generalizing attempt fault session logs with
  | zero => simp [retry, retried]
  | succ left ih =>
      rcases retry_cases policy next row left attempt fault session logs with
        ⟨_, ran, made⟩ | ⟨_, _, later, waited, ran, made⟩ | ⟨_, later, _, waited, _, ran, made⟩ |
        ⟨_, later, again, waited, _, ran, made⟩
      · simp [ran, made]
      · simp [ran, made, wait_calls _ _ _ _ waited]
      · have noted := notes (policy.limit later) row later
        rw [wait_calls _ _ _ _ waited] at noted
        simpa [ran, made] using noted
      · have noted := notes (policy.limit later) row later
        rw [wait_calls _ _ _ _ waited] at noted
        rw [ran, made, ih, noted]
        simp

theorem rewrite_notes (policy : Policy) (next : Caller) (row : Bytes) (session : Session) (notes : Notes next) :
    (policy.rewrite next row session).session.calls =
      session.calls ++ (policy.calls next row session).map fun _ => row := by
  rcases rewrite_cases policy next row session with
    ⟨_, ran, made⟩ | ⟨_, _, ran, made⟩ | ⟨_, _, _, _, ran, made⟩ | ⟨_, _, fault, _, ran, made⟩
  · simp [ran, made]
  · simpa [ran, made] using notes Option.none row session
  · simpa [ran, made] using notes (policy.limit session) row session
  · rw [ran, made, retry_notes _ _ _ _ _ _ _ _ notes, notes]
    simp

theorem rewrite_text (policy : Policy) (next : Caller) (row : Bytes) (session : Session) (text : Bytes)
    (calling : ¬ policy.Skips) (given : (policy.rewrite next row session).result = .ok text) :
    ∃ call ∈ policy.calls next row session, call.result = .ok text := by
  rcases rewrite_cases policy next row session with
    ⟨skips, _, _⟩ | ⟨_, _, ran, made⟩ | ⟨_, _, found, right, ran, made⟩ | ⟨_, _, fault, _, ran, made⟩
  · exact absurd skips calling
  · rw [ran] at given
    rw [made]
    exact ⟨_, List.mem_singleton_self _, given⟩
  · rw [ran] at given
    rw [made]
    exact ⟨_, List.mem_singleton_self _, right.trans given⟩
  · rw [ran] at given
    rw [made]
    obtain ⟨call, member, right⟩ := retry_text policy next row _ _ fault _ _ text given
    exact ⟨call, List.mem_cons_of_mem _ member, right⟩

theorem calls_nonempty (policy : Policy) (next : Caller) (row : Bytes) (session : Session)
    (calling : ¬ policy.Skips) : policy.calls next row session ≠ [] := by
  rcases rewrite_cases policy next row session with
    ⟨skips, _, _⟩ | ⟨_, _, _, made⟩ | ⟨_, _, _, _, _, made⟩ | ⟨_, _, _, _, _, made⟩
  · exact absurd skips calling
  · simp [made]
  · simp [made]
  · simp [made]

theorem rewrite_skipped (policy : Policy) (next : Caller) (row : Bytes) (session : Session)
    (skips : policy.Skips) :
    policy.rewrite next row session = ⟨.ok [], session, []⟩ ∧ policy.calls next row session = [] := by
  rcases rewrite_cases policy next row session with
    ⟨_, ran, made⟩ | ⟨calling, _⟩ | ⟨calling, _⟩ | ⟨calling, _⟩
  · exact ⟨ran, made⟩
  · exact absurd skips calling
  · exact absurd skips calling
  · exact absurd skips calling

end Policy

theorem rewriter_notes (rewriter : Rewriter) : Notes rewriter.call := by
  intro limit row session
  simp only [Call.make, Rewriter.call]
  cases rewriter.reply session.calls.length row with
  | row text => rfl
  | refuse fault => rfl
  | abandon delay fault => rfl
  | hang =>
      cases limit with
      | none => rfl
      | some moment =>
          simp only
          cases waited : (session.record row).waitUntil moment with
          | mk ended later =>
              have kept := wait_calls _ _ _ _ waited
              cases ended with
              | error fault => exact kept
              | ok _ => exact kept

end OpcodeTable.Vector

namespace OpcodeTable.Pipeline.Runner

open Batch (Answered exchanges texts vectorRows weave)
open OpcodeTable.Vector (Act Caller Policy Rewriter Session)

theorem exchange_given (runner : Runner) (rows : List Bytes) (session : Session)
    (calling : ¬ runner.policy.Skips) (served : Answered (some runner.rewrite) rows session) :
    ∀ exchange ∈ exchanges (some runner.rewrite) rows session,
      ∃ call ∈ runner.policy.calls runner.vector.call exchange.row exchange.before,
        ∃ text, call.result = .ok text ∧ exchange.text = some text := by
  induction rows generalizing session with
  | nil => simp [exchanges]
  | cons row rest ih =>
      obtain ⟨call, text, same, given, later⟩ := (Batch.answered_cons _ row rest session).mp served
      cases same
      rw [Batch.exchanges_cons runner.rewrite row rest session text given]
      intro exchange member
      rcases List.mem_cons.mp member with first | more
      · subst first
        obtain ⟨made, inside, right⟩ :=
          runner.policy.rewrite_text runner.vector.call row session text calling given
        exact ⟨made, inside, text, right, by simp [Batch.Exchange.text, given, Except.toOption]⟩
      · exact ih _ later exchange more

theorem skipping_answered (runner : Runner) (rows : List Bytes) (session : Session)
    (skips : runner.policy.Skips) :
    Answered (some runner.rewrite) rows session ∧
      texts (exchanges (some runner.rewrite) rows session) = rows.map fun _ => [] := by
  induction rows with
  | nil => exact ⟨⟨rfl, by simp [exchanges]⟩, rfl⟩
  | cons row rest ih =>
      have skipped := (runner.policy.rewrite_skipped runner.vector.call row session skips).1
      have answer : runner.rewrite row session = ⟨.ok [], session, []⟩ := by
        simp [rewrite, Vector.Client.rewrite, skipped]
      have given : (runner.rewrite row session).result = .ok [] := by rw [answer]
      constructor
      · rw [Batch.answered_cons]
        exact ⟨runner.rewrite, [], rfl, given, by simpa only [answer] using ih.1⟩
      · rw [Batch.exchanges_cons runner.rewrite row rest session [] given, answer]
        have tail := ih.2
        simp only [texts] at tail
        simp [texts, Batch.Exchange.text, Except.toOption, tail]

-- A policy makes a call and answers only with what a call gave exactly when it does not skip them. The
-- rows of a batch follow it: a skipping policy leaves a blank where each vector row was.
theorem vector_text_given_iff (policy : Policy) (next : Caller) (row : Bytes) (session : Session)
    (runner : Runner) (rows : List Bytes) :
    let made := policy.calls next row session
    let rewritten := policy.rewrite next row session
    let answered := exchanges (some runner.rewrite) (vectorRows rows) session
    let result := Batch.transform (some runner.rewrite) rows session
    (∀ call ∈ made, next call.limit row call.session = (call.result, call.after)) ∧
      (∀ rewriter : Rewriter, next = rewriter.call →
        rewritten.session.calls = session.calls ++ made.map fun _ => row) ∧
      ((made ≠ [] ∧ ∀ text, rewritten.result = .ok text → ∃ call ∈ made, call.result = .ok text) ↔
        ¬ policy.Skips) ∧
      (policy.Skips → made = [] ∧ rewritten = ⟨.ok [], session, []⟩) ∧
      (¬ runner.policy.Skips → ∀ written, result.outcome = .ok written →
        answered.map Batch.Exchange.row = vectorRows rows ∧ written = weave rows (texts answered) ∧
          ∀ exchange ∈ answered,
            ∃ call ∈ runner.policy.calls runner.vector.call exchange.row exchange.before,
              ∃ text, call.result = .ok text ∧ exchange.text = some text) ∧
      (runner.policy.Skips → result.outcome = .ok (weave rows ((vectorRows rows).map fun _ => []))) := by
  refine ⟨policy.calls_genuine next row session, ?_, ?_, ?_, ?_, ?_⟩
  · rintro rewriter rfl
    exact policy.rewrite_notes rewriter.call row session (Vector.rewriter_notes rewriter)
  · constructor
    · intro called skips
      exact called.1 (policy.rewrite_skipped next row session skips).2
    · intro calling
      exact ⟨policy.calls_nonempty next row session calling,
        fun text given => policy.rewrite_text next row session text calling given⟩
  · intro skips
    exact (policy.rewrite_skipped next row session skips).symm
  · intro calling written finished
    obtain ⟨served, same⟩ := Batch.transform_rows (some runner.rewrite) rows session written finished
    exact ⟨served.1, same, runner.exchange_given (vectorRows rows) session calling served⟩
  · intro skips
    obtain ⟨served, blanks⟩ := runner.skipping_answered (vectorRows rows) session skips
    rw [← blanks]
    exact (Batch.transform_completed (some runner.rewrite) rows session served).outcome

-- A description that is accepted as it is, and a rewriter that never gives an empty text: the row comes
-- back empty, without a failure and without a call.
theorem negative_attempts_invent_text :
    let vector : VectorSpec := ⟨"passthrough", "", 2000, -1, 0⟩
    let accepted := Spec.accept "pipeline.yml" { Spec.standard with vector := vector }
    let rewriter := Rewriter.scripted [Act.surround (ascii "<") (ascii ">")]
    accepted.toOption.map Spec.vector = some vector ∧
      (∀ limit session, (rewriter.call limit (ascii "VEX a") session).1 = .ok (ascii "<VEX a>")) ∧
      vector.policy.rewrite rewriter.call (ascii "VEX a") Session.start = ⟨.ok [], Session.start, []⟩ := by
  refine ⟨by decide, ?_, rfl⟩
  intro limit session
  simp only [Rewriter.call, Rewriter.scripted, List.length_singleton, Nat.sub_self, Nat.min_zero]
  rfl

end OpcodeTable.Pipeline.Runner
