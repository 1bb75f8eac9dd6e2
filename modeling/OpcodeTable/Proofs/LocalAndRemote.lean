import OpcodeTable.Proofs.RetryProtocol
import OpcodeTable.Vector.Client

/-!
The server tells a failure in its own words before the caller's policy gets to see it. The words keep what
a policy goes by, so that both sides make the same calls.
-/

set_option autoImplicit false

namespace OpcodeTable.Vector

def told (fault : Fault) : Fault := delivered (served fault)

theorem delivered_status (fault : Fault) (code : StatusCode) (known : fault.statusOf = some code) :
    (delivered fault).statusOf = some code := by
  cases fault with
  | status other description => exact known
  | within before cause after =>
      change some ((Fault.within before cause after).statusOf.getD .unknown) = some code
      rw [known, Option.getD_some]
  | both first second =>
      change some ((Fault.both first second).statusOf.getD .unknown) = some code
      rw [known, Option.getD_some]
  | plain _ | lineTooLong | unavailable | canceled | deadlineExceeded | file _ _ _ | malformedDocument
  | undecodable | invalid _ | misuse => cases known

theorem told_status (fault : Fault) (code : StatusCode) (known : fault.statusOf = some code) :
    (told fault).statusOf = some code := by
  have kept : served fault = fault := by simp only [served, known]
  rw [told, kept]
  exact delivered_status fault code known

theorem told_plain (fault : Fault) (unknown : fault.statusOf = none) :
    told fault = .status .internal fault.message := by
  simp only [told, served, unknown, delivered]

theorem told_final (fault : Fault) (session : Session) :
    Policy.isFinal (told fault) session = Policy.isFinal fault session := by
  unfold Policy.isFinal
  cases known : fault.statusOf with
  | some code => rw [told_status fault code known]
  | none =>
      rw [told_plain fault known]
      rfl

def Reply.Prompt : Reply → Prop
  | .row text => Utf8.isValid text = true ∧ Server.receive text = .ok text
  | .refuse fault => fault.statusOf ≠ some .ok
  | .hang | .abandon _ _ => False

structure Connection.Reaches (connection : Connection) (rewriter : Rewriter) (row : Bytes) : Prop where
  dialled : connection.isOpen = true
  mounted : ∃ server, connection.server = some server ∧ server.rewriter = some rewriter
  present : row ≠ []
  valid : Utf8.isValid row = true
  carried : Server.receive row = .ok row

namespace Session

theorem record_over (session : Session) (row : Bytes) : (session.record row).isOver = session.isOver := rfl

theorem wait_ended (session later : Session) (moment : Nat) (fault : Fault)
    (waited : session.waitUntil moment = (.error fault, later)) :
    fault = later.reason ∧ later.isOver = true ∧ later.endsAt = session.endsAt := by
  unfold waitUntil at waited
  split at waited
  · rename_i ending ends
    split at waited
    · cases waited
      refine ⟨rfl, ?_, rfl⟩
      simp only [isOver, ends, Option.any_some, decide_eq_true_eq]
      omega
    · cases waited
  · cases waited

end Session

section Pair

variable {rewriter : Rewriter} {connection : Connection} {row : Bytes}

theorem call_both (reaches : connection.Reaches rewriter row) (prompt : ∀ call, (rewriter.reply call row).Prompt)
    (limit : Option Nat) (session : Session) (live : session.isOver = false)
    (ahead : Connection.hasPassed limit session = false) :
    (∃ text, rewriter.call limit row session = (.ok text, session.record row) ∧
      connection.call limit row session = (.ok text, session.record row)) ∨
    ∃ fault, rewriter.reply session.calls.length row = .refuse fault ∧
      rewriter.call limit row session = (.error fault, session.record row) ∧
      connection.call limit row session = (.error (told fault), session.record row) := by
  obtain ⟨server, found, mounted⟩ := reaches.mounted
  have filled : row.isEmpty = false := by simpa using reaches.present
  have sent : connection.call limit row session = Connection.settle limit (server.call limit row session) := by
    simp [Connection.call, reaches.dialled, live, reaches.valid, found]
  have settled (result : Except Fault Bytes) :
      Connection.settle limit (result, session.record row) = (result, session.record row) := by
    have later : Connection.hasPassed limit (session.record row) = false := ahead
    simp [Connection.settle, Session.record_over, live, later]
  have answer := prompt session.calls.length
  cases reply : rewriter.reply session.calls.length row with
  | row text =>
      rw [reply] at answer
      obtain ⟨valid, carried⟩ := answer
      have called : rewriter.call limit row session = (.ok text, session.record row) := by
        simp only [Rewriter.call, reply]
      refine Or.inl ⟨text, called, ?_⟩
      have served : server.call limit row session = (.ok text, session.record row) := by
        simp [Server.call, mounted, reaches.carried, serve, filled, called, valid, carried]
      rw [sent, served, settled]
  | refuse fault =>
      have called : rewriter.call limit row session = (.error fault, session.record row) := by
        simp only [Rewriter.call, reply]
      refine Or.inr ⟨fault, rfl, called, ?_⟩
      have served : server.call limit row session = (.error (told fault), session.record row) := by
        simp [Server.call, mounted, reaches.carried, serve, filled, called, told]
      rw [sent, served, settled]
  | hang =>
      rw [reply] at answer
      exact answer.elim
  | abandon delay fault =>
      rw [reply] at answer
      exact answer.elim

def warnings : Nat → List Fault → List Log.Entry
  | _, [] => []
  | attempt, fault :: rest => Policy.retryEntry attempt fault :: warnings (attempt + 1) rest

inductive Ending (rewriter : Rewriter) (row : Bytes) (after : Session) : Except Fault Bytes → Except Fault Bytes → Prop
  | given (text : Bytes) : Ending rewriter row after (.ok text) (.ok text)
  | refused (number : Nat) (fault : Fault) (last : after.calls.length = number + 1)
      (reply : rewriter.reply number row = .refuse fault) :
      Ending rewriter row after (.error fault) (.error (told fault))
  | interrupted (finished : after.isOver = true) : Ending rewriter row after (.error after.reason) (.error after.reason)

structure Alike (rewriter : Rewriter) (row : Bytes) (ends : Option Nat) (attempt : Nat)
    (nearLogs farLogs : List Log.Entry) (near far : Rewritten) : Prop where
  same : far.session = near.session
  caller : near.session.endsAt = ends
  ending : Ending rewriter row near.session near.result far.result
  logs : ∃ faults, near.logs = nearLogs.reverse ++ warnings attempt faults ∧
    far.logs = farLogs.reverse ++ warnings attempt (faults.map told)

theorem limit_not_passed (policy : Policy) (session : Session) :
    Connection.hasPassed (policy.limit session) session = false := by
  cases limited : policy.limit session with
  | none => rfl
  | some moment =>
      have ahead := policy.limit_ahead session moment limited
      simp only [Connection.hasPassed, Option.any_some, decide_eq_false_iff_not]
      omega

theorem retry_alike (policy : Policy) (reaches : connection.Reaches rewriter row)
    (prompt : ∀ call, (rewriter.reply call row).Prompt) (left attempt number : Nat) (fault : Fault) (session : Session)
    (nearLogs farLogs : List Log.Entry) (live : session.isOver = false) (last : session.calls.length = number + 1)
    (reply : rewriter.reply number row = .refuse fault) :
    Alike rewriter row session.endsAt attempt nearLogs farLogs
      (policy.retry rewriter.call row left attempt fault session nearLogs)
      (policy.retry connection.call row left attempt (told fault) session farLogs) := by
  induction left generalizing attempt number fault session nearLogs farLogs with
  | zero => exact ⟨rfl, rfl, .refused number fault last reply, [], by simp [Policy.retry, warnings]⟩
  | succ left ih =>
      rw [Policy.retry, Policy.retry, told_final]
      cases final : Policy.isFinal fault session with
      | true => exact ⟨rfl, rfl, .refused number fault last reply, [], by simp [warnings]⟩
      | false =>
          simp only [Bool.false_eq_true, if_false]
          rcases waited : session.waitUntil (session.now + policy.backoff.toNat) with ⟨ended | _, later⟩
          -- Both sides wait for the same time, and only the caller can end that early.
          · obtain ⟨rfl, finished, kept⟩ := session.wait_ended later _ ended waited
            exact ⟨rfl, kept, .interrupted finished, [fault], by simp [warnings]⟩
          · obtain ⟨undone, rfl⟩ := session.wait_over later _ waited
            have awake : Session.isOver { session with now := session.now + policy.backoff.toNat } = false := by
              rw [← Bool.not_eq_true, Session.is_over_iff]
              exact undone
            rcases call_both reaches prompt _ _ awake (limit_not_passed policy _) with
              ⟨text, near, far⟩ | ⟨again, refusal, near, far⟩
            · simp only [Policy.call, near, far]
              exact ⟨rfl, rfl, .given text, [fault], by simp [warnings]⟩
            · simp only [Policy.call, near, far]
              have rest := ih (attempt + 1) session.calls.length again
                (Session.record { session with now := session.now + policy.backoff.toNat } row)
                (Policy.retryEntry attempt fault :: nearLogs) (Policy.retryEntry attempt (told fault) :: farLogs)
                awake (by simp [Session.record]) refusal
              obtain ⟨faults, nearNoted, farNoted⟩ := rest.logs
              refine ⟨rest.same, rest.caller, rest.ending, fault :: faults, ?_, ?_⟩
              · simpa [warnings] using nearNoted
              · simpa [warnings] using farNoted

theorem rewrite_alike (policy : Policy) (reaches : connection.Reaches rewriter row)
    (prompt : ∀ call, (rewriter.reply call row).Prompt) (session : Session) (live : session.isOver = false)
    (counted : 0 ≤ policy.attempts) :
    Alike rewriter row session.endsAt 1 [] [] (policy.rewrite rewriter.call row session)
      (policy.rewrite connection.call row session) := by
  have calling : ¬ policy.attempts < 0 := by omega
  unfold Policy.rewrite
  cases policy.wraps with
  | false =>
      rcases call_both reaches prompt none session live rfl with ⟨text, near, far⟩ | ⟨fault, refusal, near, far⟩
      · simp only [near, far]
        exact ⟨rfl, rfl, .given text, [], rfl, rfl⟩
      · simp only [near, far]
        exact ⟨rfl, rfl, .refused _ fault (by simp [Session.record]) refusal, [], rfl, rfl⟩
  | true =>
      simp only [Bool.not_true, Bool.false_eq_true, if_false, calling]
      rcases call_both reaches prompt _ session live (limit_not_passed policy session) with
        ⟨text, near, far⟩ | ⟨fault, refusal, near, far⟩
      · simp only [Policy.call, near, far]
        exact ⟨rfl, rfl, .given text, [], rfl, rfl⟩
      · simp only [Policy.call, near, far]
        exact retry_alike policy reaches prompt _ 1 session.calls.length fault (session.record row) [] [] live
          (by simp [Session.record]) refusal

end Pair

theorem warnings_length (attempt : Nat) (faults : List Fault) : (warnings attempt faults).length = faults.length := by
  induction faults generalizing attempt with
  | nil => rfl
  | cons fault rest ih => rw [warnings, List.length_cons, List.length_cons, ih]

-- The far side tells a failure by the status of the last refusal, or as an internal one with its text. A
-- caller that gives up between two calls gets to hear only that, on both sides.
theorem clients_interchangeable (policy : Policy) (rewriter : Rewriter) (ending : Option Fault)
    (connection : Connection) (row : Bytes) (session : Session) (counted : 0 ≤ policy.attempts)
    (live : session.isOver = false) (reaches : connection.Reaches rewriter row)
    (prompt : ∀ call, (rewriter.reply call row).Prompt) :
    let near := (Client.inProcess rewriter ending).rewrite policy row session
    let far := (Client.remote connection).rewrite policy row session
    far.session.calls = near.session.calls ∧ far.logs.length = near.logs.length ∧
      ((∃ text, near.result = .ok text ∧ far.result = .ok text) ∨
        ∃ fault remote, near.result = .error fault ∧ far.result = .error remote ∧
          ((∃ number, near.session.calls.length = number + 1 ∧ rewriter.reply number row = .refuse fault ∧
            (∀ code, fault.statusOf = some code → remote.statusOf = some code) ∧
            (fault.statusOf = none → remote = .status .internal fault.message)) ∨
          (session.endsAt ≠ none ∧ near.session.isOver = true ∧ fault = near.session.reason ∧ remote = fault))) := by
  intro near far
  have alike := rewrite_alike policy reaches prompt session live counted
  obtain ⟨faults, nearNoted, farNoted⟩ := alike.logs
  have nearLogs : near.logs = warnings 1 faults := nearNoted
  have farLogs : far.logs = warnings 1 (faults.map told) := farNoted
  refine ⟨congrArg Session.calls alike.same, ?_, ?_⟩
  · rw [nearLogs, farLogs, warnings_length, warnings_length, List.length_map]
  · have ended : Ending rewriter row near.session near.result far.result := alike.ending
    generalize near.result = nearResult at ended ⊢
    generalize far.result = farResult at ended ⊢
    cases ended with
    | given text => exact Or.inl ⟨text, rfl, rfl⟩
    | refused number fault last reply =>
        refine Or.inr ⟨fault, told fault, rfl, rfl, Or.inl ⟨number, last, reply, told_status fault, told_plain fault⟩⟩
    | interrupted finished =>
        refine Or.inr ⟨_, _, rfl, rfl, Or.inr ⟨?_, finished, rfl, rfl⟩⟩
        intro endless
        have caller : near.session.endsAt = none := alike.caller.trans endless
        simp [Session.isOver, caller] at finished

def moody : Rewriter :=
  .scripted [.fail (.plain "boom"), .fail (.context "rules: " (.status .invalidArgument "bad row"))]

def dialled : Connection := .dial (.direct "bufnet") (some (.start (some moody) []))

theorem moody_prompt (call : Nat) : (moody.reply call (ascii "VEX a")).Prompt := by
  have position : min call 1 = 0 ∨ min call 1 = 1 := by omega
  have reply : moody.reply call (ascii "VEX a") = Act.reply (ascii "VEX a") ([Act.fail (.plain "boom"),
      .fail (.context "rules: " (.status .invalidArgument "bad row"))].getD (min call 1) .echo) := rfl
  rw [reply]
  rcases position with first | later
  · rw [first]
    exact nofun
  · rw [later]
    exact fun same => absurd same (by decide)

def generous : Policy := .ofMillis 2000 3 1

theorem moody_interchangeable :
    0 ≤ generous.attempts ∧ dialled.Reaches moody (ascii "VEX a") ∧
      ((Client.remote dialled).rewrite generous (ascii "VEX a") .start).session.calls =
        ((Client.inProcess moody none).rewrite generous (ascii "VEX a") .start).session.calls ∧
      ((Client.inProcess moody none).rewrite generous (ascii "VEX a") .start).session.calls.length = 2 ∧
      ∃ remote, ((Client.remote dialled).rewrite generous (ascii "VEX a") .start).result = .error remote ∧
        remote.statusOf = some .invalidArgument := by
  have counted : 0 ≤ generous.attempts := by decide
  have reaches : dialled.Reaches moody (ascii "VEX a") := ⟨rfl, ⟨_, rfl, rfl⟩, by decide, by decide, rfl⟩
  obtain ⟨calls, _, ended⟩ :=
    clients_interchangeable generous moody none dialled (ascii "VEX a") .start counted rfl reaches moody_prompt
  refine ⟨counted, reaches, calls, by decide, ?_⟩
  rcases ended with ⟨text, given, _⟩ | ⟨fault, remote, failed, told, refused | ⟨gone, _⟩⟩
  · cases given
  · obtain ⟨_, _, _, code, _⟩ := refused
    cases failed
    exact ⟨remote, told, code .invalidArgument rfl⟩
  · exact absurd rfl gone

end OpcodeTable.Vector
