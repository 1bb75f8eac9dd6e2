import OpcodeTable.Batch

/-!
The rewriter is looked at on its own, as it answers the vector rows one after another; the rows, the
counts and the log of a batch are then told from the classes of the rows and those answers alone.
-/

set_option autoImplicit false

namespace OpcodeTable.Batch

open Row (RowClass)

variable {σ : Type}

structure Exchange (σ : Type) where
  row : Bytes
  before : σ
  answer : Answer σ

def Exchange.text (exchange : Exchange σ) : Option Bytes := exchange.answer.result.toOption

def exchanges (rewrite : Option (Bytes → σ → Answer σ)) : List Bytes → σ → List (Exchange σ)
  | [], _ => []
  | row :: rest, state =>
      match rewrite with
      | none => []
      | some call =>
          let answer := call row state
          ⟨row, state, answer⟩ ::
            match answer.result with
            | .ok _ => exchanges rewrite rest answer.state
            | .error _ => []

def vectorRows (rows : List Bytes) : List Bytes := rows.filter Row.isVector

def texts (answered : List (Exchange σ)) : List Bytes := answered.filterMap Exchange.text

def logsOf (answered : List (Exchange σ)) : List (List Log.Entry) :=
  answered.map fun exchange => exchange.answer.logs

def stateAfter (answered : List (Exchange σ)) (state : σ) : σ :=
  answered.foldl (fun _ exchange => exchange.answer.state) state

def Answered (rewrite : Option (Bytes → σ → Answer σ)) (rows : List Bytes) (state : σ) : Prop :=
  (exchanges rewrite rows state).map Exchange.row = rows ∧
    ∀ exchange ∈ exchanges rewrite rows state, ∃ text, exchange.answer.result = .ok text

def weave : List Bytes → List Bytes → List Bytes
  | [], _ => []
  | row :: rest, texts =>
      match Row.classify row with
      | .plain => Rule.normalize row :: weave rest texts
      | .vector => texts.take 1 ++ weave rest (texts.drop 1)
      | _ => weave rest texts

def journal : Nat → List Bytes → List (List Log.Entry) → List Log.Entry
  | _, [], _ => []
  | line, row :: rest, logs =>
      match Row.classify row with
      | .plain => journal (line + 1) rest logs
      | .vector => (logs.take 1).flatten ++ journal (line + 1) rest (logs.drop 1)
      | reason => droppedEntry line reason :: journal (line + 1) rest logs

def classCount (rows : List Bytes) (rowClass : RowClass) : Nat :=
  rows.countP fun row => Row.classify row == rowClass

def counted (tally : Tally) (rows : List Bytes) : Tally :=
  { tally with
    vector := tally.vector + classCount rows .vector
    empty := tally.empty + classCount rows .empty
    leadingChar := tally.leadingChar + classCount rows .leadingChar
    rexMark := tally.rexMark + classCount rows .rexMark }

def Progress.advance (progress : Progress σ) (line : Nat) (rows : List Bytes)
    (answered : List (Exchange σ)) : Progress σ :=
  { rows := (weave rows (texts answered)).reverse ++ progress.rows
    tally := counted progress.tally rows
    state := stateAfter answered progress.state
    logs := (journal line rows (logsOf answered)).reverse ++ progress.logs }

theorem classify_vector_iff (row : Bytes) : Row.classify row = .vector ↔ Row.isVector row = true := by
  constructor
  · intro vector
    by_cases marked : Row.isVector row = true
    · exact marked
    · simp only [Row.classify, if_neg marked] at vector
      cases row with
      | nil => cases vector
      | cons first rest =>
          simp only at vector
          split at vector
          · cases vector
          · split at vector <;> cases vector
  · intro marked
    simp [Row.classify, marked]

theorem is_vector_of_class (row : Bytes) (rowClass : RowClass) (classified : Row.classify row = rowClass) :
    Row.isVector row = decide (rowClass = .vector) := by
  have same := classify_vector_iff row
  rw [classified] at same
  by_cases vector : rowClass = .vector
  · simp [vector, same.mp vector]
  · simpa [vector] using mt same.mpr vector

theorem vector_rows_take (row : Bytes) (rest : List Bytes) (classified : Row.classify row = .vector) :
    vectorRows (row :: rest) = row :: vectorRows rest := by
  simp [vectorRows, is_vector_of_class row .vector classified]

theorem vector_rows_skip (row : Bytes) (rest : List Bytes) (rowClass : RowClass)
    (classified : Row.classify row = rowClass) (other : rowClass ≠ .vector) :
    vectorRows (row :: rest) = vectorRows rest := by
  simp [vectorRows, is_vector_of_class row rowClass classified, other]

theorem answered_cons (rewrite : Option (Bytes → σ → Answer σ)) (row : Bytes) (rest : List Bytes) (state : σ) :
    Answered rewrite (row :: rest) state ↔ ∃ call text, rewrite = some call ∧
      (call row state).result = .ok text ∧ Answered rewrite rest (call row state).state := by
  cases rewrite with
  | none => simp [Answered, exchanges]
  | some call =>
      cases result : (call row state).result with
      | error fault => simp [Answered, exchanges, result]
      | ok text => simp [Answered, exchanges, result]

theorem exchanges_cons (call : Bytes → σ → Answer σ) (row : Bytes) (rest : List Bytes) (state : σ)
    (text : Bytes) (given : (call row state).result = .ok text) :
    exchanges (some call) (row :: rest) state =
      ⟨row, state, call row state⟩ :: exchanges (some call) rest (call row state).state := by
  simp [exchanges, given]

theorem advance_plain (progress : Progress σ) (line : Nat) (row : Bytes) (rest : List Bytes)
    (answered : List (Exchange σ)) (classified : Row.classify row = .plain) :
    (progress.keep (Rule.normalize row)).advance (line + 1) rest answered =
      progress.advance line (row :: rest) answered := by
  simp [Progress.advance, Progress.keep, weave, journal, counted, classCount, classified]

theorem advance_rewrote (progress : Progress σ) (line : Nat) (row text : Bytes) (rest : List Bytes)
    (answer : Answer σ) (answered : List (Exchange σ)) (classified : Row.classify row = .vector)
    (given : answer.result = .ok text) :
    (progress.rewrote text answer).advance (line + 1) rest answered =
      progress.advance line (row :: rest) (⟨row, progress.state, answer⟩ :: answered) := by
  have head : texts (⟨row, progress.state, answer⟩ :: answered) = text :: texts answered := by
    simp [texts, Exchange.text, given, Except.toOption]
  simp [Progress.advance, Progress.rewrote, weave, journal, counted, classCount, classified, head,
    logsOf, stateAfter, List.reverseAux_eq]
  omega

theorem advance_dropped (progress : Progress σ) (line : Nat) (row : Bytes) (rest : List Bytes)
    (reason : RowClass) (answered : List (Exchange σ)) (classified : Row.classify row = reason)
    (dropped : reason.isDropped = true) :
    (progress.drop line reason).advance (line + 1) rest answered =
      progress.advance line (row :: rest) answered := by
  cases reason with
  | plain => cases dropped
  | vector => cases dropped
  | empty | leadingChar | rexMark =>
      simp [Progress.advance, Progress.drop, Tally.drop, weave, journal, counted, classCount, classified]
      omega

theorem transform_from_dropped (rewrite : Option (Bytes → σ → Answer σ)) (line : Nat) (row : Bytes)
    (rest : List Bytes) (progress : Progress σ) (reason : RowClass) (classified : Row.classify row = reason)
    (dropped : reason.isDropped = true) :
    transformFrom rewrite line (row :: rest) progress =
      transformFrom rewrite (line + 1) rest (progress.drop line reason) := by
  cases reason with
  | plain => cases dropped
  | vector => cases dropped
  | empty | leadingChar | rexMark => simp [transformFrom, classified]

-- Rows whose calls all succeed can be gone through first, whatever rows follow them.
theorem transform_from_answered (rewrite : Option (Bytes → σ → Answer σ)) (line : Nat)
    (first rest : List Bytes) (progress : Progress σ)
    (served : Answered rewrite (vectorRows first) progress.state) :
    transformFrom rewrite line (first ++ rest) progress =
      transformFrom rewrite (line + first.length) rest
        (progress.advance line first (exchanges rewrite (vectorRows first) progress.state)) := by
  induction first generalizing line progress with
  | nil => simp [Progress.advance, vectorRows, exchanges, weave, journal, counted, classCount, stateAfter]
  | cons row more ih =>
      have position : line + (row :: more).length = line + 1 + more.length := by
        simp only [List.length_cons]
        omega
      rw [position, List.cons_append]
      cases classified : Row.classify row with
      | plain =>
          rw [vector_rows_skip row more .plain classified (by decide)] at served ⊢
          rw [← advance_plain progress line row more _ classified]
          simp only [transformFrom, classified]
          exact ih (line + 1) (progress.keep (Rule.normalize row)) served
      | vector =>
          rw [vector_rows_take row more classified] at served ⊢
          obtain ⟨call, text, rfl, given, later⟩ := (answered_cons rewrite row _ progress.state).mp served
          rw [exchanges_cons call row _ progress.state text given,
            ← advance_rewrote progress line row text more _ _ classified given]
          simp only [transformFrom, classified, given]
          exact ih (line + 1) (progress.rewrote text (call row progress.state)) later
      | empty | leadingChar | rexMark =>
          rw [vector_rows_skip row more _ classified (by decide)] at served ⊢
          rw [← advance_dropped progress line row more _ _ classified rfl,
            transform_from_dropped rewrite line row _ progress _ classified rfl]
          exact ih (line + 1) (progress.drop line _) served

theorem answered_lengths (rewrite : Option (Bytes → σ → Answer σ)) (rows : List Bytes) (state : σ)
    (served : Answered rewrite rows state) :
    (logsOf (exchanges rewrite rows state)).length = rows.length ∧
      (texts (exchanges rewrite rows state)).length = rows.length := by
  induction rows generalizing state with
  | nil => exact ⟨rfl, rfl⟩
  | cons row rest ih =>
      obtain ⟨call, text, rfl, given, later⟩ := (answered_cons rewrite row rest state).mp served
      have lengths := ih (call row state).state later
      simp only [logsOf, texts, List.length_map] at lengths
      rw [exchanges_cons call row rest state text given]
      simp [logsOf, texts, Exchange.text, given, Except.toOption, lengths]

theorem exchanges_append (rewrite : Option (Bytes → σ → Answer σ)) (first rest : List Bytes) (state : σ)
    (served : Answered rewrite first state) :
    exchanges rewrite (first ++ rest) state = exchanges rewrite first state ++
      exchanges rewrite rest (stateAfter (exchanges rewrite first state) state) := by
  induction first generalizing state with
  | nil => rfl
  | cons row more ih =>
      obtain ⟨call, text, rfl, given, later⟩ := (answered_cons rewrite row more state).mp served
      rw [List.cons_append, exchanges_cons call row _ state text given,
        exchanges_cons call row more state text given, ih (call row state).state later]
      rfl

theorem class_count_vector (rows : List Bytes) : classCount rows .vector = (vectorRows rows).length := by
  simp only [classCount, vectorRows, List.countP_eq_length_filter]
  congr 1
  apply List.filter_congr
  intro row _
  rw [is_vector_of_class row _ rfl]
  rfl

theorem weave_length (rows given : List Bytes) (enough : (vectorRows rows).length ≤ given.length) :
    (weave rows given).length + (classCount rows .empty + classCount rows .leadingChar +
      classCount rows .rexMark) = rows.length := by
  induction rows generalizing given with
  | nil => rfl
  | cons row rest ih =>
      cases classified : Row.classify row with
      | vector =>
          rw [vector_rows_take row rest classified, List.length_cons] at enough
          have tail := ih (given.drop 1) (by rw [List.length_drop]; omega)
          simp [weave, classCount, classified] at tail ⊢
          omega
      | plain | empty | leadingChar | rexMark =>
          rw [vector_rows_skip row rest _ classified (by decide)] at enough
          have tail := ih given enough
          simp [weave, classCount, classified] at tail ⊢
          omega

theorem journal_append (line : Nat) (first rest : List Bytes) (logs more : List (List Log.Entry))
    (complete : logs.length = (vectorRows first).length) :
    journal line (first ++ rest) (logs ++ more) =
      journal line first logs ++ journal (line + first.length) rest more := by
  induction first generalizing line logs with
  | nil =>
      have empty : logs = [] := List.eq_nil_of_length_eq_zero complete
      simp [empty, journal]
  | cons row tail ih =>
      have position : line + (row :: tail).length = line + 1 + tail.length := by
        simp only [List.length_cons]
        omega
      rw [position]
      cases classified : Row.classify row with
      | vector =>
          rw [vector_rows_take row tail classified] at complete
          cases logs with
          | nil => cases complete
          | cons entries logs =>
              simp [journal, classified, ih (line + 1) logs (Nat.succ.inj complete)]
      | plain | empty | leadingChar | rexMark =>
          rw [vector_rows_skip row tail _ classified (by decide)] at complete
          simp [journal, classified, ih (line + 1) logs complete]

def isDropRecord (entry : Log.Entry) : Bool := entry.message == "row dropped"

def dropRecordsFrom (line : Nat) (rows : List Bytes) : List Log.Entry :=
  (rows.zipIdx line).filterMap fun (row, line) =>
    if (Row.classify row).isDropped then some (droppedEntry line (Row.classify row)) else none

def dropRecords (rows : List Bytes) : List Log.Entry := dropRecordsFrom 1 rows

theorem drop_records_cons (line : Nat) (row : Bytes) (rest : List Bytes) :
    dropRecordsFrom line (row :: rest) =
      (if (Row.classify row).isDropped then [droppedEntry line (Row.classify row)] else []) ++
        dropRecordsFrom (line + 1) rest := by
  by_cases dropped : (Row.classify row).isDropped = true <;> simp [dropRecordsFrom, List.zipIdx_cons, dropped]

theorem journal_records (line : Nat) (rows : List Bytes) (logs : List (List Log.Entry))
    (quiet : ∀ entries ∈ logs, ∀ entry ∈ entries, isDropRecord entry = false) :
    (journal line rows logs).filter isDropRecord = dropRecordsFrom line rows := by
  induction rows generalizing line logs with
  | nil => rfl
  | cons row rest ih =>
      rw [drop_records_cons]
      cases classified : Row.classify row with
      | plain => simpa [journal, classified, RowClass.isDropped] using ih (line + 1) logs quiet
      | vector =>
          have others := ih (line + 1) (logs.drop 1)
            (fun entries member => quiet entries (List.mem_of_mem_drop member))
          have silent : (logs.take 1).flatten.filter isDropRecord = [] := by
            rw [List.filter_eq_nil_iff]
            intro entry member
            obtain ⟨entries, taken, inside⟩ := List.mem_flatten.mp member
            simp [quiet entries (List.mem_of_mem_take taken) entry inside]
          simp only [journal, classified, RowClass.isDropped, List.filter_append, silent]
          exact others
      | empty | leadingChar | rexMark =>
          simpa [journal, classified, RowClass.isDropped, isDropRecord, droppedEntry] using
            ih (line + 1) logs quiet

def noting (call : Bytes → σ → Answer σ) (row : Bytes) (state : σ × List Bytes) : Answer (σ × List Bytes) :=
  let answer := call row state.1
  ⟨answer.result, (answer.state, state.2 ++ [row]), answer.logs⟩

def Progress.noting (progress : Progress σ) (calls : List Bytes) : Progress (σ × List Bytes) :=
  ⟨progress.rows, progress.tally, (progress.state, calls), progress.logs⟩

def Result.noting (result : Result σ) (calls : List Bytes) : Result (σ × List Bytes) :=
  ⟨result.outcome, result.tally, (result.state, calls), result.logs⟩

theorem transform_from_noting (rewrite : Option (Bytes → σ → Answer σ)) (line : Nat) (rows : List Bytes)
    (progress : Progress σ) (calls : List Bytes) :
    transformFrom (rewrite.map noting) line rows (progress.noting calls) =
      (transformFrom rewrite line rows progress).noting
        (calls ++ (exchanges rewrite (vectorRows rows) progress.state).map Exchange.row) := by
  induction rows generalizing line progress calls with
  | nil => simp [transformFrom, vectorRows, exchanges, Progress.finish, Progress.noting, Result.noting]
  | cons row rest ih =>
      cases classified : Row.classify row with
      | plain =>
          rw [vector_rows_skip row rest .plain classified (by decide)]
          simp only [transformFrom, classified]
          exact ih (line + 1) (progress.keep (Rule.normalize row)) calls
      | empty | leadingChar | rexMark =>
          rw [vector_rows_skip row rest _ classified (by decide), transform_from_dropped _ line row rest _ _ classified rfl,
            transform_from_dropped _ line row rest _ _ classified rfl]
          have later := ih (line + 1) (progress.drop line (Row.classify row)) calls
          rw [classified] at later
          exact later
      | vector =>
          rw [vector_rows_take row rest classified]
          cases rewrite with
          | none =>
              simp [transformFrom, classified, exchanges, Progress.fail, Progress.noting, Result.noting]
          | some call =>
              cases given : (call row progress.state).result with
              | error fault =>
                  simp [transformFrom, classified, exchanges, given, noting, Progress.fail,
                    Progress.noting, Result.noting]
              | ok text =>
                  have later := ih (line + 1) (progress.rewrote text (call row progress.state)) (calls ++ [row])
                  rw [List.append_assoc] at later
                  rw [exchanges_cons call row _ progress.state text given]
                  simp only [transformFrom, classified, given, Option.map_some, noting, Progress.noting]
                  exact later

def Quiet (answered : List (Exchange σ)) : Prop :=
  ∀ entries ∈ logsOf answered, ∀ entry ∈ entries, isDropRecord entry = false

structure Completed (rows : List Bytes) (answered : List (Exchange σ)) (state : σ) (result : Result σ) :
    Prop where
  outcome : result.outcome = .ok (weave rows (texts answered))
  read : result.tally.read = rows.length
  balance : result.tally.read = result.tally.written + result.tally.droppedTotal
  written : result.tally.written = (weave rows (texts answered)).length
  vector : result.tally.vector = (vectorRows rows).length
  dropped : ∀ reason, reason.isDropped = true → result.tally.dropped reason = classCount rows reason
  left : result.state = stateAfter answered state
  logs : result.logs = journal 1 rows (logsOf answered)
  records : Quiet answered → result.logs.filter isDropRecord = dropRecords rows

-- Why a vector row gets no text: there is no rewriter, or its call fails. The call, if one was made,
-- comes with the failure of the batch.
inductive Refused (rewrite : Option (Bytes → σ → Answer σ)) (line : Nat) (row : Bytes) (state : σ) :
    List (Exchange σ) → Fault → Prop where
  | absent (missing : rewrite = none) : Refused rewrite line row state [] (noRewriter line)
  | failed (call : Bytes → σ → Answer σ) (fault : Fault) (present : rewrite = some call)
      (failure : (call row state).result = .error fault) :
      Refused rewrite line row state [⟨row, state, call row state⟩] (rewriteFailed line fault)

structure Aborted (rows before : List Bytes) (row : Bytes) (answered : List (Exchange σ)) (state : σ)
    (fault : Fault) (result : Result σ) : Prop where
  outcome : result.outcome = .error fault
  read : result.tally.read = rows.length
  written : result.tally.written = 0
  vector : result.tally.vector = (vectorRows before).length
  dropped : ∀ reason, reason.isDropped = true → result.tally.dropped reason = classCount before reason
  left : result.state = stateAfter answered state
  logs : result.logs = journal 1 (before ++ [row]) (logsOf answered)
  records : Quiet answered → result.logs.filter isDropRecord = dropRecords before

theorem counted_dropped (tally : Tally) (rows : List Bytes) (reason : RowClass)
    (fresh : tally.dropped reason = 0) (dropped : reason.isDropped = true) :
    (counted tally rows).dropped reason = classCount rows reason := by
  cases reason with
  | plain => cases dropped
  | vector => cases dropped
  | empty | leadingChar | rexMark =>
      simp only [Tally.dropped] at fresh
      simp [counted, Tally.dropped, fresh]

def opening (rows : List Bytes) (state : σ) : Progress σ :=
  ⟨[], { Tally.zero with read := rows.length }, state, []⟩

theorem transform_completed (rewrite : Option (Bytes → σ → Answer σ)) (rows : List Bytes) (state : σ)
    (served : Answered rewrite (vectorRows rows) state) :
    Completed rows (exchanges rewrite (vectorRows rows) state) state (transform rewrite rows state) := by
  have run := transform_from_answered rewrite 1 rows [] (opening rows state) served
  rw [List.append_nil, transformFrom] at run
  have lengths := answered_lengths rewrite (vectorRows rows) state served
  have kept := weave_length rows (texts (exchanges rewrite (vectorRows rows) state)) (by omega)
  rw [transform, ← opening, run]
  constructor
  case outcome => simp [Progress.finish, Progress.advance, opening]
  case read => rfl
  case balance =>
      simp [Progress.finish, Progress.advance, opening, counted, Tally.zero, Tally.droppedTotal]
      omega
  case written => simp [Progress.finish, Progress.advance, opening]
  case vector =>
      simpa [Progress.finish, Progress.advance, opening, counted, Tally.zero] using class_count_vector rows
  case dropped =>
      intro reason dropped
      have zero : (opening rows state).tally.dropped reason = 0 := by cases reason <;> rfl
      have count := counted_dropped (opening rows state).tally rows reason zero dropped
      cases reason <;> exact count
  case left => rfl
  case logs => simp [Progress.finish, Progress.advance, opening]
  case records =>
      intro quiet
      simpa [Progress.finish, Progress.advance, opening, dropRecords] using journal_records 1 rows _ quiet

def Progress.halted (progress : Progress σ) (last : List (Exchange σ)) : Progress σ :=
  { progress with
    state := stateAfter last progress.state
    logs := (logsOf last).flatten.reverse ++ progress.logs }

theorem transform_from_refused (rewrite : Option (Bytes → σ → Answer σ)) (line : Nat) (row : Bytes)
    (rest : List Bytes) (progress : Progress σ) (last : List (Exchange σ)) (fault : Fault)
    (marked : Row.isVector row = true) (refused : Refused rewrite line row progress.state last fault) :
    transformFrom rewrite line (row :: rest) progress = (progress.halted last).fail fault := by
  have classified := (classify_vector_iff row).mpr marked
  cases refused with
  | absent missing => simp [transformFrom, classified, missing, Progress.halted, stateAfter, logsOf]
  | failed call fault present failure =>
      simp [transformFrom, classified, present, failure, Progress.halted, stateAfter, logsOf,
        List.reverseAux_eq]

theorem exchanges_refused (rewrite : Option (Bytes → σ → Answer σ)) (line : Nat) (row : Bytes)
    (rest : List Bytes) (state : σ) (last : List (Exchange σ)) (fault : Fault)
    (refused : Refused rewrite line row state last fault) :
    exchanges rewrite (row :: rest) state = last := by
  cases refused with
  | absent missing => simp [exchanges, missing]
  | failed call fault present failure => simp [exchanges, present, failure]

theorem refused_logs (rewrite : Option (Bytes → σ → Answer σ)) (line place : Nat) (row : Bytes) (state : σ)
    (last : List (Exchange σ)) (fault : Fault) (marked : Row.isVector row = true)
    (refused : Refused rewrite line row state last fault) :
    journal place [row] (logsOf last) = (logsOf last).flatten := by
  have classified := (classify_vector_iff row).mpr marked
  cases refused with
  | absent missing => simp [journal, classified, logsOf]
  | failed call fault present failure => simp [journal, classified, logsOf]

theorem vector_rows_stopped (before after : List Bytes) (row : Bytes) (marked : Row.isVector row = true) :
    vectorRows (before ++ row :: after) = vectorRows before ++ row :: vectorRows after := by
  simp [vectorRows, marked]

theorem state_after_append (first last : List (Exchange σ)) (state : σ) :
    stateAfter (first ++ last) state = stateAfter last (stateAfter first state) := by
  simp [stateAfter]

theorem transform_aborted (rewrite : Option (Bytes → σ → Answer σ)) (before after : List Bytes) (row : Bytes)
    (state : σ) (last : List (Exchange σ)) (fault : Fault) (marked : Row.isVector row = true)
    (served : Answered rewrite (vectorRows before) state)
    (refused : Refused rewrite (before.length + 1) row
      (stateAfter (exchanges rewrite (vectorRows before) state) state) last fault) :
    Aborted (before ++ row :: after) before row (exchanges rewrite (vectorRows before) state ++ last) state fault
      (transform rewrite (before ++ row :: after) state) := by
  have run := transform_from_answered rewrite 1 before (row :: after)
    (opening (before ++ row :: after) state) served
  rw [Nat.add_comm 1, transform_from_refused rewrite _ row after _ last fault marked refused] at run
  have lengths := answered_lengths rewrite (vectorRows before) state served
  have entries : journal 1 (before ++ [row]) (logsOf (exchanges rewrite (vectorRows before) state ++ last)) =
      journal 1 before (logsOf (exchanges rewrite (vectorRows before) state)) ++ (logsOf last).flatten := by
    rw [← refused_logs rewrite _ (1 + before.length) row _ last fault marked refused]
    simpa only [logsOf, List.map_append] using
      journal_append 1 before [row] _ (logsOf last) lengths.1
  rw [transform, ← opening, run]
  constructor
  case outcome => rfl
  case read => rfl
  case written => rfl
  case vector =>
      simpa [Progress.fail, Progress.halted, Progress.advance, opening, counted, Tally.zero] using
        class_count_vector before
  case dropped =>
      intro reason dropped
      have zero : (opening (before ++ row :: after) state).tally.dropped reason = 0 := by cases reason <;> rfl
      have count := counted_dropped (opening (before ++ row :: after) state).tally before reason zero dropped
      cases reason <;> exact count
  case left => exact (state_after_append _ last state).symm
  case logs => simp [Progress.fail, Progress.halted, Progress.advance, opening, entries]
  case records =>
      intro quiet
      have silent : (logsOf last).flatten.filter isDropRecord = [] := by
        rw [List.filter_eq_nil_iff]
        intro entry member
        obtain ⟨entries, inside, present⟩ := List.mem_flatten.mp member
        have within : entries ∈ logsOf (exchanges rewrite (vectorRows before) state ++ last) := by
          simp only [logsOf, List.map_append, List.mem_append] at inside ⊢
          exact Or.inr inside
        simp [quiet entries within entry present]
      have first := journal_records 1 before (logsOf (exchanges rewrite (vectorRows before) state)) (by
        intro entries inside
        apply quiet entries
        simp only [logsOf, List.map_append, List.mem_append] at inside ⊢
        exact Or.inl inside)
      simpa [Progress.fail, Progress.halted, Progress.advance, opening, dropRecords, silent] using first

-- Either every vector row gets a text, or there is a first one that gets none.
theorem answered_or_refused (rewrite : Option (Bytes → σ → Answer σ)) (line : Nat) (rows : List Bytes)
    (state : σ) :
    Answered rewrite (vectorRows rows) state ∨ ∃ before row after last fault,
      rows = before ++ row :: after ∧ Row.isVector row = true ∧ Answered rewrite (vectorRows before) state ∧
        Refused rewrite (before.length + line) row
          (stateAfter (exchanges rewrite (vectorRows before) state) state) last fault := by
  induction rows generalizing line state with
  | nil => exact Or.inl ⟨rfl, by simp [vectorRows, exchanges]⟩
  | cons row rest ih =>
      have place (before : List Bytes) : (row :: before).length + line = before.length + (line + 1) := by
        simp only [List.length_cons]
        omega
      by_cases marked : Row.isVector row = true
      · have taken (more : List Bytes) : vectorRows (row :: more) = row :: vectorRows more := by
          simp [vectorRows, marked]
        have start : Answered rewrite (vectorRows []) state := ⟨rfl, by simp [vectorRows, exchanges]⟩
        cases rewrite with
        | none => exact Or.inr ⟨[], row, rest, [], _, rfl, marked, start, .absent rfl⟩
        | some call =>
            cases given : (call row state).result with
            | error fault =>
                exact Or.inr ⟨[], row, rest, _, _, rfl, marked, start,
                  .failed call fault rfl given⟩
            | ok text =>
                rcases ih (line + 1) (call row state).state with served | stopped
                · left
                  rw [taken, answered_cons]
                  exact ⟨call, text, rfl, given, served⟩
                · obtain ⟨before, stop, after, last, fault, split, vector, served, refused⟩ := stopped
                  refine Or.inr ⟨row :: before, stop, after, last, fault, by rw [split]; rfl, vector, ?_, ?_⟩
                  · rw [taken, answered_cons]
                    exact ⟨call, text, rfl, given, served⟩
                  · rw [taken, exchanges_cons call row _ state text given, place]
                    exact refused
      · have skipped (more : List Bytes) : vectorRows (row :: more) = vectorRows more := by
          simp [vectorRows, marked]
        rcases ih (line + 1) state with served | stopped
        · left
          rw [skipped]
          exact served
        · obtain ⟨before, stop, after, last, fault, split, vector, served, refused⟩ := stopped
          refine Or.inr ⟨row :: before, stop, after, last, fault, by rw [split]; rfl, vector, ?_, ?_⟩
          · rw [skipped]
            exact served
          · rw [skipped, place]
            exact refused

theorem transform_rows (rewrite : Option (Bytes → σ → Answer σ)) (rows : List Bytes) (state : σ)
    (written : List Bytes) (finished : (transform rewrite rows state).outcome = .ok written) :
    Answered rewrite (vectorRows rows) state ∧
      written = weave rows (texts (exchanges rewrite (vectorRows rows) state)) := by
  rcases answered_or_refused rewrite 1 rows state with served | stopped
  · have completed := transform_completed rewrite rows state served
    rw [completed.outcome] at finished
    exact ⟨served, (Except.ok.inj finished).symm⟩
  · obtain ⟨before, row, after, last, fault, split, marked, served, refused⟩ := stopped
    subst split
    have aborted := transform_aborted rewrite before after row state last fault marked served refused
    rw [aborted.outcome] at finished
    cases finished

theorem no_rewriter_message (line : Nat) :
    (noRewriter line).message = "line " ++ toString line ++ ": " ++ "no vector rewriter configured" := by
  unfold noRewriter Fault.message
  rw [String.append_assoc, String.append_assoc, String.append_assoc]
  congr 2

theorem rewrite_failed_message (line : Nat) (fault : Fault) :
    (rewriteFailed line fault).message =
      "line " ++ toString line ++ ": " ++ ("vector rewrite: " ++ fault.message) := by
  have text : (rewriteFailed line fault).message =
      "line " ++ toString line ++ ": vector rewrite: " ++ fault.message ++ "" := Fault.within_message _ _ _
  have joined : ": vector rewrite: " = ": " ++ "vector rewrite: " := by decide
  rw [text, joined, String.append_empty]
  simp only [String.append_assoc]

theorem refused_message (rewrite : Option (Bytes → σ → Answer σ)) (line : Nat) (row : Bytes) (state : σ)
    (last : List (Exchange σ)) (fault : Fault) (refused : Refused rewrite line row state last fault) :
    ∃ text, fault.message = "line " ++ toString line ++ ": " ++ text := by
  cases refused with
  | absent missing => exact ⟨_, no_rewriter_message line⟩
  | failed call cause present failure => exact ⟨_, rewrite_failed_message line cause⟩

theorem transform_account (rewrite : Option (Bytes → σ → Answer σ)) (rows : List Bytes) (state : σ) :
    let answered := exchanges rewrite (vectorRows rows) state
    let result := transform rewrite rows state
    transform (rewrite.map noting) rows (state, []) = result.noting (answered.map Exchange.row) ∧
      (Answered rewrite (vectorRows rows) state →
        answered.map Exchange.row = vectorRows rows ∧ Completed rows answered state result) ∧
      (∀ before row after last fault, rows = before ++ row :: after → Row.isVector row = true →
        Answered rewrite (vectorRows before) state →
        Refused rewrite (before.length + 1) row
          (stateAfter (exchanges rewrite (vectorRows before) state) state) last fault →
        answered.map Exchange.row = vectorRows before ++ last.map Exchange.row ∧
          Aborted rows before row answered state fault result ∧
          ∃ text, fault.message = "line " ++ toString (before.length + 1) ++ ": " ++ text) ∧
      (Answered rewrite (vectorRows rows) state ∨ ∃ before row after last fault,
        rows = before ++ row :: after ∧ Row.isVector row = true ∧ Answered rewrite (vectorRows before) state ∧
          Refused rewrite (before.length + 1) row
            (stateAfter (exchanges rewrite (vectorRows before) state) state) last fault) := by
  refine ⟨?_, ?_, ?_, answered_or_refused rewrite 1 rows state⟩
  · exact transform_from_noting rewrite 1 rows (opening rows state) []
  · intro served
    exact ⟨served.1, transform_completed rewrite rows state served⟩
  · intro before row after last fault split marked served refused
    subst split
    have all : exchanges rewrite (vectorRows (before ++ row :: after)) state =
        exchanges rewrite (vectorRows before) state ++ last := by
      rw [vector_rows_stopped before after row marked, exchanges_append rewrite _ _ state served,
        exchanges_refused rewrite _ row _ _ last fault refused]
    refine ⟨?_, ?_, refused_message rewrite _ row _ last fault refused⟩
    · rw [all, List.map_append, served.1]
    · rw [all]
      exact transform_aborted rewrite before after row state last fault marked served refused

end OpcodeTable.Batch
