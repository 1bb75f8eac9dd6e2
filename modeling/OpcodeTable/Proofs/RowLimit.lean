import OpcodeTable.Proofs.HighWaterMark
import OpcodeTable.Proofs.LineSplitting
import OpcodeTable.Proofs.ReadingBack

/-!
A topic takes rows of as many bytes as the limit says. A line source counts the newline in, so that a row
as long as the limit is already too long for it.
-/

set_option autoImplicit false

namespace OpcodeTable.Source

def Unbroken (row : Bytes) : Prop := Bytes.carriageReturn ∉ row ∧ Bytes.newline ∉ row

instance (row : Bytes) : Decidable (Unbroken row) := inferInstanceAs (Decidable (_ ∧ _))

theorem unbroken_readable (row : Bytes) (unbroken : Unbroken row) : Readable row :=
  ⟨unbroken.2, fun last => unbroken.1 (List.mem_of_getLast? last)⟩

theorem trim_unbroken (row : Bytes) (unbroken : Unbroken row) : trimTerminator row = row := by
  have kept : ∀ byte ∈ row.reverse, ¬(byte == Bytes.carriageReturn || byte == Bytes.newline) = true := by
    intro byte member terminates
    rw [List.mem_reverse] at member
    simp only [Bool.or_eq_true, beq_iff_eq] at terminates
    rcases terminates with rfl | rfl
    · exact unbroken.1 member
    · exact unbroken.2 member
  have whole : row.reverse.dropWhile (fun byte => byte == Bytes.carriageReturn || byte == Bytes.newline) =
      row.reverse := by
    cases shape : row.reverse with
    | nil => rfl
    | cons byte rest => exact List.dropWhile_cons_of_neg (kept byte (by simp [shape]))
  rw [trimTerminator, Bytes.trimRight, whole, List.reverse_reverse]

structure Report.Takes (report : Report) (rows taken : List Bytes) : Prop where
  given : report.rows = taken
  complete : taken = rows → report.fault = none
  overrun : taken ≠ rows → ∃ fault, report.fault = some fault ∧ fault.causes = [.lineTooLong]

def Report.Agrees (first second : Report) : Prop :=
  first.rows = second.rows ∧ (first.fault = none ↔ second.fault = none)

theorem takes_all_iff (report : Report) (rows taken : List Bytes) (takes : report.Takes rows taken) :
    report.fault = none ↔ taken = rows := by
  constructor
  · intro complete
    by_cases all : taken = rows
    · exact all
    · obtain ⟨fault, failed, _⟩ := takes.overrun all
      rw [complete] at failed
      cases failed
  · exact takes.complete

theorem takes_agree_iff (first second : Report) (rows taken other : List Bytes) (one : first.Takes rows taken)
    (two : second.Takes rows other) : first.Agrees second ↔ taken = other := by
  unfold Report.Agrees
  rw [one.given, two.given, takes_all_iff first rows taken one, takes_all_iff second rows other two]
  constructor
  · exact And.left
  · rintro rfl
    exact ⟨rfl, Iff.rfl⟩

theorem fitting_stops (limit : Nat) (before after : List Bytes) (long : Bytes)
    (short : ∀ row ∈ before, row.length < limit) (overrun : limit ≤ long.length) :
    fitting limit (before ++ long :: after) = before := by
  unfold fitting
  rw [List.takeWhile_append_of_pos (fun row member => decide_eq_true (short row member)),
    List.takeWhile_cons_of_neg (by simpa using overrun), List.append_nil]

theorem fitting_all (limit : Nat) (rows : List Bytes) (short : ∀ row ∈ rows, row.length < limit) :
    fitting limit rows = rows := by
  rcases fitting_split limit rows with all | ⟨long, rest, split, overrun⟩
  · exact all
  · have fits := short long (by rw [split]; simp)
    omega

theorem fitting_next_iff (limit : Nat) (rows : List Bytes) :
    fitting limit rows = fitting (limit + 1) rows ↔
      ∀ before row after, rows = before ++ row :: after → (∀ earlier ∈ before, earlier.length < limit) →
        row.length ≠ limit := by
  constructor
  · rintro same before row after rfl short full
    have wider : ∀ earlier ∈ before ++ [row], earlier.length < limit + 1 := by
      intro earlier member
      rcases List.mem_append.mp member with inside | last
      · exact Nat.lt_succ_of_lt (short earlier inside)
      · rw [List.mem_singleton.mp last]
        omega
    have taken : (before ++ [row]) <+: fitting (limit + 1) (before ++ row :: after) := by
      rw [List.append_cons before row after, fitting, List.takeWhile_append_of_pos fun earlier member =>
        decide_eq_true (wider earlier member)]
      exact List.prefix_append _ _
    rw [← same, fitting_stops limit before after row short (Nat.le_of_eq full.symm)] at taken
    have shorter := taken.length_le
    rw [List.length_append, List.length_singleton] at shorter
    omega
  · intro apart
    rcases fitting_split limit rows with all | ⟨long, rest, split, overrun⟩
    · have short := fitting_short limit rows
      rw [all] at short
      rw [all, fitting_all (limit + 1) rows fun row member => Nat.lt_succ_of_lt (short row member)]
    · have short := fitting_short limit rows
      have exceeds := apart _ long rest split short
      have beyond : limit + 1 ≤ long.length := by omega
      have stops := fitting_stops (limit + 1) (fitting limit rows) rest long
        (fun row member => Nat.lt_succ_of_lt (short row member)) beyond
      rw [← split] at stops
      exact stops.symm

theorem run_lines (rows reads : List Bytes) (path : String) (limit : Nat) (files : Files) (reason : Fault)
    (positive : 1 ≤ limit) (unbroken : ∀ row ∈ rows, Unbroken row)
    (text : reads.flatten = rows.flatMap (· ++ [Bytes.newline])) :
    (((Lines.ofStream ⟨reads, none⟩).configure path limit).run files ⟨false, reason⟩ .all).1.Takes rows
      (fitting limit rows) := by
  have readable (row : Bytes) (member : row ∈ rows) := unbroken_readable row (unbroken row member)
  have lines : linesOf (Stream.left ⟨reads, none⟩) = rows := by
    rw [Stream.left, text]
    exact lines_of_rows rows fun row member => (readable row member).1
  have given : effectiveLimit (effectiveLimit limit) = limit := by
    rw [effective_limit_again, effectiveLimit, if_neg (by omega), Int.toNat_natCast]
  have same : (fitting limit rows).map rowOf = fitting limit rows := by
    have kept : ∀ row ∈ fitting limit rows, rowOf row = row := by
      intro row member
      have inside := (List.takeWhile_prefix _).subset member
      rw [← drop_return_row, drop_return_readable row (readable row inside)]
    rw [List.map_congr_left kept, List.map_id']
  obtain ⟨left, passed⟩ :=
    ((Lines.ofStream ⟨reads, none⟩).configure path limit).run_on_refines ⟨reads, none⟩ ⟨false, reason⟩ .all
  simp only [Lines.configure, given, lines, offer_all_segments, same] at passed
  constructor
  · simp [Lines.run, Lines.runOn, Lines.configure, Lines.ofStream, given, passed, stopAfter, Pass.stop]
  · intro all
    simp [Lines.run, Lines.runOn, Lines.configure, Lines.ofStream, given, passed, stopAfter, Pass.stop, all]
  · intro partly
    refine ⟨tooLong (fitting limit rows).length, ?_, rfl⟩
    simp [Lines.run, Lines.runOn, Lines.configure, Lines.ofStream, given, passed, stopAfter, Pass.stop, partly]

def Message.event (message : Message) : Event := .message message.offset message.value

structure Partition.Holds (partition : Partition) (stored : List Message) : Prop where
  delivered : ∃ later, partition.events = stored.map Message.event ++ later
  ordered : Ordered stored
  opens : partition.consume = .ok ()
  bounds : ∃ oldest mark, partition.oldest = .ok oldest ∧ partition.newest = .ok mark ∧
    (mark ≤ oldest ↔ stored = []) ∧ ∀ last, stored.getLast? = some last → last.offset = mark - 1

def within (limit : Nat) (stored : List Message) : List Message :=
  stored.takeWhile fun message => message.row.length ≤ limit

theorem drain_stored (limit : Nat) (id mark : Int) (stored : List Message) (later : List Event) (rows : List Bytes)
    (count : Nat) (reason : Fault) (positive : 1 ≤ limit) (ordered : Ordered stored) (last : Message)
    (final : stored.getLast? = some last) (reached : last.offset = mark - 1) :
    drainEvents limit .all id mark (stored.map Message.event ++ later) ⟨rows, count, ⟨false, reason⟩⟩ =
      (⟨((within limit stored).map Message.row).reverse ++ rows, count + (within limit stored).length, ⟨false, reason⟩⟩,
        stored[(within limit stored).length]?.map fun message => messageTooLong id message.offset) := by
  induction stored generalizing rows count with
  | nil => cases final
  | cons message rest ih =>
      have row : trimTerminator message.value = message.row := rfl
      rw [List.map_cons, List.cons_append, Message.event, drainEvents]
      by_cases long : limit < message.row.length
      · have exceeds : isOverLimit limit message.row = true := by
          simp only [isOverLimit, Bool.and_eq_true, decide_eq_true_eq]
          omega
        have none : within limit (message :: rest) = [] := List.takeWhile_cons_of_neg (by simpa using long)
        simp [row, exceeds, none]
      · have fits : isOverLimit limit message.row = false := by
          simp only [isOverLimit, Bool.and_eq_false_iff, decide_eq_false_iff_not]
          omega
        have more : within limit (message :: rest) = message :: within limit rest :=
          List.takeWhile_cons_of_pos (by simpa using long)
        rw [more]
        cases rest with
        | nil =>
            have here : mark - 1 ≤ message.offset := by
              cases final
              exact Int.le_of_eq reached.symm
            simp [row, fits, Receiver.all, here, Intake.take, within]
        | cons next others =>
            -- The last message is still to come, so that this one is below the end.
            rw [List.getLast?_cons_cons] at final
            obtain ⟨first, later⟩ := List.pairwise_cons.mp ordered
            have below : ¬ mark - 1 ≤ message.offset := by
              have before := first last (List.mem_of_getLast? final)
              omega
            have continued := ih (message.row :: rows) (count + 1) later final
            simp only [row, fits, Receiver.all, Intake.take, below, Bool.false_eq_true, if_false]
            rw [continued]
            simp [Nat.add_assoc, Nat.add_comm 1]

theorem within_rows (limit : Nat) (stored : List Message) :
    (within limit stored).map Message.row = fitting (limit + 1) (stored.map Message.row) := by
  rw [within, fitting, List.takeWhile_map]
  simp only [Function.comp_def, Nat.lt_succ_iff]

theorem drain_held (limit : Nat) (partition : Partition) (stored : List Message) (reason : Fault) (positive : 1 ≤ limit)
    (holds : partition.Holds stored) :
    let drained := drainAll limit .all [partition] ⟨[], 0, ⟨false, reason⟩⟩ []
    drained.1.rows.reverse = (within limit stored).map Message.row ∧
      drained.2.2 =
        stored[(within limit stored).length]?.map fun message => messageTooLong partition.id message.offset := by
  obtain ⟨oldest, mark, oldestSeen, newestSeen, blank, final⟩ := holds.bounds
  dsimp only
  by_cases empty : stored = []
  · have skipped : partition.access = .ok .skip := by
      simp [Partition.access, oldestSeen, newestSeen, blank.mpr empty]
    simp [drainAll, skipped, empty, within]
  · have access : partition.access = .ok (.read mark) := by
      have filled : ¬ mark ≤ oldest := fun none => empty (blank.mp none)
      simp [Partition.access, oldestSeen, newestSeen, filled, holds.opens]
    obtain ⟨later, events⟩ := holds.delivered
    have last := List.getLast?_eq_some_getLast empty
    rw [drain_partition limit .all partition mark _ _ access, events,
      drain_stored limit partition.id mark stored later [] 0 reason positive holds.ordered _ last (final _ last)]
    simp

theorem run_topic (source : Topic) (feed : Feed) (partition : Partition) (stored : List Message) (limit : Nat)
    (reason : Fault) (fed : source.feed = some feed) (listed : feed.partitions = .ok [partition])
    (limited : source.limit = limit) (positive : 1 ≤ limit) (holds : partition.Holds stored) :
    (source.run ⟨false, reason⟩ .all).toReport.Takes (stored.map Message.row)
      (fitting (limit + 1) (stored.map Message.row)) := by
  obtain ⟨rows, fault⟩ := drain_held limit partition stored reason positive holds
  have alone : Topic.sorted [partition] = [partition] := List.mergeSort_singleton _
  have ran : (source.run ⟨false, reason⟩ .all).rows = (within limit stored).map Message.row ∧
      (source.run ⟨false, reason⟩ .all).fault =
      stored[(within limit stored).length]?.map fun message => messageTooLong partition.id message.offset := by
    rw [← rows, ← fault]
    simp only [Topic.run, fed, listed, alone, limited]
    rcases drainAll limit .all [partition] ⟨[], 0, ⟨false, reason⟩⟩ [] with ⟨intake, opened, _ | _⟩
    · exact ⟨rfl, rfl⟩
    · exact ⟨rfl, rfl⟩
  have prefixed : within limit stored <+: stored := List.takeWhile_prefix _
  rw [← within_rows]
  constructor
  · exact ran.1
  · intro all
    have complete : (within limit stored).length = stored.length := by simpa using congrArg List.length all
    rw [ran.2, complete, List.getElem?_eq_none (Nat.le_refl _)]
    rfl
  · intro partly
    have shorter : (within limit stored).length < stored.length := by
      rcases Nat.lt_or_eq_of_le prefixed.length_le with less | same
      · exact less
      · exact absurd (congrArg (List.map Message.row) (prefixed.eq_of_length same)) partly
    refine ⟨messageTooLong partition.id stored[(within limit stored).length].offset, ?_, rfl⟩
    rw [ran.2, List.getElem?_eq_getElem shorter]
    rfl

-- The same rows as lines and as messages, under the same limit. A line source that is allowed one byte
-- more gives what the topic gives; without it they part at a row that is as long as the limit.
theorem limits_agree_iff (limit : Nat) (stored : List Message) (reads : List Bytes) (path : String) (files : Files)
    (settings : TopicSettings) (reach : Broker.Client → Except Fault Feed) (feed : Feed) (partition : Partition)
    (reason : Fault) (positive : 1 ≤ limit) (unbroken : ∀ message ∈ stored, Unbroken message.value)
    (text : reads.flatten = (stored.map Message.value).flatMap (· ++ [Bytes.newline]))
    (listed : feed.partitions = .ok [partition]) (holds : partition.Holds stored) :
    let rows := stored.map Message.value
    let lines (setting : Nat) :=
      (((Lines.ofStream ⟨reads, none⟩).configure path setting).run files ⟨false, reason⟩ .all).1
    let topic := (((⟨settings, 0, some feed⟩ : Topic).configure reach limit).2.run ⟨false, reason⟩ .all).toReport
    topic.Takes rows (rows.takeWhile fun row => row.length ≤ limit) ∧
      (lines limit).Takes rows (rows.takeWhile fun row => row.length < limit) ∧
      (lines (limit + 1)).Agrees topic ∧
      ((lines limit).Agrees topic ↔
        ∀ before row after, rows = before ++ row :: after → (∀ earlier ∈ before, earlier.length < limit) →
          row.length ≠ limit) := by
  intro rows lines topic
  have plain : ∀ row ∈ rows, Unbroken row := by
    intro row member
    obtain ⟨message, found, rfl⟩ := List.mem_map.mp member
    exact unbroken message found
  have same : stored.map Message.row = rows :=
    List.map_congr_left fun message member => trim_unbroken message.value (unbroken message member)
  have wider : (rows.takeWhile fun row => row.length ≤ limit) = fitting (limit + 1) rows := by
    simp only [fitting, Nat.lt_succ_iff]
  have messages : topic.Takes rows (fitting (limit + 1) rows) := by
    rw [← same]
    exact run_topic _ feed partition stored limit reason rfl listed rfl positive holds
  have tight := run_lines rows reads path limit files reason positive plain text
  have roomy := run_lines rows reads path (limit + 1) files reason (by omega) plain text
  rw [wider]
  refine ⟨messages, tight, ?_, ?_⟩
  · exact (takes_agree_iff _ _ rows _ _ roomy messages).mpr rfl
  · exact (takes_agree_iff _ _ rows _ _ tight messages).trans (fitting_next_iff limit rows)

def onePartition (partition : Partition) : Feed := ⟨.ok [partition], none, none⟩

def someTopic : TopicSettings := ⟨["localhost:9092"], "x86-rows", "2.8.0", "optab", false, "", ""⟩

def uneven : List Message := [⟨2, []⟩, ⟨5, ascii "ab"⟩, ⟨6, ascii "abcd"⟩, ⟨8, ascii "abc"⟩]

def unevenPartition : Partition := ⟨1, .ok 2, .ok 9, .ok (), uneven.map Message.event ++ [.closed]⟩

theorem uneven_held : unevenPartition.Holds uneven := by
  refine ⟨⟨[.closed], rfl⟩, ?_, rfl, 2, 9, rfl, rfl, by decide, ?_⟩
  · unfold Ordered
    decide
  · intro last final
    cases final
    rfl

theorem uneven_limits_agree :
    unevenPartition.Holds uneven ∧ (∀ message ∈ uneven, Unbroken message.value) ∧
      let lines := (((Lines.ofStream ⟨[ascii "\na", ascii "b\nabc", ascii "d\nabc\n"], none⟩).configure "" 3).run
        .none false .all).1
      let topic := (((⟨someTopic, 0, some (onePartition unevenPartition)⟩ : Topic).configure Feed.none 3).2.run
        false .all).toReport
      lines.Agrees topic ∧ topic.rows = [[], ascii "ab"] ∧ topic.fault ≠ none := by
  have unbroken : ∀ message ∈ uneven, Unbroken message.value := by decide
  obtain ⟨taken, _, _, agrees⟩ := limits_agree_iff 3 uneven [ascii "\na", ascii "b\nabc", ascii "d\nabc\n"] "" .none
    someTopic Feed.none (onePartition unevenPartition) unevenPartition .canceled (by decide) unbroken (by decide)
    rfl uneven_held
  refine ⟨uneven_held, unbroken, agrees.mpr ?_, taken.given, ?_⟩
  · rw [← fitting_next_iff]
    decide
  · intro complete
    exact absurd ((takes_all_iff _ _ _ taken).mp complete) (by decide)

-- A row of four bytes under a limit of four: the line source refuses it as too long.
def full : Partition := ⟨0, .ok 0, .ok 1, .ok (), [.message 0 (ascii "abcd")]⟩

theorem full_row_divides :
    let lines := (((Lines.ofStream ⟨[ascii "abcd\n"], none⟩).configure "" 4).run .none false .all).1
    let topic := (((⟨someTopic, 0, some (onePartition full)⟩ : Topic).configure Feed.none 4).2.run false .all).toReport
    (lines.rows = [] ∧ ∃ fault, lines.fault = some fault ∧ fault.causes = [.lineTooLong]) ∧
      topic.rows = [ascii "abcd"] ∧ topic.fault = none := by
  intro lines topic
  have holds : full.Holds [⟨0, ascii "abcd"⟩] := by
    refine ⟨⟨[], rfl⟩, List.pairwise_singleton _ _, rfl, 0, 1, rfl, rfl, by decide, ?_⟩
    intro last final
    cases final
    rfl
  have refused : lines.Takes [ascii "abcd"] [] :=
    run_lines [ascii "abcd"] [ascii "abcd\n"] "" 4 .none .canceled (by decide) (by decide) (by decide)
  have taken : topic.Takes [ascii "abcd"] [ascii "abcd"] :=
    run_topic _ (onePartition full) full [⟨0, ascii "abcd"⟩] 4 .canceled rfl rfl rfl (by decide) holds
  exact ⟨⟨refused.given, refused.overrun (by decide)⟩, taken.given, taken.complete rfl⟩

end OpcodeTable.Source
