import OpcodeTable.Proofs.LineSplitting

set_option autoImplicit false

namespace OpcodeTable.Source

def outcome (limit : Nat) (ending : Option Fault) (lines : List Bytes) : Option Fault :=
  if fitting limit lines = lines then ending else some (tooLong (fitting limit lines).length)

theorem offer_all_whole (limit : Nat) (ending : Option Fault) (reason : Fault) (lines : List Bytes) :
    offerAll limit .all ending lines ⟨[], 0, ⟨false, reason⟩⟩ =
      (⟨((fitting limit lines).map dropReturn).reverse, (fitting limit lines).length, ⟨false, reason⟩⟩,
        outcome limit ending lines) := by
  have rows : (fitting limit lines).map dropReturn = (fitting limit lines).map rowOf :=
    List.map_congr_left fun line _ => drop_return_row line
  rw [offer_all_segments, rows, outcome]

-- Behind the lines that fit no row is handed over, so neither the receiver nor the asker has a part in
-- how the run ends.
theorem offer_all_over (limit : Nat) (receiver : Receiver) (ending : Option Fault) (lines : List Bytes) :
    ∃ rest, lines = fitting limit lines ++ rest ∧
      ∀ pass : Pass, pass.count = (fitting limit lines).length →
        offerAll limit receiver ending rest pass = (pass, outcome limit ending lines) := by
  rcases fitting_split limit lines with all | ⟨long, rest, split, overrun⟩
  · refine ⟨[], by rw [all, List.append_nil], ?_⟩
    intro pass counted
    rw [offerAll, outcome, if_pos all]
  · refine ⟨long :: rest, split, ?_⟩
    intro pass counted
    have partly : fitting limit lines ≠ lines := by
      intro same
      rw [same] at split
      exact absurd split (by simp)
    rw [offerAll, if_pos overrun, outcome, if_neg partly, counted]

theorem offer_all_refused (limit : Nat) (receiver : Receiver) (ending : Option Fault)
    (lines before after : List Bytes) (row : Bytes) (reason fault : Fault)
    (rows : (fitting limit lines).map dropReturn = before ++ row :: after) (taken : receiver.Takes 0 before)
    (refused : receiver (before.length + 1) row = .refuse fault) :
    offerAll limit receiver ending lines ⟨[], 0, ⟨false, reason⟩⟩ =
      (⟨before.reverse, before.length, ⟨false, reason⟩⟩, some fault) := by
  obtain ⟨rest, split, -⟩ := offer_all_over limit receiver ending lines
  have short := fitting_short limit lines
  obtain ⟨early, late, parts, rfl, tail⟩ := List.map_eq_append_iff.mp rows
  obtain ⟨line, others, rfl, rfl, rfl⟩ := List.map_eq_cons_iff.mp tail
  rw [parts, List.forall_mem_append, List.forall_mem_cons] at short
  rw [List.length_map] at refused
  have stopped : Pass.offer ⟨(early.map dropReturn).reverse, early.length, ⟨false, reason⟩⟩ receiver line =
      .error fault := by
    simp [Pass.offer, refused]
  rw [split, parts, List.append_assoc, List.cons_append,
    offer_all_taken limit receiver ending early _ [] 0 reason short.1 taken, offerAll,
    if_neg (Nat.not_le.mpr short.2.1), List.append_nil, Nat.zero_add, stopped, List.length_map]

theorem offer_all_given_up (limit : Nat) (receiver : Receiver) (ending : Option Fault) (lines rest : List Bytes)
    (pass : Pass) (ended : pass.asker.gaveUp = true) (short : ∀ line ∈ lines, line.length < limit) :
    offerAll limit receiver ending (lines ++ rest) pass =
      if lines = [] then offerAll limit receiver ending rest pass else (pass, some pass.asker.reason) := by
  cases lines with
  | nil => rfl
  | cons line more =>
      have stopped : pass.offer receiver line = .error pass.asker.reason := by simp [Pass.offer, ended]
      rw [if_neg (List.cons_ne_nil line more), List.cons_append, offerAll,
        if_neg (Nat.not_le.mpr (short line List.mem_cons_self)), stopped]

theorem offer_all_given_up_before (limit : Nat) (receiver : Receiver) (ending : Option Fault) (reason : Fault)
    (lines : List Bytes) :
    offerAll limit receiver ending lines ⟨[], 0, ⟨true, reason⟩⟩ =
      (⟨[], 0, ⟨true, reason⟩⟩, if fitting limit lines = [] then outcome limit ending lines else some reason) := by
  obtain ⟨rest, split, ended⟩ := offer_all_over limit receiver ending lines
  have stopped := offer_all_given_up limit receiver ending (fitting limit lines) rest ⟨[], 0, ⟨true, reason⟩⟩ rfl
    (fitting_short limit lines)
  rw [← split] at stopped
  rw [stopped]
  by_cases none : fitting limit lines = []
  · rw [if_pos none, if_pos none]
    exact ended ⟨[], 0, ⟨true, reason⟩⟩ (by rw [none, List.length_nil])
  · rw [if_neg none, if_neg none]

theorem offer_all_given_up_during (limit : Nat) (receiver : Receiver) (ending : Option Fault) (reason : Fault)
    (lines before after : List Bytes) (row : Bytes)
    (rows : (fitting limit lines).map dropReturn = before ++ row :: after) (taken : receiver.Takes 0 before)
    (cancels : receiver (before.length + 1) row = .acceptAndCancel) :
    offerAll limit receiver ending lines ⟨[], 0, ⟨false, reason⟩⟩ =
      (⟨(before ++ [row]).reverse, before.length + 1, ⟨true, reason⟩⟩,
        if after = [] then outcome limit ending lines else some reason) := by
  obtain ⟨rest, split, ended⟩ := offer_all_over limit receiver ending lines
  have short := fitting_short limit lines
  obtain ⟨early, late, parts, rfl, tail⟩ := List.map_eq_append_iff.mp rows
  obtain ⟨line, others, rfl, rfl, rfl⟩ := List.map_eq_cons_iff.mp tail
  rw [parts, List.forall_mem_append, List.forall_mem_cons] at short
  rw [List.length_map] at cancels
  let last : Pass := ⟨dropReturn line :: (early.map dropReturn).reverse, early.length + 1, ⟨true, reason⟩⟩
  have accepted : Pass.offer ⟨(early.map dropReturn).reverse, early.length, ⟨false, reason⟩⟩ receiver line =
      .ok last := by
    simp [Pass.offer, Asker.giveUp, cancels, last]
  have walked : offerAll limit receiver ending lines ⟨[], 0, ⟨false, reason⟩⟩ =
      offerAll limit receiver ending (others ++ rest) last := by
    rw [split, parts, List.append_assoc, List.cons_append,
      offer_all_taken limit receiver ending early _ [] 0 reason short.1 taken, offerAll,
      if_neg (Nat.not_le.mpr short.2.1), List.append_nil, Nat.zero_add, accepted]
  rw [walked, offer_all_given_up limit receiver ending others rest last rfl short.2.2, List.reverse_concat,
    List.length_map]
  by_cases none : others = []
  · rw [if_pos none, if_pos (by rw [none, List.map_nil])]
    exact ended last (by rw [parts, none, List.length_append]; rfl)
  · rw [if_neg none, if_neg (mt List.map_eq_nil_iff.mp none)]

theorem offer_count (pass later : Pass) (receiver : Receiver) (line : Bytes)
    (accepted : pass.offer receiver line = .ok later) : later.count = pass.count + 1 := by
  unfold Pass.offer at accepted
  split at accepted
  · cases accepted
  · dsimp only at accepted
    split at accepted
    · cases accepted
      rfl
    · cases accepted
      rfl
    · cases accepted

theorem finish_count (pass : Pass) (receiver : Receiver) (window : Window) (stream : Stream) :
    pass.count ≤ (pass.finish receiver window stream).count := by
  unfold Pass.finish
  split
  · exact Nat.le_refl _
  · split
    · exact Nat.le_refl _
    · rename_i last accepted
      rw [Pass.stop, offer_count pass last receiver _ accepted]
      exact Nat.le_succ _

theorem read_lines_count (limit : Nat) (receiver : Receiver) (stream : Stream) (window : Window) (pass : Pass) :
    pass.count ≤ (readLines limit receiver stream window pass).count := by
  fun_induction readLines limit receiver stream window pass with
  | case1 => exact Nat.le_refl _
  | case2 stream window pass line next found later accepted ih =>
      rw [offer_count pass later receiver line accepted] at ih
      exact Nat.le_of_succ_le ih
  | case3 => exact Nat.le_refl _
  | case4 stream window pass searched absent roomy made ended => exact finish_count pass receiver roomy stream
  | case5 stream window pass searched absent roomy made data rest delivered ih => exact ih

theorem read_lines_step (limit : Nat) (receiver : Receiver) (stream : Stream) (window : Window) (pass : Pass) :
    readLines limit receiver stream window pass =
      match window.takeLine with
      | (some line, next) =>
          match pass.offer receiver line with
          | .error fault => pass.stop (some fault) stream
          | .ok later => readLines limit receiver stream next later
      | (none, searched) =>
          match searched.makeRoom limit with
          | none => pass.stop (some (tooLong pass.count)) stream
          | some roomy =>
              match stream.read roomy.room with
              | none => pass.finish receiver roomy stream
              | some (data, rest) => readLines limit receiver rest { roomy with fresh := data } pass := by
  rw [readLines]
  rcases window.takeLine with ⟨_ | line, next⟩
  · dsimp only
    rcases next.makeRoom limit with _ | roomy
    · rfl
    · dsimp only
      rcases stream.read roomy.room with _ | ⟨data, rest⟩
      · rfl
      · rfl
  · rfl

theorem offer_same (pass : Pass) (receiver other : Receiver) (line : Bytes)
    (same : other (pass.count + 1) = receiver (pass.count + 1)) :
    pass.offer other line = pass.offer receiver line := by
  rw [Pass.offer, Pass.offer, same]

theorem finish_same (pass : Pass) (receiver other : Receiver) (window : Window) (stream : Stream)
    (same : other (pass.count + 1) = receiver (pass.count + 1)) :
    pass.finish other window stream = pass.finish receiver window stream := by
  unfold Pass.finish
  split
  · rfl
  · rw [offer_same pass receiver other _ same]

-- A run that ends before row `last` is taken does not depend on what would be said to later rows.
theorem read_lines_settled (limit : Nat) (receiver other : Receiver) (stream : Stream) (window : Window) (pass : Pass)
    (last : Nat) (same : ∀ n ≤ last, other n = receiver n)
    (stopped : (readLines limit receiver stream window pass).count < last) :
    readLines limit other stream window pass = readLines limit receiver stream window pass := by
  fun_induction readLines limit receiver stream window pass with
  | case1 stream window pass line next found fault refused =>
      have asked := offer_same pass receiver other line (same _ stopped)
      rw [read_lines_step, found]
      simp only [asked, refused]
  | case2 stream window pass line next found later accepted ih =>
      have counted := read_lines_count limit receiver stream next later
      rw [offer_count pass later receiver line accepted] at counted
      have asked := offer_same pass receiver other line (same _ (Nat.le_trans counted (Nat.le_of_lt stopped)))
      rw [read_lines_step, found]
      simp only [asked, accepted]
      exact ih stopped
  | case3 stream window pass searched absent full =>
      rw [read_lines_step, absent]
      simp only [full]
  | case4 stream window pass searched absent roomy made ended =>
      have counted := finish_count pass receiver roomy stream
      rw [read_lines_step, absent]
      simp only [made, ended]
      exact finish_same pass receiver other roomy stream (same _ (Nat.lt_of_le_of_lt counted stopped))
  | case5 stream window pass searched absent roomy made data rest delivered ih =>
      rw [read_lines_step, absent]
      simp only [made, delivered]
      exact ih stopped

namespace Lines

theorem run_opened (source : Lines) (files : Files) :
    (∃ stream, source.run files = source.runOn stream) ∨
      ∃ fault, source.run files = fun _ _ => (⟨[], some fault, []⟩, source) := by
  unfold run
  cases source.stream with
  | some stream => exact Or.inl ⟨stream, rfl⟩
  | none =>
      cases openFile files source.path with
      | ok stream => exact Or.inl ⟨stream, rfl⟩
      | error fault => exact Or.inr ⟨fault, rfl⟩

theorem run_on_report (source : Lines) (stream : Stream) (asker : Asker) (receiver : Receiver) (pass : Pass)
    (fault : Option Fault)
    (offered : offerAll (effectiveLimit source.limit) receiver stream.ending (linesOf stream.left)
      ⟨[], 0, asker⟩ = (pass, fault)) :
    (source.runOn stream asker receiver).1.rows = pass.rows.reverse ∧
      (source.runOn stream asker receiver).1.fault = fault := by
  obtain ⟨left, passed⟩ := source.run_on_refines stream asker receiver
  rw [offered] at passed
  simp only [runOn, passed, stopAfter, Pass.stop, and_self]

theorem run_on_whole (source : Lines) (stream : Stream) (reason : Fault) :
    (source.runOn stream ⟨false, reason⟩ .all).1.rows =
        (fitting (effectiveLimit source.limit) (linesOf stream.left)).map dropReturn ∧
      (source.runOn stream ⟨false, reason⟩ .all).1.fault =
        outcome (effectiveLimit source.limit) stream.ending (linesOf stream.left) := by
  have report := source.run_on_report stream ⟨false, reason⟩ .all _ _ (offer_all_whole _ _ _ _)
  rwa [List.reverse_reverse] at report

theorem run_on_settled (source : Lines) (stream : Stream) (asker : Asker) (receiver other : Receiver) (last : Nat)
    (same : ∀ n ≤ last, other n = receiver n)
    (stopped : (offerAll (effectiveLimit source.limit) receiver stream.ending (linesOf stream.left)
      ⟨[], 0, asker⟩).1.count < last) :
    source.runOn stream asker other = source.runOn stream asker receiver := by
  obtain ⟨left, passed⟩ := source.run_on_refines stream asker receiver
  have settled := read_lines_settled (effectiveLimit source.limit) receiver other stream
    (.initial (effectiveLimit source.limit)) ⟨[], 0, asker⟩ last same (by rw [passed]; exact stopped)
  rw [runOn, runOn, settled]

theorem run_stops_when_told (source : Lines) (files : Files) (reason : Fault) :
    let whole := (source.run files ⟨false, reason⟩ .all).1
    (∀ before row after receiver fault, whole.rows = before ++ row :: after → receiver.Takes 0 before →
      receiver (before.length + 1) row = .refuse fault →
        (source.run files ⟨false, reason⟩ receiver).1.rows = before ∧
        (source.run files ⟨false, reason⟩ receiver).1.fault = some fault ∧
        ∀ other : Receiver, (∀ n ≤ before.length + 1, other n = receiver n) →
          source.run files ⟨false, reason⟩ other = source.run files ⟨false, reason⟩ receiver) ∧
    (∀ receiver,
        (source.run files ⟨true, reason⟩ receiver).1.rows = [] ∧
        (source.run files ⟨true, reason⟩ receiver).1.fault = if whole.rows = [] then whole.fault else some reason) ∧
    (∀ before row after receiver, whole.rows = before ++ row :: after → receiver.Takes 0 before →
      receiver (before.length + 1) row = .acceptAndCancel →
        (source.run files ⟨false, reason⟩ receiver).1.rows = before ++ [row] ∧
        (source.run files ⟨false, reason⟩ receiver).1.fault = if after = [] then whole.fault else some reason) := by
  intro whole
  rcases source.run_opened files with ⟨stream, opened⟩ | ⟨fault, closed⟩
  · have undisturbed := source.run_on_whole stream reason
    simp only [whole, opened, undisturbed.1, undisturbed.2]
    refine ⟨?_, ?_, ?_⟩
    · intro before row after receiver fault rows taken refused
      have offered := offer_all_refused _ receiver stream.ending _ before after row reason fault rows taken refused
      obtain ⟨handed, ended⟩ := source.run_on_report stream ⟨false, reason⟩ receiver _ _ offered
      refine ⟨by rw [handed, List.reverse_reverse], ended, ?_⟩
      intro other same
      have early := Nat.lt_succ_self before.length
      exact source.run_on_settled stream ⟨false, reason⟩ receiver other _ same (by rwa [offered])
    · intro receiver
      have offered := offer_all_given_up_before (effectiveLimit source.limit) receiver stream.ending reason
        (linesOf stream.left)
      simp only [List.map_eq_nil_iff]
      exact source.run_on_report stream ⟨true, reason⟩ receiver _ _ offered
    · intro before row after receiver rows taken cancels
      have offered := offer_all_given_up_during _ receiver stream.ending reason _ before after row rows taken cancels
      obtain ⟨handed, ended⟩ := source.run_on_report stream ⟨false, reason⟩ receiver _ _ offered
      exact ⟨by rw [handed, List.reverse_reverse], ended⟩
  · simp [whole, closed]

def overlong : Lines := ⟨.given, "", 4, some ⟨[ascii "a\r", ascii "\nbc\nwx", ascii "yz\n"], none⟩⟩

def impatient : Receiver := fun n _ => if n = 2 then .acceptAndCancel else .accept

theorem overlong_whole :
    (overlong.run .none false .all).1.rows = [ascii "a"] ++ ascii "bc" :: [] ∧
      (overlong.run .none false .all).1.fault = some (tooLong 2) := by
  obtain ⟨rows, fault⟩ := overlong.run_on_whole ⟨[ascii "a\r", ascii "\nbc\nwx", ascii "yz\n"], none⟩ .canceled
  exact ⟨rows.trans (by decide), fault.trans rfl⟩

theorem overlong_stops_when_told :
    (overlong.run .none false .all).1.rows = [ascii "a"] ++ ascii "bc" :: [] ∧ impatient.Takes 0 [ascii "a"] ∧
      impatient 2 (ascii "bc") = .acceptAndCancel ∧
      (overlong.run .none false impatient).1.rows = [ascii "a", ascii "bc"] ∧
      (overlong.run .none false impatient).1.fault = some (tooLong 2) := by
  obtain ⟨rows, fault⟩ := overlong_whole
  obtain ⟨handed, ended⟩ := (run_stops_when_told overlong .none .canceled).2.2 [ascii "a"] (ascii "bc") [] impatient rows
    ⟨rfl, trivial⟩ rfl
  exact ⟨rows, ⟨rfl, trivial⟩, rfl, handed, ended.trans fault⟩

end Lines

end OpcodeTable.Source
