import OpcodeTable.Source.Lines

set_option autoImplicit false

namespace OpcodeTable.Source

-- The lines of a text. What follows the last newline is a line too, unless it is nothing.
def linesOf : Bytes → List Bytes
  | [] => []
  | byte :: rest =>
      if byte = Bytes.newline then [] :: linesOf rest
      else
        match linesOf rest with
        | [] => [[byte]]
        | line :: more => (byte :: line) :: more

def offerAll (limit : Nat) (receiver : Receiver) (ending : Option Fault) :
    List Bytes → Pass → Pass × Option Fault
  | [], pass => (pass, ending)
  | line :: rest, pass =>
      if limit ≤ line.length then (pass, some (tooLong pass.count))
      else
        match pass.offer receiver line with
        | .error fault => (pass, some fault)
        | .ok later => offerAll limit receiver ending rest later

def stopAfter (offered : Pass × Option Fault) (left : Stream) : Passed := offered.1.stop offered.2 left

theorem lines_of_line (line rest : Bytes) (unbroken : Bytes.newline ∉ line) :
    linesOf (line ++ Bytes.newline :: rest) = line :: linesOf rest := by
  induction line with
  | nil => simp [linesOf]
  | cons byte more ih =>
      have other : byte ≠ Bytes.newline := fun same => unbroken (by simp [same])
      have tail := ih (fun member => unbroken (List.mem_cons_of_mem byte member))
      simp [linesOf, other, tail]

theorem lines_of_unbroken (line : Bytes) (unbroken : Bytes.newline ∉ line) (present : line ≠ []) :
    linesOf line = [line] := by
  induction line with
  | nil => exact absurd rfl present
  | cons byte more ih =>
      have other : byte ≠ Bytes.newline := fun same => unbroken (by simp [same])
      cases more with
      | nil => simp [linesOf, other]
      | cons next rest =>
          have tail := ih (fun member => unbroken (List.mem_cons_of_mem byte member)) (by simp)
          rw [linesOf, if_neg other, tail]

theorem lines_of_start (text rest : Bytes) (unbroken : Bytes.newline ∉ text) (present : text ≠ []) :
    ∃ more others, linesOf (text ++ rest) = (text ++ more) :: others := by
  induction text with
  | nil => exact absurd rfl present
  | cons byte tail ih =>
      have other : byte ≠ Bytes.newline := fun same => unbroken (by simp [same])
      cases tail with
      | nil =>
          rw [List.singleton_append, linesOf, if_neg other]
          cases linesOf rest with
          | nil => exact ⟨[], [], rfl⟩
          | cons line others => exact ⟨line, others, rfl⟩
      | cons next rest' =>
          obtain ⟨more, others, lines⟩ :=
            ih (fun member => unbroken (List.mem_cons_of_mem byte member)) (by simp)
          refine ⟨more, others, ?_⟩
          rw [List.cons_append, linesOf, if_neg other, lines]
          rfl

def Stream.left (stream : Stream) : Bytes := stream.chunks.flatten

theorem read_left (room : Nat) (stream rest : Stream) (data : Bytes)
    (delivered : stream.read room = some (data, rest)) :
    data ++ rest.left = stream.left ∧ data.length ≤ room ∧ rest.ending = stream.ending := by
  unfold Stream.read at delivered
  cases chunks : stream.chunks with
  | nil => simp [chunks] at delivered
  | cons chunk others =>
      simp only [chunks] at delivered
      cases left : chunk.drop room with
      | nil =>
          simp only [left, Option.some.injEq, Prod.mk.injEq] at delivered
          obtain ⟨rfl, rfl⟩ := delivered
          have short := List.drop_eq_nil_iff.mp left
          exact ⟨by simp [Stream.left, chunks], short, rfl⟩
      | cons byte more =>
          simp only [left, Option.some.injEq, Prod.mk.injEq] at delivered
          obtain ⟨rfl, rfl⟩ := delivered
          refine ⟨?_, List.length_take_le room chunk, rfl⟩
          simp only [Stream.left, chunks, List.flatten_cons, ← left]
          rw [← List.append_assoc, List.take_append_drop]

theorem read_end (room : Nat) (stream : Stream) (ended : stream.read room = none) : stream.left = [] := by
  unfold Stream.read at ended
  cases chunks : stream.chunks with
  | nil => simp [Stream.left, chunks]
  | cons chunk others =>
      simp only [chunks] at ended
      cases left : chunk.drop room <;> simp [left] at ended

namespace Window

def held (window : Window) : Bytes := window.seen.reverse ++ window.fresh

structure Sound (limit : Nat) (window : Window) : Prop where
  size : window.seenSize = window.seen.length
  unbroken : Bytes.newline ∉ window.seen
  within : window.start + window.seenSize + window.fresh.length ≤ window.capacity
  positive : 0 < window.capacity
  bounded : window.capacity ≤ limit

theorem initial_sound (limit : Nat) (positive : 0 < limit) : (initial limit).Sound limit := by
  refine ⟨rfl, by simp [initial], by simp [initial], ?_, ?_⟩
  · simp only [initial]
    omega
  · exact Nat.min_le_right 65536 limit

theorem before_newline (text : Bytes) :
    Bytes.newline ∉ text.takeWhile (fun byte => byte != Bytes.newline) := by
  intro member
  have passed := List.all_eq_true.mp List.all_takeWhile _ member
  simp at passed

theorem at_newline (text after : Bytes) (byte : UInt8)
    (rest : text.dropWhile (fun byte => byte != Bytes.newline) = byte :: after) : byte = Bytes.newline := by
  have stopped := List.head_dropWhile_not (fun byte => byte != Bytes.newline) (l := text) (by simp [rest])
  simpa [rest] using stopped

theorem take_line_found (limit : Nat) (window next : Window) (line : Bytes) (sound : window.Sound limit)
    (found : window.takeLine = (some line, next)) :
    window.held = line ++ Bytes.newline :: next.held ∧ Bytes.newline ∉ line ∧ line.length < limit ∧
      next.Sound limit := by
  have parts := List.takeWhile_append_dropWhile (p := fun byte => byte != Bytes.newline) (l := window.fresh)
  have clean := before_newline window.fresh
  have lengths := congrArg List.length parts
  unfold takeLine at found
  cases rest : window.fresh.dropWhile (fun byte => byte != Bytes.newline) with
  | nil => simp [rest] at found
  | cons byte after =>
      simp only [rest, Prod.mk.injEq, Option.some.injEq] at found
      obtain ⟨rfl, rfl⟩ := found
      have newline := at_newline window.fresh after byte rest
      have within := sound.within
      have size := sound.size
      have bounded := sound.bounded
      simp only [rest, newline] at parts
      simp only [rest, List.length_append, List.length_cons] at lengths
      refine ⟨?_, ?_, ?_, ?_⟩
      · rw [held, held, List.append_assoc]
        exact congrArg (window.seen.reverse ++ ·) parts.symm
      · intro member
        rcases List.mem_append.mp member with early | late
        · exact sound.unbroken (List.mem_reverse.mp early)
        · exact clean late
      · simp only [List.length_append, List.length_reverse]
        omega
      · refine ⟨rfl, by simp, ?_, sound.positive, bounded⟩
        simp only
        omega

theorem take_line_absent (limit : Nat) (window searched : Window) (sound : window.Sound limit)
    (absent : window.takeLine = (none, searched)) :
    searched.held = window.held ∧ searched.fresh = [] ∧ searched.Sound limit := by
  have parts := List.takeWhile_append_dropWhile (p := fun byte => byte != Bytes.newline) (l := window.fresh)
  have clean := before_newline window.fresh
  unfold takeLine at absent
  cases rest : window.fresh.dropWhile (fun byte => byte != Bytes.newline) with
  | cons byte after => simp [rest] at absent
  | nil =>
      simp only [rest, Prod.mk.injEq, true_and] at absent
      rw [rest, List.append_nil] at parts
      rw [parts] at absent clean
      subst absent
      have within := sound.within
      have size := sound.size
      refine ⟨by simp [held, List.reverseAux_eq], rfl, ?_, ?_, ?_, sound.positive, sound.bounded⟩
      · simp only [List.reverseAux_eq, List.length_append, List.length_reverse]
        omega
      · simp only [List.reverseAux_eq, List.mem_append, List.mem_reverse, not_or]
        exact ⟨clean, sound.unbroken⟩
      · simp only [List.length_nil]
        omega

theorem shift_kept (window : Window) :
    window.shift.seen = window.seen ∧ window.shift.seenSize = window.seenSize ∧
      window.shift.fresh = window.fresh ∧ window.shift.capacity = window.capacity ∧
      window.shift.start ≤ window.start := by
  unfold shift
  split
  · exact ⟨rfl, rfl, rfl, rfl, Nat.zero_le _⟩
  · exact ⟨rfl, rfl, rfl, rfl, Nat.le_refl _⟩

theorem shift_sound (limit : Nat) (window : Window) (sound : window.Sound limit) : window.shift.Sound limit := by
  obtain ⟨seen, size, fresh, capacity, start⟩ := window.shift_kept
  have within := sound.within
  refine ⟨?_, ?_, ?_, ?_, ?_⟩
  · rw [seen, size]
    exact sound.size
  · rw [seen]
    exact sound.unbroken
  · rw [size, fresh, capacity]
    omega
  · rw [capacity]
    exact sound.positive
  · rw [capacity]
    exact sound.bounded

theorem grow_sound (limit : Nat) (window : Window) (sound : window.Sound limit) :
    (window.grow limit).Sound limit := by
  have within := sound.within
  have positive := sound.positive
  have bounded := sound.bounded
  refine ⟨sound.size, sound.unbroken, ?_, ?_, Nat.min_le_right _ _⟩
  · simp only [grow]
    omega
  · simp only [grow]
    omega

-- Moving and enlarging the window keeps what it holds.
theorem make_room_kept (limit : Nat) (window roomy : Window) (sound : window.Sound limit)
    (made : window.makeRoom limit = some roomy) :
    roomy.held = window.held ∧ roomy.fresh = window.fresh ∧ roomy.Sound limit := by
  obtain ⟨seen, _, fresh, _, _⟩ := window.shift_kept
  have moved := shift_sound limit window sound
  have same : window.shift.held = window.held := by rw [held, held, seen, fresh]
  unfold makeRoom at made
  split at made
  · cases made
    exact ⟨same, fresh, moved⟩
  · split at made
    · cases made
      exact ⟨same, fresh, grow_sound limit window.shift moved⟩
    · cases made

theorem shift_full (window : Window) (within : window.start + window.seenSize ≤ window.capacity)
    (full : window.shift.room = 0) : window.seenSize = window.capacity := by
  unfold room shift at full
  split at full
  · simp only at full
    omega
  · rename_i unmoved
    simp only [Bool.and_eq_true, Bool.or_eq_true, decide_eq_true_eq, beq_iff_eq] at unmoved
    omega

-- A window is full for good only when it holds as much as a line may have.
theorem make_room_full (limit : Nat) (window : Window) (sound : window.Sound limit)
    (full : window.makeRoom limit = none) : limit ≤ window.held.length := by
  obtain ⟨_, size, _, capacity, _⟩ := window.shift_kept
  have within := sound.within
  have positive := sound.positive
  have counted := sound.size
  have length : window.held.length = window.seenSize + window.fresh.length := by
    simp [held, counted]
  unfold makeRoom at full
  split at full
  · cases full
  · rename_i noRoom
    have filled := window.shift_full (by omega) (by omega)
    split at full
    · cases full
    · rename_i noGrowth
      simp only [Bool.and_eq_true, decide_eq_true_eq, room, grow, size, capacity] at noGrowth
      omega

theorem refill_sound (limit : Nat) (window : Window) (data : Bytes) (sound : window.Sound limit)
    (empty : window.fresh = []) (fits : data.length ≤ window.room) :
    ({ window with fresh := data } : Window).held = window.held ++ data ∧
      ({ window with fresh := data } : Window).Sound limit := by
  have within := sound.within
  simp only [empty, List.length_nil, room] at within fits
  refine ⟨by simp [held, empty], sound.size, sound.unbroken, ?_, sound.positive, sound.bounded⟩
  simp only
  omega

theorem held_searched (limit : Nat) (window : Window) (sound : window.Sound limit) (empty : window.fresh = []) :
    window.held = window.remainder ∧ Bytes.newline ∉ window.held := by
  have same : window.held = window.seen.reverse := by rw [held, empty, List.append_nil]
  refine ⟨same, ?_⟩
  rw [same, List.mem_reverse]
  exact sound.unbroken

theorem remainder_short (limit : Nat) (window : Window) (sound : window.Sound limit) (room : 0 < window.room) :
    window.remainder.length < limit := by
  have size := sound.size
  have bounded := sound.bounded
  simp only [Window.room] at room
  rw [remainder, List.length_reverse]
  omega

end Window

theorem offer_all_too_long (limit : Nat) (receiver : Receiver) (ending : Option Fault) (text rest : Bytes)
    (pass : Pass) (positive : 0 < limit) (unbroken : Bytes.newline ∉ text) (long : limit ≤ text.length) :
    offerAll limit receiver ending (linesOf (text ++ rest)) pass = (pass, some (tooLong pass.count)) := by
  have present : text ≠ [] := by
    intro empty
    simp only [empty, List.length_nil] at long
    omega
  obtain ⟨more, others, lines⟩ := lines_of_start text rest unbroken present
  have longer : limit ≤ (text ++ more).length := by
    rw [List.length_append]
    omega
  rw [lines, offerAll, if_pos longer]

theorem finish_offers (limit : Nat) (receiver : Receiver) (window : Window) (stream : Stream) (pass : Pass)
    (unbroken : Bytes.newline ∉ window.remainder) (short : window.remainder.length < limit) :
    pass.finish receiver window stream =
      stopAfter (offerAll limit receiver stream.ending (linesOf window.remainder) pass) stream := by
  unfold Pass.finish
  cases line : window.remainder with
  | nil => rfl
  | cons byte more =>
      rw [line] at unbroken short
      rw [lines_of_unbroken (byte :: more) unbroken (by simp), offerAll, if_neg (Nat.not_le.mpr short)]
      cases offered : pass.offer receiver (byte :: more) with
      | error fault => simp [offered, stopAfter]
      | ok last => simp [offered, offerAll, stopAfter]

-- The loop over the window does to a stream what handing over its lines does.
theorem read_lines_refines (limit : Nat) (receiver : Receiver) (stream : Stream) (window : Window) (pass : Pass)
    (sound : window.Sound limit) :
    ∃ left, readLines limit receiver stream window pass =
      stopAfter (offerAll limit receiver stream.ending (linesOf (window.held ++ stream.left)) pass) left := by
  fun_induction readLines limit receiver stream window pass with
  | case1 stream window pass line next found fault refused =>
      obtain ⟨held, unbroken, short, _⟩ := Window.take_line_found limit window next line sound found
      refine ⟨stream, ?_⟩
      rw [held, List.append_assoc, List.cons_append, lines_of_line _ _ unbroken, offerAll,
        if_neg (Nat.not_le.mpr short), refused]
      rfl
  | case2 stream window pass line next found later accepted ih =>
      obtain ⟨held, unbroken, short, nextSound⟩ := Window.take_line_found limit window next line sound found
      rw [held, List.append_assoc, List.cons_append, lines_of_line _ _ unbroken, offerAll,
        if_neg (Nat.not_le.mpr short), accepted]
      exact ih nextSound
  | case3 stream window pass searched absent full =>
      obtain ⟨held, empty, searchedSound⟩ := Window.take_line_absent limit window searched sound absent
      obtain ⟨_, unbroken⟩ := Window.held_searched limit searched searchedSound empty
      have long := Window.make_room_full limit searched searchedSound full
      have positive := Nat.lt_of_lt_of_le sound.positive sound.bounded
      refine ⟨stream, ?_⟩
      rw [← held, offer_all_too_long limit receiver stream.ending searched.held stream.left pass positive
        unbroken long]
      rfl
  | case4 stream window pass searched absent roomy made ended =>
      obtain ⟨held, empty, searchedSound⟩ := Window.take_line_absent limit window searched sound absent
      obtain ⟨kept, fresh, roomySound⟩ := Window.make_room_kept limit searched roomy searchedSound made
      obtain ⟨remains, unbroken⟩ := Window.held_searched limit roomy roomySound (fresh.trans empty)
      have short := Window.remainder_short limit roomy roomySound (Window.make_room_room limit searched roomy made)
      rw [remains] at unbroken
      rw [read_end roomy.room stream ended, List.append_nil, ← held, ← kept, remains]
      exact ⟨stream, finish_offers limit receiver roomy stream pass unbroken short⟩
  | case5 stream window pass searched absent roomy made data rest delivered ih =>
      obtain ⟨held, empty, searchedSound⟩ := Window.take_line_absent limit window searched sound absent
      obtain ⟨kept, fresh, roomySound⟩ := Window.make_room_kept limit searched roomy searchedSound made
      obtain ⟨whole, fits, ending⟩ := read_left roomy.room stream rest data delivered
      obtain ⟨refilled, refilledSound⟩ := Window.refill_sound limit roomy data roomySound (fresh.trans empty) fits
      have continued := ih refilledSound
      rw [refilled, kept, held, List.append_assoc, whole, ending] at continued
      exact continued

def Receiver.Takes (receiver : Receiver) : Nat → List Bytes → Prop
  | _, [] => True
  | count, row :: rest => receiver (count + 1) row = .accept ∧ receiver.Takes (count + 1) rest

theorem all_takes (count : Nat) (rows : List Bytes) : Receiver.all.Takes count rows := by
  induction rows generalizing count with
  | nil => trivial
  | cons row rest ih => exact ⟨rfl, ih (count + 1)⟩

theorem offer_taken (receiver : Receiver) (rows : List Bytes) (count : Nat) (reason : Fault) (line : Bytes)
    (taken : receiver (count + 1) (dropReturn line) = .accept) :
    Pass.offer ⟨rows, count, ⟨false, reason⟩⟩ receiver line =
      .ok ⟨dropReturn line :: rows, count + 1, ⟨false, reason⟩⟩ := by
  simp [Pass.offer, taken]

theorem offer_all_taken (limit : Nat) (receiver : Receiver) (ending : Option Fault) (lines rest : List Bytes)
    (rows : List Bytes) (count : Nat) (reason : Fault) (short : ∀ line ∈ lines, line.length < limit)
    (taken : receiver.Takes count (lines.map dropReturn)) :
    offerAll limit receiver ending (lines ++ rest) ⟨rows, count, ⟨false, reason⟩⟩ =
      offerAll limit receiver ending rest
        ⟨(lines.map dropReturn).reverse ++ rows, count + lines.length, ⟨false, reason⟩⟩ := by
  induction lines generalizing rows count with
  | nil => rfl
  | cons line more ih =>
      obtain ⟨fits, later⟩ := List.forall_mem_cons.mp short
      rw [List.cons_append, offerAll, if_neg (Nat.not_le.mpr fits), offer_taken receiver rows count reason line taken.1]
      simp only
      rw [ih (dropReturn line :: rows) (count + 1) later taken.2]
      simp only [List.map_cons, List.reverse_cons, List.append_assoc, List.singleton_append, List.length_cons,
        Nat.add_assoc, Nat.add_comm 1]

theorem offer_all_fitting (limit : Nat) (ending : Option Fault) (fitting rest : List Bytes) (rows : List Bytes)
    (count : Nat) (reason : Fault) (short : ∀ line ∈ fitting, line.length < limit) :
    offerAll limit .all ending (fitting ++ rest) ⟨rows, count, ⟨false, reason⟩⟩ =
      offerAll limit .all ending rest
        ⟨(fitting.map dropReturn).reverse ++ rows, count + fitting.length, ⟨false, reason⟩⟩ :=
  offer_all_taken limit .all ending fitting rest rows count reason short (all_takes count _)

theorem effective_limit_positive (setting : Int) : 0 < effectiveLimit setting := by
  unfold effectiveLimit defaultLimit
  split <;> omega

namespace Lines

theorem run_on_refines (source : Lines) (stream : Stream) (asker : Asker) (receiver : Receiver) :
    ∃ left, readLines (effectiveLimit source.limit) receiver stream (.initial (effectiveLimit source.limit))
        ⟨[], 0, asker⟩ =
      stopAfter (offerAll (effectiveLimit source.limit) receiver stream.ending (linesOf stream.left)
        ⟨[], 0, asker⟩) left := by
  have sound := Window.initial_sound _ (effective_limit_positive source.limit)
  exact read_lines_refines _ receiver stream (.initial (effectiveLimit source.limit)) ⟨[], 0, asker⟩ sound

theorem run_on_fitting (source : Lines) (stream : Stream) (reason : Fault) (ended : stream.ending = none)
    (short : ∀ line ∈ linesOf stream.left, line.length < effectiveLimit source.limit) :
    (source.runOn stream ⟨false, reason⟩ .all).1.rows = (linesOf stream.left).map dropReturn ∧
      (source.runOn stream ⟨false, reason⟩ .all).1.fault = none := by
  obtain ⟨left, passed⟩ := source.run_on_refines stream ⟨false, reason⟩ .all
  have offered := offer_all_fitting (effectiveLimit source.limit) none (linesOf stream.left) [] [] 0 reason short
  rw [List.append_nil] at offered
  rw [ended, offered] at passed
  unfold runOn
  simp only [passed]
  simp [stopAfter, offerAll, Pass.stop]

theorem run_on_too_long (source : Lines) (stream : Stream) (reason : Fault) (before after : List Bytes) (long : Bytes)
    (lines : linesOf stream.left = before ++ long :: after)
    (short : ∀ line ∈ before, line.length < effectiveLimit source.limit)
    (overrun : effectiveLimit source.limit ≤ long.length) :
    (source.runOn stream ⟨false, reason⟩ .all).1.fault = some (tooLong before.length) := by
  obtain ⟨left, passed⟩ := source.run_on_refines stream ⟨false, reason⟩ .all
  have offered := offer_all_fitting (effectiveLimit source.limit) stream.ending before (long :: after) [] 0 reason short
  rw [lines, offered, offerAll, if_pos overrun] at passed
  unfold runOn
  simp only [passed]
  simp [stopAfter, Pass.stop]

end Lines

end OpcodeTable.Source
