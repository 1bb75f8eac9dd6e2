import OpcodeTable.Proofs.FirstFailure
import OpcodeTable.Proofs.LowerForms

/-!
Every call reads something and writes forms of what it read, so nothing is lost between the portions. Only
the form of a capital sigma can tell where they end.
-/

set_option autoImplicit false

namespace OpcodeTable.Utf8

theorem tail_stray (byte : UInt8) (rest : Bytes) (tail : isTail byte = true) : headScalar byte rest = none := by
  have range := tail_range byte tail
  have apart (low high : UInt8) (above : 0xBF < low.toNat) : within low high byte = false := by
    cases inside : within low high byte with
    | false => rfl
    | true =>
        have bounds := within_range low high byte inside
        omega
  have high : ¬ byte < 0x80 := by
    rw [UInt8.lt_iff_toNat_lt]
    exact Nat.not_lt.mpr range.1
  simp [headScalar, high, apart]

theorem glyphs_tails (tails rest : Bytes) (all : ∀ byte ∈ tails, isTail byte = true) :
    glyphs (tails ++ rest) = tails.map .stray ++ glyphs rest := by
  induction tails with
  | nil => rfl
  | cons byte more ih =>
      obtain ⟨here, later⟩ := List.forall_mem_cons.mp all
      rw [List.cons_append, glyphs_stray byte _ (tail_stray byte _ here), ih later]
      rfl

end OpcodeTable.Utf8

namespace OpcodeTable.Rule

open Utf8 (Glyph glyphs encode headScalar)

theorem runes_from_done (skip : Nat) (text : Bytes) (done : List Rune) :
    runesFrom skip text done = done.reverse ++ runesFrom skip text [] := by
  induction text generalizing skip done with
  | nil => cases skip <;> simp [runesFrom]
  | cons byte rest ih =>
      cases skip with
      | succ skip => simpa [runesFrom] using ih skip done
      | zero =>
          simp only [runesFrom]
          split
          · rw [ih, ih _ [_]]
            simp
          · rw [ih, ih _ [_]]
            simp

theorem runes_from_skip (skip : Nat) (text : Bytes) (done : List Rune) :
    runesFrom skip text done = runesFrom 0 (text.drop skip) done := by
  induction text generalizing skip with
  | nil => cases skip <;> simp [runesFrom]
  | cons byte rest ih =>
      cases skip with
      | zero => simp
      | succ skip => simpa [runesFrom] using ih skip

theorem broken_tails_start (lead : UInt8) (rest : Bytes) :
    brokenTails lead rest <+: rest ∧ ∀ byte ∈ brokenTails lead rest, Utf8.isTail byte = true := by
  simp only [brokenTails]
  split
  · exact ⟨(List.takeWhile_prefix _).trans (List.take_prefix _ _), List.all_eq_true.mp List.all_takeWhile⟩
  · exact ⟨List.nil_prefix, List.forall_mem_nil _⟩

theorem runes_glyphs (row : Bytes) : (runes row).flatMap Rune.glyphs = glyphs row := by
  induction counted : row.length using Nat.strongRecOn generalizing row with
  | _ size ih =>
      cases row with
      | nil => rfl
      | cons byte rest =>
          have later (skipped : Nat) :
              (runes (rest.drop skipped)).flatMap Rune.glyphs = glyphs (rest.drop skipped) := by
            apply ih _ _ _ rfl
            rw [← counted, List.length_drop, List.length_cons]
            omega
          cases found : headScalar byte rest with
          | some head =>
              have first : runes (byte :: rest) = .whole head.1 :: runes (rest.drop head.2) := by
                rw [runes, runesFrom, found]
                simp only
                rw [runes_from_done, runes_from_skip]
                rfl
              rw [first, List.flatMap_cons, later, Utf8.glyphs_scalar byte rest head.1 head.2 found]
              rfl
          | none =>
              obtain ⟨start, tails⟩ := broken_tails_start byte rest
              have first : runes (byte :: rest) = .broken byte (brokenTails byte rest) (broken_tails_few byte rest) ::
                  runes (rest.drop (brokenTails byte rest).length) := by
                rw [runes, runesFrom, found]
                simp only
                rw [runes_from_done, runes_from_skip]
                rfl
              have split : brokenTails byte rest ++ rest.drop (brokenTails byte rest).length = rest :=
                List.prefix_iff_eq_append.mp start
              rw [first, List.flatMap_cons, later, Utf8.glyphs_stray byte rest found, Rune.glyphs]
              conv => rhs; rw [← split, Utf8.glyphs_tails _ _ tails]
              rfl

theorem encode_runes (text : List Rune) : encode (text.flatMap Rune.glyphs) = text.flatMap Rune.bytes :=
  List.flatMap_assoc

theorem runes_bytes (row : Bytes) : (runes row).flatMap Rune.bytes = row := by
  rw [← encode_runes, runes_glyphs, Utf8.encode_glyphs]

theorem portion_starts (space : Nat) (text : List Rune) : portion space text <+: text := by
  induction text generalizing space with
  | nil => exact List.nil_prefix
  | cons rune rest ih =>
      rw [portion]
      split
      · exact List.cons_prefix_cons.mpr ⟨rfl, ih _⟩
      · exact List.nil_prefix

theorem scalar_size (code : Nat) : (Utf8.encodeScalar code).length ≤ 4 := by
  unfold Utf8.encodeScalar
  repeat' split
  all_goals simp

theorem sought_few (rune : Rune) : rune.sought ≤ 4 := by
  cases rune with
  | whole code => exact scalar_size code
  | broken lead tails few =>
      rw [Rune.sought, Utf8.sought]
      repeat' split
      all_goals decide

theorem strays_lowers (bytes : Bytes) : Lowers (bytes.map .stray) (bytes.map .stray) := by
  induction bytes with
  | nil => exact .nil
  | cons byte rest ih =>
      have own : [.stray byte] ∈ forms (.stray byte) := List.mem_singleton_self _
      exact .cons own ih

theorem rune_alone (rune : Rune) (inWord : Bool) (inside : staysInWord inWord rune.head = true) :
    rune.glyphs = [rune.head] := by
  cases rune with
  | whole code => rfl
  | broken lead tails few => cases inWord <;> cases inside

theorem uncased_rune_lowers (rune : Rune) (uncased : isCased rune.head = false) : Lowers rune.glyphs rune.glyphs := by
  cases rune with
  | whole code => exact .single (uncased_form (.scalar code) uncased)
  | broken lead tails few => exact strays_lowers (lead :: tails)

theorem rune_size (rune : Rune) : (encode rune.glyphs).length ≤ 4 := by
  cases rune with
  | whole code => simpa [Rune.glyphs, Utf8.encode, Utf8.Glyph.bytes] using scalar_size code
  | broken lead tails few =>
      have size : (encode (Rune.broken lead tails few).glyphs).length = tails.length + 1 := by
        simp [Rune.glyphs, Utf8.encode, Utf8.Glyph.bytes, List.flatMap_map]
      omega

theorem lower_glyph_size (glyph : Glyph) : (encode (lowerGlyph glyph)).length ≤ 4 := by
  cases glyph with
  | stray byte => simp [lowerGlyph, Utf8.encode, Utf8.Glyph.bytes]
  | scalar code =>
      simp only [lowerGlyph, Unicode.lowerForm]
      split
      · decide
      · split
        · simpa [Utf8.encode, Utf8.Glyph.bytes] using scalar_size _
        · simpa [Utf8.encode, Utf8.Glyph.bytes] using scalar_size code

theorem fit_ok (room : Nat) (text out : List Glyph) (made : fit room text = .ok out) :
    out = text ∧ (encode text).length ≤ room := by
  unfold fit at made
  split at made
  · rename_i fits
    cases made
    exact ⟨rfl, fits⟩
  · cases made

theorem sigma_form_ok (closed : Bool) (reach room : Nat) (rest : List Rune) (form : Nat)
    (made : sigmaForm closed reach room rest = .ok form) : form = smallSigma ∨ form = finalSigma := by
  induction rest generalizing reach room with
  | nil =>
      cases reach with
      | zero => exact Or.inr (Except.ok.inj made).symm
      | succ reach =>
          rw [sigmaForm] at made
          split at made
          · exact Or.inr (Except.ok.inj made).symm
          · cases made
  | cons rune more ih =>
      cases reach with
      | zero => exact Or.inr (Except.ok.inj made).symm
      | succ reach =>
          rw [sigmaForm] at made
          split at made
          · split at made
            · exact ih reach _ made
            · cases made
          · rw [← Except.ok.inj made]
            split
            · exact Or.inl rfl
            · exact Or.inr rfl

theorem lower_rune_ok (closed inWord : Bool) (room : Nat) (rune : Rune) (rest : List Rune) (text : List Glyph)
    (made : lowerRune closed inWord room rune rest = .ok text) :
    Lowers rune.glyphs text ∧ (encode text).length ≤ room := by
  unfold lowerRune at made
  split at made
  · rename_i outside
    obtain ⟨rfl, fits⟩ := fit_ok room rune.glyphs text made
    exact ⟨uncased_rune_lowers rune (outside_uncased inWord rune.head (by simpa using outside)), fits⟩
  · rename_i inside
    rw [rune_alone rune inWord (by simpa using inside)]
    split at made
    · rename_i sigma
      rw [Bool.and_eq_true, beq_iff_eq] at sigma
      obtain ⟨final, fitted, made⟩ := ok_of_bind _ _ _ made
      obtain ⟨form, told, made⟩ := ok_of_bind _ _ _ made
      cases made
      obtain ⟨rfl, fits⟩ := fit_ok room _ final fitted
      rw [sigma.2]
      rcases sigma_form_ok closed _ _ rest form told with rfl | rfl
      · exact ⟨.single (by decide), fits⟩
      · exact ⟨.single (by decide), fits⟩
    · obtain ⟨rfl, fits⟩ := fit_ok room (lowerGlyph rune.head) text made
      exact ⟨.single (lower_glyph_form rune.head), fits⟩

theorem convert_reads (closed inWord : Bool) (room : Nat) (text : List Rune) :
    (convert closed inWord room text).read <+: text ∧
      Lowers ((convert closed inWord room text).read.flatMap Rune.glyphs) (convert closed inWord room text).written ∧
      (convert closed inWord room text).sizeWritten ≤ room := by
  induction text generalizing inWord room with
  | nil => exact ⟨List.nil_prefix, .nil, Nat.zero_le room⟩
  | cons rune rest ih =>
      rw [convert]
      cases made : lowerRune closed inWord room rune rest with
      | error stop => exact ⟨List.nil_prefix, .nil, Nat.zero_le room⟩
      | ok text =>
          obtain ⟨lowers, fits⟩ := lower_rune_ok closed inWord room rune rest text made
          obtain ⟨start, later, small⟩ := ih (staysInWord inWord rune.head) (room - (encode text).length)
          refine ⟨List.cons_prefix_cons.mpr ⟨rfl, start⟩, ?_, ?_⟩
          · rw [List.flatMap_cons]
            exact lowers.append later
          · rw [Call.sizeWritten] at small ⊢
            rw [Utf8.encode_append, List.length_append]
            omega

-- At the start of a portion no look ahead is needed, so only room can be missing.
theorem convert_starts (closed : Bool) (room : Nat) (rune : Rune) (rest : List Rune)
    (nothing : (convert closed false room (rune :: rest)).read = []) :
    (convert closed false room (rune :: rest)).short = true ∧ room < 4 := by
  have step : ∃ text, lowerRune closed false room rune rest = fit room text ∧ (encode text).length ≤ 4 := by
    simp only [lowerRune, Bool.false_and, Bool.false_eq_true, if_false]
    split
    · exact ⟨rune.glyphs, rfl, rune_size rune⟩
    · exact ⟨lowerGlyph rune.head, rfl, lower_glyph_size rune.head⟩
  obtain ⟨text, own, few⟩ := step
  by_cases fits : (encode text).length ≤ room
  · rw [convert, own, fit, if_pos fits] at nothing
    cases nothing
  · rw [convert, own, fit, if_neg fits]
    exact ⟨rfl, by omega⟩

structure Buffer.Sound (whole : Nat) (buffer : Buffer) (text : List Rune) : Prop where
  left : buffer.left = (text.flatMap Rune.bytes).length
  settled : ∀ capacity ∈ buffer.capacity, portionSize ≤ capacity ∧ buffer.used ≤ capacity
  same : buffer.capacity = none → buffer.used + buffer.left = whole

theorem call_reads (buffer : Buffer) (text : List Rune) :
    (buffer.call text).read <+: text ∧
      Lowers ((buffer.call text).read.flatMap Rune.glyphs) (buffer.call text).written ∧
      (buffer.call text).sizeWritten ≤ buffer.room := by
  unfold Buffer.call
  split
  · exact convert_reads true false buffer.room text
  · obtain ⟨start, reads⟩ := convert_reads false false buffer.room (portion portionSize text)
    exact ⟨start.trans (portion_starts portionSize text), reads⟩

theorem call_starts (buffer : Buffer) (rune : Rune) (rest : List Rune)
    (nothing : (buffer.call (rune :: rest)).read = []) :
    (buffer.call (rune :: rest)).short = true ∧ buffer.room < 4 := by
  have fits : rune.sought ≤ portionSize := Nat.le_trans (sought_few rune) (by decide)
  unfold Buffer.call at nothing ⊢
  split at nothing
  · rename_i closed
    rw [if_pos closed]
    exact convert_starts true buffer.room rune rest nothing
  · rename_i closed
    rw [if_neg closed]
    rw [portion, if_pos fits] at nothing ⊢
    exact convert_starts false buffer.room rune _ nothing

theorem grow_room (capacity : Nat) (enough : portionSize ≤ capacity) : capacity + 4 ≤ Buffer.grow capacity := by
  unfold portionSize at enough
  unfold Buffer.grow
  split
  · omega
  · split
    · omega
    · omega

theorem grown_sound (whole : Nat) (buffer : Buffer) (text : List Rune) (sound : buffer.Sound whole text) :
    buffer.grown.Sound whole text := by
  refine ⟨sound.left, ?_, ?_⟩
  · intro capacity member
    obtain ⟨less, settled, rfl⟩ := Option.map_eq_some_iff.mp member
    have enough := sound.settled less settled
    have more := grow_room less enough.1
    exact ⟨by omega, show buffer.used ≤ _ by omega⟩
  · intro unsettled
    exact sound.same (Option.map_eq_none_iff.mp unsettled)

theorem after_sound (whole : Nat) (buffer : Buffer) (call : Call) (behind : List Rune)
    (sound : buffer.Sound whole (call.read ++ behind)) (fits : call.sizeWritten ≤ buffer.room) :
    (buffer.after whole call).Sound whole behind := by
  have left := sound.left
  rw [List.flatMap_append, List.length_append, ← Call.sizeRead] at left
  refine ⟨show buffer.left - call.sizeRead = _ by omega, ?_, ?_⟩
  · intro capacity member
    simp only [Buffer.after] at member ⊢
    cases settled : buffer.capacity with
    | some own =>
        have enough := sound.settled own settled
        simp only [Buffer.room, settled] at fits
        rw [settled] at member
        cases member
        exact ⟨enough.1, by omega⟩
    | none =>
        have same := sound.same settled
        rw [settled] at member
        simp only [Option.mem_def, Option.ite_none_left_eq_some, Option.some.injEq] at member
        rw [← member.2]
        split
        · rename_i small
          exact ⟨Nat.le_refl _, small⟩
        · constructor <;> omega
  · intro unsettled
    simp only [Buffer.after] at unsettled ⊢
    cases settled : buffer.capacity with
    | some own => simp [settled] at unsettled
    | none =>
        have same := sound.same settled
        rw [settled, ite_eq_left_iff] at unsettled
        by_cases kept : (call.unchanged && !call.short) = true
        · rw [Bool.and_eq_true] at kept
          have equal : call.sizeWritten = call.sizeRead := congrArg List.length (beq_iff_eq.mp kept.1)
          omega
        · cases unsettled kept

def Advances (whole : Nat) (text : List Rune) (call : Call) (after : Buffer) : Prop :=
  ∃ behind, call.read ++ behind = text ∧ call.read ≠ [] ∧ Lowers (call.read.flatMap Rune.glyphs) call.written ∧
    after.Sound whole behind

theorem call_advances (whole : Nat) (buffer : Buffer) (text : List Rune) (sound : buffer.Sound whole text)
    (present : (buffer.call text).read ≠ []) :
    Advances whole text (buffer.call text) (buffer.after whole (buffer.call text)) := by
  obtain ⟨⟨behind, split⟩, lowers, fits⟩ := call_reads buffer text
  refine ⟨behind, split, present, lowers, after_sound whole buffer _ behind ?_ fits⟩
  rwa [split]

theorem next_advances (whole : Nat) (buffer : Buffer) (rune : Rune) (rest : List Rune)
    (sound : buffer.Sound whole (rune :: rest)) :
    Advances whole (rune :: rest) (buffer.next whole (rune :: rest)).1 (buffer.next whole (rune :: rest)).2 := by
  by_cases again : ((buffer.call (rune :: rest)).short && (buffer.call (rune :: rest)).written.isEmpty) = true
  · have second : buffer.next whole (rune :: rest) =
        (buffer.grown.call (rune :: rest), buffer.grown.after whole (buffer.grown.call (rune :: rest))) := if_pos again
    rw [second]
    apply call_advances whole buffer.grown _ (grown_sound whole buffer _ sound)
    intro nothing
    have small := (call_starts buffer.grown rune rest nothing).2
    unfold Buffer.room Buffer.grown at small
    cases settled : buffer.capacity with
    | none => simp [settled, portionSize] at small
    | some capacity =>
        have enough := sound.settled capacity settled
        have more := grow_room capacity enough.1
        simp only [settled, Option.map_some] at small
        omega
  · have once : buffer.next whole (rune :: rest) =
        (buffer.call (rune :: rest), buffer.after whole (buffer.call (rune :: rest))) := if_neg again
    rw [once]
    apply call_advances whole buffer _ sound
    intro nothing
    have lowers := (call_reads buffer (rune :: rest)).2.1
    rw [nothing, List.flatMap_nil] at lowers
    have empty : (buffer.call (rune :: rest)).written = [] := by
      generalize (buffer.call (rune :: rest)).written = written at lowers
      cases lowers
      rfl
    exact again (by simp [(call_starts buffer rune rest nothing).1, empty])

theorem lower_portions_lowers (whole skip : Nat) (buffer : Buffer) (text : List Rune)
    (sound : buffer.Sound whole (text.drop skip)) :
    Lowers ((text.drop skip).flatMap Rune.glyphs) (lowerPortions whole skip buffer text) := by
  induction text generalizing skip buffer with
  | nil =>
      rw [List.drop_nil]
      cases skip <;> exact .nil
  | cons rune rest ih =>
      cases skip with
      | succ skip => exact ih skip buffer sound
      | zero =>
          have advances := next_advances whole buffer rune rest sound
          rw [List.drop_zero, lowerPortions]
          generalize buffer.next whole (rune :: rest) = step at advances ⊢
          obtain ⟨call, after⟩ := step
          obtain ⟨behind, split, present, lowers, later⟩ := advances
          obtain ⟨first, more, read⟩ := List.exists_cons_of_ne_nil present
          have size : call.read.length - 1 = more.length := by rw [read, List.length_cons, Nat.add_sub_cancel]
          have left : rest.drop more.length = behind := by
            rw [read, List.cons_append] at split
            rw [← (List.cons.inj split).2, List.drop_left]
          simp only
          rw [← split, List.flatMap_append, size]
          apply lowers.append
          rw [← left] at later ⊢
          exact ih more.length after later

-- The portions are lost in the outcome, but for the forms of the capital sigmas.
theorem lowercase_lowered (row : Bytes) : IsLowered row (lowercase row) := by
  have sound : Buffer.Sound row.length ⟨row.length, 0, none⟩ (runes row) :=
    ⟨by rw [runes_bytes], nofun, fun _ => Nat.zero_add _⟩
  have lowers := lower_portions_lowers row.length 0 _ (runes row) sound
  rw [List.drop_zero, runes_glyphs] at lowers
  exact ⟨_, lowers, rfl⟩

end OpcodeTable.Rule
