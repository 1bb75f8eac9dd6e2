import Mathlib.Data.List.Chain
import OpcodeTable.Unicode.Case

set_option autoImplicit false

namespace OpcodeTable.Unicode

theorem covered (spans : List Span) (code : Nat) (inside : covers spans code = true) :
    ∃ span ∈ spans, span.first ≤ code ∧ code ≤ span.last := by
  induction spans with
  | nil => cases inside
  | cons span rest ih =>
      rw [covers] at inside
      split at inside
      · cases inside
      · rename_i start
        split at inside
        · rename_i stop
          exact ⟨span, List.mem_cons_self, Nat.not_lt.mp start, stop⟩
        · obtain ⟨other, member, range⟩ := ih inside
          exact ⟨other, List.mem_cons_of_mem span member, range⟩

theorem shift_entry (table : List Shift) (code : Nat) (shift : Int) (found : shiftOf table code = some shift) :
    ∃ entry ∈ table, entry.first ≤ code ∧ code ≤ entry.last ∧ (code - entry.first) % entry.step = 0 ∧
      entry.shift = shift := by
  induction table with
  | nil => cases found
  | cons entry rest ih =>
      have later (elsewhere : shiftOf rest code = some shift) :
          ∃ other ∈ entry :: rest, other.first ≤ code ∧ code ≤ other.last ∧
            (code - other.first) % other.step = 0 ∧ other.shift = shift := by
        obtain ⟨other, member, range⟩ := ih elsewhere
        exact ⟨other, List.mem_cons_of_mem entry member, range⟩
      rw [shiftOf] at found
      split at found
      · cases found
      · rename_i start
        split at found
        · rename_i stop
          split at found
          · rename_i turn
            exact ⟨entry, List.mem_cons_self, Nat.not_lt.mp start, stop, beq_iff_eq.mp turn, Option.some.inj found⟩
          · exact later found
        · exact later found

theorem form_kept (code : Nat) (single : code ≠ 0x130) (still : shiftOf lowerShifts code = none) :
    lowerForm code = [code] := by
  simp [lowerForm, single, still]

theorem starts_ascend : (lowerShifts.map Shift.first).IsChain (· ≤ ·) ∧
    (casedSpans.map Span.first).IsChain (· ≤ ·) ∧ (ignorableSpans.map Span.first).IsChain (· ≤ ·) := by
  decide +kernel

theorem shifts_sorted : lowerShifts.Pairwise fun entry later => entry.first ≤ later.first :=
  List.pairwise_map.mp (List.isChain_iff_pairwise.mp starts_ascend.1)

theorem cased_sorted : casedSpans.Pairwise fun span later => span.first ≤ later.first :=
  List.pairwise_map.mp (List.isChain_iff_pairwise.mp starts_ascend.2.1)

theorem ignorable_sorted : ignorableSpans.Pairwise fun span later => span.first ≤ later.first :=
  List.pairwise_map.mp (List.isChain_iff_pairwise.mp starts_ascend.2.2)

theorem covers_span (spans : List Span) (sorted : spans.Pairwise fun span later => span.first ≤ later.first)
    (code : Nat) (span : Span) (member : span ∈ spans) (range : span.first ≤ code ∧ code ≤ span.last) :
    covers spans code = true := by
  induction spans with
  | nil => cases member
  | cons head rest ih =>
      obtain ⟨lowest, others⟩ := List.pairwise_cons.mp sorted
      have start : head.first ≤ code := by
        rcases List.mem_cons.mp member with rfl | later
        · exact range.1
        · exact Nat.le_trans (lowest span later) range.1
      rw [covers, if_neg (Nat.not_lt.mpr start)]
      split
      · rfl
      · rename_i beyond
        rcases List.mem_cons.mp member with rfl | later
        · exact absurd range.2 beyond
        · exact ih others later

-- All entries but one lie in one span each.
theorem shifts_cased : ∀ entry ∈ lowerShifts,
    (casedSpans.any fun span => Nat.ble span.first entry.first && Nat.ble entry.last span.last) = true ∨
      ∀ turn ≤ (entry.last - entry.first) / entry.step, isCased (entry.first + entry.step * turn) = true := by
  decide +kernel

theorem uncased_kept (code : Nat) (uncased : isCased code = false) : lowerForm code = [code] := by
  apply form_kept
  · rintro rfl
    revert uncased
    decide
  · cases found : shiftOf lowerShifts code with
    | none => rfl
    | some shift =>
        obtain ⟨entry, member, first, last, turn, _⟩ := shift_entry lowerShifts code shift found
        have cased : isCased code = true := by
          rcases shifts_cased entry member with inside | each
          · obtain ⟨span, spans, range⟩ := List.any_eq_true.mp inside
            rw [Bool.and_eq_true, Nat.ble_eq, Nat.ble_eq] at range
            exact covers_span casedSpans cased_sorted code span spans
              ⟨Nat.le_trans range.1 first, Nat.le_trans last range.2⟩
          · have here := each ((code - entry.first) / entry.step) (Nat.div_le_div_right (Nat.sub_le_sub_right last _))
            rwa [Nat.mul_div_cancel' (Nat.dvd_of_mod_eq_zero turn), Nat.add_sub_cancel' first] at here
        rw [cased] at uncased
        cases uncased

def clear : List Shift → List Span → Bool
  | [], _ => true
  | entry :: rest, spans =>
      let later := spans.dropWhile fun span => Nat.blt span.last entry.first
      (later.head?.all fun span => Nat.blt entry.last span.first) && clear rest later

theorem clear_apart (table : List Shift) (spans : List Span)
    (ordered : table.Pairwise fun entry later => entry.first ≤ later.first)
    (sorted : spans.Pairwise fun span later => span.first ≤ later.first) (apart : clear table spans = true) :
    ∀ entry ∈ table, ∀ span ∈ spans, span.last < entry.first ∨ entry.last < span.first := by
  induction table generalizing spans with
  | nil => nofun
  | cons head rest ih =>
      obtain ⟨lowest, ordered⟩ := List.pairwise_cons.mp ordered
      rw [clear, Bool.and_eq_true] at apart
      have parts := List.takeWhile_append_dropWhile (p := fun span : Span => Nat.blt span.last head.first) (l := spans)
      have passed : ∀ span ∈ spans.takeWhile fun span => Nat.blt span.last head.first, span.last < head.first :=
        fun span member => Nat.blt_eq.mp (List.all_eq_true.mp List.all_takeWhile span member)
      generalize spans.takeWhile (fun span => Nat.blt span.last head.first) = before at parts passed
      generalize spans.dropWhile (fun span => Nat.blt span.last head.first) = later at parts apart
      subst parts
      have sorted := (List.pairwise_append.mp sorted).2.1
      intro entry member span inside
      rcases List.mem_append.mp inside with early | late
      · have first : head.first ≤ entry.first := by
          rcases List.mem_cons.mp member with rfl | other
          · exact Nat.le_refl _
          · exact lowest entry other
        exact Or.inl (Nat.lt_of_lt_of_le (passed span early) first)
      · rcases List.mem_cons.mp member with rfl | other
        · cases later with
          | nil => cases late
          | cons next others =>
              have beyond : entry.last < next.first := Nat.blt_eq.mp apart.1
              rcases List.mem_cons.mp late with rfl | further
              · exact Or.inr beyond
              · exact Or.inr (Nat.lt_of_lt_of_le beyond ((List.pairwise_cons.mp sorted).1 span further))
        · exact ih later ordered sorted apart.2 entry other span late

theorem ignorable_kept (code : Nat) (ignorable : isCaseIgnorable code = true) : lowerForm code = [code] := by
  obtain ⟨span, inside, start, stop⟩ := covered ignorableSpans code ignorable
  apply form_kept
  · rintro rfl
    revert ignorable
    decide
  · cases found : shiftOf lowerShifts code with
    | none => rfl
    | some shift =>
        obtain ⟨entry, member, first, last, _, _⟩ := shift_entry lowerShifts code shift found
        have apart := clear_apart lowerShifts ignorableSpans shifts_sorted ignorable_sorted (by decide) entry
          member span inside
        omega

end OpcodeTable.Unicode
