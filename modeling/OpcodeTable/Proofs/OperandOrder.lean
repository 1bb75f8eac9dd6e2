import OpcodeTable.Proofs.OperandScan

/-!
Only three pairs of entries depend on each other: `ax` is part of `eax` and of `rax`, and the code of `cl`
completes the target of another entry.
-/

set_option autoImplicit false

namespace OpcodeTable.Rule

def Independent (first second : Operand) : Prop := Spares first second ∧ Spares second first

instance (first second : Operand) : Decidable (Independent first second) := inferInstanceAs (Decidable (_ ∧ _))

theorem independent_commute (first second : Operand) (independent : Independent first second)
    (present : first.target ≠ [] ∧ second.target ≠ []) (row : Bytes) :
    second.apply (first.apply row) = first.apply (second.apply row) := by
  have fused (one other : Operand) (spares : Spares one other) (some : one.target ≠ [] ∧ other.target ≠ []) :
      other.apply (one.apply row) = scanOperands [one, other] row := by
    rw [← scan_one, ← scan_one]
    exact scan_scan [one] [other] (by simpa using spares)
      ⟨List.pairwise_singleton _ _, List.pairwise_singleton _ _⟩ (by simpa using some) row
  have free : PrefixFree [first, second] := by
    have apart := independent.1.2 0 (List.length_pos_iff.mpr present.2)
    simpa [PrefixFree] using apart
  calc second.apply (first.apply row)
      = scanOperands [first, second] row := fused first second independent.1 present
    _ = scanOperands [second, first] row := scan_perm _ _ (List.Perm.swap second first []) free row
    _ = first.apply (second.apply row) := (fused second first independent.2 present.symm).symm

theorem move_to_front (entry : Operand) (front back : List Operand)
    (present : ∀ other ∈ entry :: front, other.target ≠ []) (independent : ∀ other ∈ front, Independent entry other)
    (row : Bytes) : applyOperands (front ++ entry :: back) row = applyOperands (entry :: (front ++ back)) row := by
  induction front generalizing row with
  | nil => rfl
  | cons first more ih =>
      obtain ⟨own, others⟩ := List.forall_mem_cons.mp present
      obtain ⟨head, tail⟩ := List.forall_mem_cons.mp others
      obtain ⟨here, later⟩ := List.forall_mem_cons.mp independent
      calc applyOperands (first :: more ++ entry :: back) row
          = applyOperands (more ++ entry :: back) (first.apply row) := rfl
        _ = applyOperands (more ++ back) (entry.apply (first.apply row)) :=
          ih (List.forall_mem_cons.mpr ⟨own, tail⟩) later (first.apply row)
        _ = applyOperands (more ++ back) (first.apply (entry.apply row)) := by
          rw [independent_commute entry first here ⟨own, head⟩]
        _ = applyOperands (entry :: (first :: more ++ back)) row := rfl

theorem before_or_after {α : Type} (table : List α) (first second : α) (other : first ≠ second)
    (left : first ∈ table) (right : second ∈ table) :
    [first, second].Sublist table ∨ [second, first].Sublist table := by
  induction table with
  | nil => cases left
  | cons entry rest ih =>
      rcases List.mem_cons.mp left with rfl | early
      · have behind : second ∈ rest := (List.mem_cons.mp right).resolve_left other.symm
        exact Or.inl ((List.singleton_sublist.mpr behind).cons_cons first)
      · rcases List.mem_cons.mp right with rfl | late
        · exact Or.inr ((List.singleton_sublist.mpr early).cons_cons second)
        · exact (ih early late).imp (.cons entry) (.cons entry)

theorem not_before_and_after {α : Type} (table : List α) (first second : α) (distinct : table.Nodup)
    (before : [first, second].Sublist table) : ¬ [second, first].Sublist table := by
  induction table with
  | nil => cases before
  | cons entry rest ih =>
      obtain ⟨fresh, later⟩ := List.nodup_cons.mp distinct
      intro after
      cases before with
      | cons _ before =>
          cases after with
          | cons _ after => exact ih later before after
          | cons_cons _ after => exact fresh (before.subset (by simp))
      | cons_cons _ before =>
          cases after with
          | cons _ after => exact fresh (after.subset (by simp))
          | cons_cons _ after => exact fresh (before.subset (by simp))

theorem reorder_table (table reference : List Operand) (perm : table.Perm reference) (distinct : reference.Nodup)
    (present : ∀ entry ∈ reference, entry.target ≠ [])
    (kept : ∀ first second, [first, second].Sublist reference →
      Independent first second ∨ [first, second].Sublist table) (row : Bytes) :
    applyOperands table row = applyOperands reference row := by
  induction reference generalizing table row with
  | nil => rw [perm.eq_nil]
  | cons entry rest ih =>
      obtain ⟨fresh, later⟩ := List.nodup_cons.mp distinct
      obtain ⟨front, back, rfl⟩ := List.append_of_mem (perm.mem_iff.mpr List.mem_cons_self)
      have unique : (front ++ entry :: back).Nodup := perm.nodup_iff.mpr distinct
      have remaining : (front ++ back).Perm rest := (List.perm_middle.symm.trans perm).cons_inv
      have single : entry ∉ front ++ back := fun member => fresh (remaining.mem_iff.mp member)
      have independent : ∀ other ∈ front, Independent entry other := by
        intro other member
        have behind : other ∈ rest := remaining.mem_iff.mp (List.mem_append_left back member)
        have ahead : [other, entry].Sublist (front ++ entry :: back) :=
          (List.singleton_sublist.mpr member).append (List.singleton_sublist.mpr List.mem_cons_self)
        rcases kept entry other ((List.singleton_sublist.mpr behind).cons_cons entry) with free | before
        · exact free
        · exact absurd ahead (not_before_and_after _ entry other unique before)
      have others : ∀ first second, [first, second].Sublist rest →
          Independent first second ∨ [first, second].Sublist (front ++ back) := by
        intro first second order
        refine (kept first second (order.cons entry)).imp_right fun before => ?_
        have elsewhere : entry ∉ [first, second] := fun member => fresh (order.subset member)
        have without := before.erase entry
        rwa [List.erase_of_not_mem elsewhere, List.erase_append_right _ (fun member =>
          single (List.mem_append_left back member)), List.erase_cons_head] at without
      have moved : ∀ other ∈ entry :: front, other.target ≠ [] := by
        intro other member
        refine present other (perm.mem_iff.mp ?_)
        rcases List.mem_cons.mp member with rfl | early
        · exact List.mem_append_right front List.mem_cons_self
        · exact List.mem_append_left _ early
      calc applyOperands (front ++ entry :: back) row
          = applyOperands (front ++ back) (entry.apply row) := move_to_front entry front back moved independent row
        _ = applyOperands (entry :: rest) row :=
          ih (front ++ back) remaining later (fun other member => present other (List.mem_cons_of_mem entry member))
            others (entry.apply row)

def orderedOperands : List (Operand × Operand) := [
  (operand "eax" "0C", operand "ax" "0B"),
  (operand "rax" "0D", operand "ax" "0B"),
  (operand "cl" "1A", operand ", 1" ", L1")]

theorem operands_independent :
    operands.Pairwise fun first second => Independent first second ∨ (first, second) ∈ orderedOperands := by
  decide +kernel

-- On a text that all entries but one leave alone, before and after that one, a table does what it does.
theorem one_applies (table : List Operand) (entry : Operand) (text : Bytes) (distinct : table.Nodup)
    (member : entry ∈ table) (idle : ∀ other ∈ table, other ≠ entry →
      other.apply text = text ∧ other.apply (entry.apply text) = entry.apply text) :
    applyOperands table text = entry.apply text := by
  obtain ⟨front, back, rfl⟩ := List.append_of_mem member
  obtain ⟨_, unique, apart⟩ := List.nodup_append.mp distinct
  have early : applyOperands front text = text := by
    apply apply_operands_idle
    intro other inside
    exact (idle other (List.mem_append_left _ inside) (apart other inside entry List.mem_cons_self)).1
  have late : applyOperands back (entry.apply text) = entry.apply text := by
    apply apply_operands_idle
    intro other inside
    have differs : other ≠ entry := fun same => (List.nodup_cons.mp unique).1 (same ▸ inside)
    exact (idle other (List.mem_append_right front (List.mem_cons_of_mem entry inside)) differs).2
  rw [apply_operands_append, early]
  exact late

theorem two_apply (table : List Operand) (first second : Operand) (row : Bytes) (distinct : table.Nodup)
    (order : [first, second].Sublist table) (idle : ∀ other ∈ table, other ≠ first → other ≠ second →
      other.apply row = row ∧ other.apply (first.apply row) = first.apply row ∧
        other.apply (second.apply (first.apply row)) = second.apply (first.apply row)) :
    applyOperands table row = second.apply (first.apply row) := by
  induction table with
  | nil => cases order
  | cons entry rest ih =>
      obtain ⟨fresh, later⟩ := List.nodup_cons.mp distinct
      obtain ⟨here, others⟩ := List.forall_mem_cons.mp idle
      cases order with
      | cons _ order =>
          have left : entry ≠ first := fun same => fresh (order.subset (by simp [same]))
          have right : entry ≠ second := fun same => fresh (order.subset (by simp [same]))
          calc applyOperands (entry :: rest) row
              = applyOperands rest row := congrArg (applyOperands rest) (here left right).1
            _ = second.apply (first.apply row) := ih later order others
      | cons_cons _ order =>
          apply one_applies rest second (first.apply row) later (List.singleton_sublist.mp order)
          intro other inside differs
          exact (others other inside (fun same => fresh (same ▸ inside)) differs).2

def telling (pair : Operand × Operand) : Bytes := ascii ", " ++ pair.1.target

theorem telling_idle : ∀ pair ∈ orderedOperands, ∀ other ∈ operands, other ≠ pair.2 → other ≠ pair.1 →
    other.apply (telling pair) = telling pair ∧
      other.apply (pair.2.apply (telling pair)) = pair.2.apply (telling pair) ∧
      other.apply (pair.1.apply (pair.2.apply (telling pair))) = pair.1.apply (pair.2.apply (telling pair)) := by
  decide

theorem telling_differs : ∀ pair ∈ orderedOperands,
    pair.1.apply (pair.2.apply (telling pair)) ≠ replaceOperands (telling pair) := by
  decide

theorem ordered_distinct : operands.Nodup ∧ ∀ pair ∈ orderedOperands,
    pair.1 ≠ pair.2 ∧ pair.1 ∈ operands ∧ pair.2 ∈ operands := by
  decide

theorem reordered_operands_agree_iff (table : List Operand) (perm : table.Perm operands) :
    (∀ row, applyOperands table row = replaceOperands row) ↔
      ∀ pair ∈ orderedOperands, [pair.1, pair.2].Sublist table := by
  obtain ⟨distinct, pairs⟩ := ordered_distinct
  constructor
  · intro same pair member
    obtain ⟨other, left, right⟩ := pairs pair member
    have either := before_or_after table pair.1 pair.2 other (perm.mem_iff.mpr left) (perm.mem_iff.mpr right)
    rcases either with before | after
    · exact before
    · have told := two_apply table pair.2 pair.1 (telling pair) (perm.nodup_iff.mpr distinct) after
        fun entry inside => telling_idle pair member entry (perm.mem_iff.mp inside)
      exact absurd (told.symm.trans (same (telling pair))) (telling_differs pair member)
  · intro ordered row
    apply reorder_table table operands perm distinct (by decide)
    intro first second order
    refine (List.pairwise_iff_forall_sublist.mp operands_independent order).imp_right ?_
    exact fun member => ordered (first, second) member

def regrouped : List Operand :=
  (operands.drop 6).reverse ++ (operands.take 3).reverse ++ [countRegister, unitCount, operand "ax" "0B"]

theorem regrouped_operands_agree :
    regrouped.Perm operands ∧ (∀ pair ∈ orderedOperands, [pair.1, pair.2].Sublist regrouped) ∧
      ∀ row, applyOperands regrouped row = replaceOperands row := by
  have perm : regrouped.Perm operands := by decide +kernel
  have ordered : ∀ pair ∈ orderedOperands, [pair.1, pair.2].Sublist regrouped := by decide +kernel
  exact ⟨perm, ordered, (reordered_operands_agree_iff regrouped perm).mpr ordered⟩

end OpcodeTable.Rule
