import OpcodeTable.Proofs.OperandSaturation

set_option autoImplicit false

namespace OpcodeTable.Rule

open Bytes (Edit sweep findLiteral)

def findOperand (table : List Operand) (byte : UInt8) (rest : Bytes) : Option Edit :=
  table.findSome? fun entry => findLiteral entry.target entry.code byte rest

def scanOperands (table : List Operand) : Bytes → Bytes := sweep (findOperand table)

theorem find_operand_found (table : List Operand) (byte : UInt8) (rest : Bytes) (edit : Edit)
    (found : findOperand table byte rest = some edit) :
    ∃ entry ∈ table, entry.target <+: byte :: rest ∧ edit = ⟨entry.code, entry.target.length - 1⟩ := by
  obtain ⟨entry, member, here⟩ := List.exists_of_findSome?_eq_some found
  rw [findLiteral, Option.ite_none_right_eq_some] at here
  exact ⟨entry, member, List.isPrefixOf_iff_prefix.mp here.1, (Option.some.inj here.2).symm⟩

theorem find_operand_none (table : List Operand) (byte : UInt8) (rest : Bytes) :
    findOperand table byte rest = none ↔ ∀ entry ∈ table, ¬ entry.target <+: byte :: rest := by
  simp [findOperand, findLiteral, List.isPrefixOf_iff_prefix]

theorem scan_none (row : Bytes) : scanOperands [] row = row := by
  induction row with
  | nil => rfl
  | cons byte rest ih =>
      rw [scanOperands, Bytes.sweep_keep _ byte rest rfl]
      exact congrArg (byte :: ·) ih

theorem scan_one (entry : Operand) (row : Bytes) : scanOperands [entry] row = entry.apply row := by
  have same : findOperand [entry] = findLiteral entry.target entry.code := by
    funext byte rest
    simp [findOperand]
  rw [scanOperands, same]
  rfl

theorem scan_keep (table : List Operand) (word back : Bytes)
    (apart : ∀ entry ∈ table, ∀ n < word.length, Apart entry.target (word.drop n)) :
    scanOperands table (word ++ back) = word ++ scanOperands table back := by
  induction word with
  | nil => rfl
  | cons byte more ih =>
      have missed : findOperand table byte (more ++ back) = none := by
        rw [find_operand_none]
        intro entry member
        exact not_start_of_apart entry.target (byte :: more) back (apart entry member 0 (by simp))
      have later := ih fun entry member n inside => apart entry member (n + 1) (by simp [inside])
      rw [List.cons_append, scanOperands, Bytes.sweep_keep _ byte _ missed, ← scanOperands, later, List.cons_append]

theorem start_through (table : List Operand) (word text : Bytes) (start : word <+: scanOperands table text) :
    word <+: text ∨ ∃ n < word.length, ∃ entry ∈ table,
      word.take n ++ entry.target <+: text ∧ ¬ Apart (word.drop n) entry.code := by
  induction text generalizing word with
  | nil => exact Or.inl start
  | cons byte rest ih =>
      cases word with
      | nil => exact Or.inl List.nil_prefix
      | cons head tail =>
          cases found : findOperand table byte rest with
          | some edit =>
              obtain ⟨entry, member, here, rfl⟩ := find_operand_found table byte rest edit found
              rw [scanOperands, Bytes.sweep_edit _ byte rest _ found] at start
              refine Or.inr ⟨0, by simp, entry, member, here, ?_⟩
              intro apart
              exact not_start_of_apart _ entry.code _ apart start
          | none =>
              rw [scanOperands, Bytes.sweep_keep _ byte rest found, List.cons_prefix_cons] at start
              rcases ih tail start.2 with before | ⟨n, inside, entry, member, here, joined⟩
              · exact Or.inl (List.cons_prefix_cons.mpr ⟨start.1, before⟩)
              · refine Or.inr ⟨n + 1, by simp [inside], entry, member, ?_, joined⟩
                rw [List.take_succ_cons, List.cons_append]
                exact List.cons_prefix_cons.mpr ⟨start.1, here⟩

def PrefixFree (table : List Operand) : Prop := table.Pairwise fun one other => Apart one.target other.target

instance (table : List Operand) : Decidable (PrefixFree table) := inferInstanceAs (Decidable (List.Pairwise _ _))

theorem find_operand_here (table : List Operand) (free : PrefixFree table) (entry : Operand) (member : entry ∈ table)
    (byte : UInt8) (rest : Bytes) (start : entry.target <+: byte :: rest) :
    findOperand table byte rest = some ⟨entry.code, entry.target.length - 1⟩ := by
  induction table with
  | nil => cases member
  | cons first more ih =>
      obtain ⟨others, later⟩ := List.pairwise_cons.mp free
      rw [findOperand, List.findSome?_cons]
      rcases List.mem_cons.mp member with rfl | behind
      · rw [findLiteral, if_pos (List.isPrefixOf_iff_prefix.mpr start)]
      · have apart := others entry behind
        have missed : ¬ first.target <+: byte :: rest := by
          intro same
          rcases List.prefix_or_prefix_of_prefix same start with shorter | longer
          · exact apart.1 shorter
          · exact apart.2 longer
        rw [literal_miss first.target first.code byte rest missed]
        exact ih later behind

theorem scan_target (table : List Operand) (free : PrefixFree table) (entry : Operand) (member : entry ∈ table)
    (present : entry.target ≠ []) (back : Bytes) :
    scanOperands table (entry.target ++ back) = entry.code ++ scanOperands table back := by
  cases target : entry.target with
  | nil => exact absurd target present
  | cons byte more =>
      have start : entry.target <+: byte :: (more ++ back) := ⟨back, by rw [target, List.cons_append]⟩
      have found := find_operand_here table free entry member byte (more ++ back) start
      rw [List.cons_append, scanOperands, Bytes.sweep_edit _ byte _ _ found, target, List.length_cons,
        Nat.add_sub_cancel, List.drop_left]

theorem scan_perm (first second : List Operand) (perm : first.Perm second) (free : PrefixFree first) (row : Bytes) :
    scanOperands first row = scanOperands second row := by
  have same : findOperand first = findOperand second := by
    funext byte rest
    cases found : findOperand second byte rest with
    | none =>
        rw [find_operand_none] at found ⊢
        exact fun entry member => found entry (perm.mem_iff.mp member)
    | some edit =>
        obtain ⟨entry, member, start, rfl⟩ := find_operand_found second byte rest edit found
        exact find_operand_here first free entry (perm.mem_iff.mpr member) byte rest start
  rw [scanOperands, scanOperands, same]

-- Two scans make one. At a target of the one, the first scan leaves a word that the second one turns
-- into the code; where no such target starts, neither of the two finds anything.
theorem scan_fuse (first second both : List Operand) (present : ∀ entry ∈ both, entry.target ≠ [])
    (hit : ∀ entry ∈ both, ∃ word, ∀ back,
      scanOperands first (entry.target ++ back) = word ++ scanOperands first back ∧
        scanOperands second (word ++ back) = entry.code ++ scanOperands second back)
    (miss : ∀ text, (∀ entry ∈ both, ¬ entry.target <+: text) → (∀ entry ∈ first, ¬ entry.target <+: text) ∧
      ∀ entry ∈ second, ¬ entry.target <+: scanOperands first text) (row : Bytes) :
    scanOperands second (scanOperands first row) = scanOperands both row := by
  induction counted : row.length using Nat.strongRecOn generalizing row with
  | _ size ih =>
      cases row with
      | nil => rfl
      | cons byte rest =>
          cases found : findOperand both byte rest with
          | none =>
              obtain ⟨kept, left⟩ := miss (byte :: rest) ((find_operand_none both byte rest).mp found)
              have walked := Bytes.sweep_keep _ byte rest ((find_operand_none first byte rest).mpr kept)
              rw [← scanOperands] at walked
              rw [walked] at left ⊢
              rw [scanOperands, Bytes.sweep_keep _ byte _ ((find_operand_none second byte _).mpr left), ← scanOperands,
                ih rest.length (by rw [← counted]; simp) rest rfl]
              exact (Bytes.sweep_keep _ byte rest found).symm
          | some edit =>
              obtain ⟨entry, member, ⟨back, split⟩, rfl⟩ := find_operand_found both byte rest edit found
              obtain ⟨word, fused⟩ := hit entry member
              have some := List.length_pos_iff.mpr (present entry member)
              have shorter : back.length < size := by
                rw [← counted, ← split, List.length_append]
                omega
              have behind : rest.drop (entry.target.length - 1) = back := by
                rw [← List.drop_succ_cons (a := byte), Nat.sub_add_cancel some, ← split, List.drop_left]
              have written := Bytes.sweep_edit _ byte rest _ found
              rw [behind, ← scanOperands] at written
              rw [written, ← split, (fused back).1, (fused _).2, ih back.length shorter back rfl]

-- An entry applied after `first` finds its targets where they were before: no code of `first` is part
-- of one, and none of them is cut into.
def Spares (first second : Operand) : Prop :=
  Clear second.target first.code ∧ ∀ n < second.target.length, Apart first.target (second.target.drop n)

instance (first second : Operand) : Decidable (Spares first second) := inferInstanceAs (Decidable (_ ∧ _))

theorem scan_scan (first second : List Operand) (spares : ∀ one ∈ first, ∀ other ∈ second, Spares one other)
    (free : PrefixFree first ∧ PrefixFree second) (present : ∀ entry ∈ first ++ second, entry.target ≠ [])
    (row : Bytes) : scanOperands second (scanOperands first row) = scanOperands (first ++ second) row := by
  apply scan_fuse first second (first ++ second) present
  · intro entry member
    have some := present entry member
    rcases List.mem_append.mp member with early | late
    · refine ⟨entry.code, fun back => ⟨scan_target first free.1 entry early some back, ?_⟩⟩
      exact scan_keep second entry.code back fun other inside => (spares entry early other inside).1.2
    · refine ⟨entry.target, fun back => ⟨?_, scan_target second free.2 entry late some back⟩⟩
      exact scan_keep first entry.target back fun one inside => (spares one inside entry late).2
  · intro text absent
    rw [List.forall_mem_append] at absent
    refine ⟨absent.1, fun other late start => ?_⟩
    rcases start_through first other.target text start with before | ⟨n, inside, one, early, _, joined⟩
    · exact absent.2 other late before
    · exact joined ((spares one early other late).1.1 n inside)

theorem apply_scan (first table : List Operand) (spares : ∀ one ∈ first, ∀ other ∈ table, Spares one other)
    (order : table.Pairwise Spares) (free : PrefixFree (first ++ table))
    (present : ∀ entry ∈ first ++ table, entry.target ≠ []) (row : Bytes) :
    applyOperands table (scanOperands first row) = scanOperands (first ++ table) row := by
  induction table generalizing first with
  | nil =>
      rw [List.append_nil]
      rfl
  | cons entry rest ih =>
      obtain ⟨here, later⟩ := List.pairwise_cons.mp order
      have regrouped : first ++ entry :: rest = (first ++ [entry]) ++ rest := by simp
      rw [regrouped] at free present ⊢
      have joined : entry.apply (scanOperands first row) = scanOperands (first ++ [entry]) row := by
        rw [← scan_one]
        apply scan_scan first [entry]
        · intro one member
          simpa using spares one member entry List.mem_cons_self
        · exact ⟨(List.pairwise_append.mp (List.pairwise_append.mp free).1).1, List.pairwise_singleton _ _⟩
        · exact fun other member => present other (List.mem_append_left rest member)
      have spared : ∀ one ∈ first ++ [entry], ∀ other ∈ rest, Spares one other := by
        rw [List.forall_mem_append, List.forall_mem_singleton]
        exact ⟨fun one member other inside => spares one member other (List.mem_cons_of_mem entry inside), here⟩
      calc applyOperands (entry :: rest) (scanOperands first row)
          = applyOperands rest (scanOperands (first ++ [entry]) row) := congrArg (applyOperands rest) joined
        _ = scanOperands ((first ++ [entry]) ++ rest) row := ih (first ++ [entry]) spared later free present

def countRegister : Operand := operand "cl" "1A"

def unitCount : Operand := operand ", 1" ", L1"

def shiftCount : Operand := operand ", cl" ", L1A"

-- The code of `cl` completes the target of the next entry where a comma stands before it, and nowhere
-- else.
theorem shift_count_scan (row : Bytes) :
    unitCount.apply (countRegister.apply row) = scanOperands [shiftCount, countRegister, unitCount] row := by
  rw [← scan_one, ← scan_one]
  have register := scan_target [countRegister] (by decide) countRegister (by decide) (by decide)
  have unit := scan_target [unitCount] (by decide) unitCount (by decide) (by decide)
  apply scan_fuse _ _ _ (by decide)
  · simp only [List.forall_mem_cons]
    refine ⟨⟨ascii ", 1A", fun back => ⟨?_, ?_⟩⟩, ⟨ascii "1A", fun back => ⟨register back, ?_⟩⟩,
      ⟨ascii ", 1", fun back => ⟨?_, unit back⟩⟩, nofun⟩
    · calc scanOperands [countRegister] (shiftCount.target ++ back)
          = ascii ", " ++ scanOperands [countRegister] (countRegister.target ++ back) :=
            scan_keep _ (ascii ", ") (countRegister.target ++ back) (by decide)
        _ = ascii ", 1A" ++ scanOperands [countRegister] back := by rw [register]; rfl
    · calc scanOperands [unitCount] (ascii ", 1A" ++ back)
          = unitCount.code ++ scanOperands [unitCount] (ascii "A" ++ back) := unit (ascii "A" ++ back)
        _ = shiftCount.code ++ scanOperands [unitCount] back := by
          rw [scan_keep _ (ascii "A") back (by decide)]
          rfl
    · exact scan_keep _ (ascii "1A") back (by decide)
    · exact scan_keep _ (ascii ", 1") back (by decide)
  · intro text absent
    simp only [List.forall_mem_cons, List.not_mem_nil, false_imp_iff, implies_true, and_true] at absent ⊢
    refine ⟨absent.2.1, fun start => ?_⟩
    rcases start_through _ unitCount.target text start with before | ⟨n, inside, entry, member, here, joined⟩
    · exact absent.2.2 before
    · cases List.mem_singleton.mp member
      have last : ∀ n < unitCount.target.length, ¬ Apart (unitCount.target.drop n) countRegister.code → n = 2 := by
        decide
      cases last n inside joined
      exact absent.1 here

theorem apply_operands_append (first second : List Operand) (row : Bytes) :
    applyOperands (first ++ second) row = applyOperands second (applyOperands first row) := List.foldl_append

-- The table falls into three parts that are one scan each, and each part spares those behind it.
def registerOperands : List Operand := operands.take 4

def shiftOperands : List Operand := [shiftCount, countRegister, unitCount]

def sizedOperands : List Operand := operands.drop 6

theorem operand_parts : operands = registerOperands ++ [countRegister, unitCount] ++ sizedOperands := by decide

theorem register_scan (row : Bytes) : applyOperands registerOperands row = scanOperands registerOperands row := by
  have walked := apply_scan [] registerOperands nofun (by decide) (by decide) (by decide) row
  rwa [scan_none] at walked

theorem shift_scan (row : Bytes) :
    applyOperands [countRegister, unitCount] (scanOperands registerOperands row) =
      scanOperands (registerOperands ++ shiftOperands) row := by
  have free : PrefixFree registerOperands ∧ PrefixFree shiftOperands := by decide
  have joined := scan_scan registerOperands shiftOperands (by decide) free (by decide) row
  rw [← joined]
  exact shift_count_scan _

theorem operands_in_one_scan (row : Bytes) : replaceOperands row = scanOperands (shiftCount :: operands) row := by
  have perm : (registerOperands ++ shiftOperands ++ sizedOperands).Perm (shiftCount :: operands) := by decide
  have free : PrefixFree (registerOperands ++ shiftOperands ++ sizedOperands) := by decide
  calc replaceOperands row
      = applyOperands sizedOperands
          (applyOperands [countRegister, unitCount] (applyOperands registerOperands row)) := by
        rw [← apply_operands_append, ← apply_operands_append, ← List.append_assoc, ← operand_parts, replaceOperands]
    _ = applyOperands sizedOperands (scanOperands (registerOperands ++ shiftOperands) row) := by
        rw [register_scan, shift_scan]
    _ = scanOperands (registerOperands ++ shiftOperands ++ sizedOperands) row :=
        apply_scan _ sizedOperands (by decide +kernel) (by decide +kernel) free (by decide) row
    _ = scanOperands (shiftCount :: operands) row := scan_perm _ _ perm free row

end OpcodeTable.Rule
