import OpcodeTable.Proofs.FullLowercase
import OpcodeTable.Proofs.OperandSaturation
import OpcodeTable.Proofs.Outlines

set_option autoImplicit false

namespace OpcodeTable.Rule

open Bytes (newline)
open Utf8 (Glyph)

def fullNormalize (row : Bytes) : Bytes := afterCasing (fullLowercase (beforeCasing row))

def SplitsAt (rule : Bytes → Bytes) (first rest : Bytes) : Prop :=
  rule (first ++ newline :: rest) = rule first ++ newline :: rule rest

theorem before_casing_linewise : Linewise beforeCasing := fold_linewise Step.apply _ early_rules_linewise

theorem after_casing_linewise : Linewise afterCasing := fold_linewise Step.apply _ late_rules_linewise

theorem full_normalize_linewise : Linewise fullNormalize := by
  intro first rest
  rw [fullNormalize, before_casing_linewise, full_lowercase_linewise, after_casing_linewise]
  rfl

theorem newline_lowers {first rest out later : List Glyph} (before : Lowers first out) (behind : Lowers rest later) :
    Lowers (first ++ .scalar newline.toNat :: rest) (out ++ .scalar newline.toNat :: later) := by
  have own : [.scalar newline.toNat] ∈ forms (.scalar newline.toNat) := uncased_form _ newline_neutral.1
  exact before.append (.cons own behind)

theorem IsLowered.join {first rest out later : Bytes} (before : IsLowered first out) (behind : IsLowered rest later) :
    IsLowered (first ++ newline :: rest) (out ++ newline :: later) := by
  obtain ⟨letters, lowers, rfl⟩ := before
  obtain ⟨others, again, rfl⟩ := behind
  refine ⟨letters ++ .scalar newline.toNat :: others, ?_, ?_⟩
  · rw [glyphs_at_newline]
    exact newline_lowers lowers again
  · rw [Utf8.encode_append]
    rfl

theorem normalize_splits_iff (first rest : Bytes) :
    SplitsAt normalize first rest ↔ SplitsAt lowercase (beforeCasing first) (beforeCasing rest) := by
  have joined := (lowercase_lowered (beforeCasing first)).join (lowercase_lowered (beforeCasing rest))
  have whole := lowercase_lowered (beforeCasing first ++ newline :: beforeCasing rest)
  rw [SplitsAt, SplitsAt, normalize_cased, normalize_cased, normalize_cased, before_casing_linewise,
    ← after_casing_linewise, late_rules_apart whole joined]

theorem lines_lowered (lines : List Bytes) (present : lines ≠ []) :
    IsLowered ([newline].intercalate lines) ([newline].intercalate (lines.map lowercase)) := by
  induction lines with
  | nil => exact absurd rfl present
  | cons line more ih =>
      cases more with
      | nil => simpa using lowercase_lowered line
      | cons next others =>
          rw [List.map_cons, List.map_cons, List.intercalate_cons_cons, List.intercalate_cons_cons, ← List.map_cons,
            List.append_assoc, List.singleton_append, List.append_assoc, List.singleton_append]
          exact (lowercase_lowered line).join (ih (by simp))

theorem normalize_lines_iff (row : Bytes) :
    normalize row = [newline].intercalate ((row.splitOn newline).map normalize) ↔
      lowercase (beforeCasing row) =
        [newline].intercalate ((row.splitOn newline).map fun line => lowercase (beforeCasing line)) := by
  have lines : (row.splitOn newline).map normalize =
      ((row.splitOn newline).map fun line => lowercase (beforeCasing line)).map afterCasing := by
    simp only [List.map_map, Function.comp_def, ← normalize_cased]
  have before : beforeCasing row = [newline].intercalate ((row.splitOn newline).map beforeCasing) :=
    split_linewise beforeCasing before_casing_linewise row
  have whole := lowercase_lowered (beforeCasing row)
  have joined : IsLowered (beforeCasing row)
      ([newline].intercalate ((row.splitOn newline).map fun line => lowercase (beforeCasing line))) := by
    have lowered := lines_lowered ((row.splitOn newline).map beforeCasing) (by simp)
    rw [List.map_map] at lowered
    rw [before]
    exact lowered
  rw [lines, ← join_linewise afterCasing after_casing_linewise _ (by simp), normalize_cased,
    late_rules_apart whole joined]

theorem undivided_at_newline (first rest : Bytes) (undivided : Undivided (first ++ newline :: rest)) :
    Undivided first ∧ Undivided rest := by
  rcases undivided with settled | ⟨short, fits⟩
  · rw [glyphs_at_newline, List.mem_append, List.mem_cons, not_or, not_or] at settled
    exact ⟨Or.inl settled.1, Or.inl settled.2.2⟩
  · rw [full_lowercase_linewise] at fits
    simp only [List.length_append, List.length_cons] at short fits
    exact ⟨Or.inr ⟨by omega, by omega⟩, Or.inr ⟨by omega, by omega⟩⟩

theorem lowercase_splits (first rest : Bytes) (undivided : Undivided (first ++ newline :: rest)) :
    SplitsAt lowercase first rest := by
  obtain ⟨before, behind⟩ := undivided_at_newline first rest undivided
  rw [SplitsAt, lowercase_undivided _ undivided, lowercase_undivided first before, lowercase_undivided rest behind]
  exact full_lowercase_linewise first rest

theorem normalize_undivided (row : Bytes) (undivided : Undivided (beforeCasing row)) :
    normalize row = fullNormalize row := by
  rw [normalize_cased, lowercase_undivided _ undivided, fullNormalize]

theorem normalize_splits (first rest : Bytes) (undivided : Undivided (beforeCasing (first ++ newline :: rest))) :
    SplitsAt normalize first rest := by
  rw [before_casing_linewise] at undivided
  exact (normalize_splits_iff first rest).mpr (lowercase_splits _ _ undivided)

theorem undivided_lines (lines : List Bytes) (present : lines ≠ [])
    (undivided : Undivided ([newline].intercalate lines)) : ∀ line ∈ lines, Undivided line := by
  induction lines with
  | nil => exact absurd rfl present
  | cons line more ih =>
      cases more with
      | nil => simpa using undivided
      | cons next others =>
          rw [List.intercalate_cons_cons, List.append_assoc, List.singleton_append] at undivided
          obtain ⟨here, later⟩ := undivided_at_newline _ _ undivided
          exact List.forall_mem_cons.mpr ⟨here, ih (by simp) later⟩

theorem normalize_lines (row : Bytes) (undivided : Undivided (beforeCasing row)) :
    normalize row = [newline].intercalate ((row.splitOn newline).map normalize) := by
  have lines : ∀ line ∈ row.splitOn newline, normalize line = fullNormalize line := by
    intro line member
    rw [split_linewise beforeCasing before_casing_linewise row] at undivided
    exact normalize_undivided line (undivided_lines _ (by simp) undivided _ (List.mem_map_of_mem member))
  rw [normalize_undivided row undivided, List.map_congr_left lines]
  exact split_linewise fullNormalize full_normalize_linewise row

-- The two sides of a newline are normalized apart, and each text line of a row, just when the portions
-- of the whole and of the parts come to the same sigmas.
theorem normalize_linewise_iff (row first rest : Bytes) :
    (SplitsAt normalize first rest ↔ SplitsAt lowercase (beforeCasing first) (beforeCasing rest)) ∧
      (normalize row = [newline].intercalate ((row.splitOn newline).map normalize) ↔
        lowercase (beforeCasing row) =
          [newline].intercalate ((row.splitOn newline).map fun line => lowercase (beforeCasing line))) ∧
      (Undivided (beforeCasing (first ++ newline :: rest)) → SplitsAt normalize first rest) ∧
      (Undivided (beforeCasing row) → normalize row = fullNormalize row ∧
        normalize row = [newline].intercalate ((row.splitOn newline).map normalize)) ∧
      Linewise fullNormalize ∧ fullNormalize row = [newline].intercalate ((row.splitOn newline).map fullNormalize) :=
  ⟨normalize_splits_iff first rest, normalize_lines_iff row, normalize_splits first rest,
    fun undivided => ⟨normalize_undivided row undivided, normalize_lines row undivided⟩, full_normalize_linewise,
    split_linewise fullNormalize full_normalize_linewise row⟩

-- A capital sigma at the end of a text line takes its final form although a letter follows the newline.
theorem sigma_line_splits :
    let first := ascii "90 A" ++ [0xCE, 0xA3]
    let rest := ascii "0F NOP"
    Undivided (beforeCasing (first ++ newline :: rest)) ∧
      normalize (first ++ newline :: rest) = normalize first ++ newline :: normalize rest ∧
      normalize first = [0x61, 0xCF, 0x82, 0x39, 0x30] ∧ normalize rest = ascii "nop0f" := by
  intro first rest
  have undivided : Undivided (beforeCasing (first ++ newline :: rest)) := Or.inr (by decide)
  exact ⟨undivided, (normalize_linewise_iff [] first rest).2.2.1 undivided, by decide, by decide⟩

theorem sigma_row_joined : beforeCasing sigmaRow = sigmaRow := by decide +kernel

def sigmaForms : List Bytes := [[0xCF, 0x82], [0xCF, 0x83]]

theorem lowered_row_bytes (sigma : Bytes) (either : sigma ∈ sigmaForms) :
    loweredRow sigma ⊆ [0x61, 0x62, Bytes.space, 0xCF, 0x82, 0x83] := by
  have small : ∀ form ∈ sigmaForms, form ++ ascii " b" ⊆ [0x61, 0x62, Bytes.space, 0xCF, 0x82, 0x83] := by decide
  intro byte member
  rw [loweredRow, List.append_assoc] at member
  rcases List.mem_append.mp member with letter | other
  · rw [List.eq_of_mem_replicate letter]
    decide
  · exact small sigma either other

theorem lowered_row_operands (sigma : Bytes) (either : sigma ∈ sigmaForms) :
    replaceOperands (loweredRow sigma) = loweredRow sigma :=
  replace_operands_lacking _ _ (lowered_row_bytes sigma either) (by decide)

theorem lowered_row_commas (sigma : Bytes) (either : sigma ∈ sigmaForms) :
    Bytes.replaceAll [Bytes.comma] [] (loweredRow sigma) = loweredRow sigma := by
  apply replace_absent
  intro found
  have comma := lowered_row_bytes sigma either (found.subset List.mem_cons_self)
  revert comma
  decide

theorem lowered_row_reordered : ∀ sigma ∈ sigmaForms, reorder (loweredRow sigma) = loweredRow sigma := by
  decide +kernel

theorem lowered_row_settled (sigma : Bytes) (either : sigma ∈ sigmaForms) :
    afterCasing (loweredRow sigma) = loweredRow sigma := by
  rw [after_casing_rules, lowered_row_operands sigma either, lowered_row_commas sigma either,
    lowered_row_reordered sigma either]

-- The newline moves the sigma to the end of a portion.
theorem sigma_row_joins :
    normalize sigmaRow = List.replicate 125 0x61 ++ [0xCF, 0x82] ++ ascii " b" ∧
      normalize ([] ++ newline :: sigmaRow) = newline :: List.replicate 125 0x61 ++ [0xCF, 0x83] ++ ascii " b" ∧
      normalize ([] ++ newline :: sigmaRow) ≠ normalize [] ++ newline :: normalize sigmaRow := by
  obtain ⟨lowered, shifted⟩ := sigma_row_lowered
  have alone : normalize sigmaRow = loweredRow [0xCF, 0x82] := by
    rw [normalize_cased, sigma_row_joined, lowered, lowered_row_settled _ (by decide)]
  have behind : normalize ([] ++ newline :: sigmaRow) = newline :: loweredRow [0xCF, 0x83] := by
    calc normalize ([] ++ newline :: sigmaRow)
        = afterCasing (lowercase (newline :: sigmaRow)) := by
          rw [normalize_cased, before_casing_linewise, sigma_row_joined]
          rfl
      _ = newline :: afterCasing (loweredRow [0xCF, 0x83]) := by
          rw [shifted newline List.mem_cons_self]
          exact after_casing_linewise [] _
      _ = newline :: loweredRow [0xCF, 0x83] := by rw [lowered_row_settled _ (by decide)]
  refine ⟨alone, behind, ?_⟩
  rw [alone, behind]
  decide

end OpcodeTable.Rule
