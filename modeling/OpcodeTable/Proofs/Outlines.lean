import OpcodeTable.Proofs.Linewise
import OpcodeTable.Proofs.LowerForms
import OpcodeTable.Proofs.OpcodeToken

/-!
The outline of a text is its basic bytes, with one stand-in for all others. The rules behind the lower-
casing look at nothing else and lose no byte that is not basic, so they tell two texts of one outline
apart.
-/

set_option autoImplicit false

namespace OpcodeTable.Rule

open Bytes (Edit space comma sweep findLiteral)
open Utf8 (Glyph encode)

def shade (byte : UInt8) : UInt8 := if byte < 0x80 then byte else 0x80

def outline (text : Bytes) : Bytes := text.map shade

theorem shade_basic (byte basic : UInt8) (low : basic < 0x80) : shade byte = basic ↔ byte = basic := by
  unfold shade
  split
  · rfl
  · rename_i high
    constructor
    · rintro rfl
      exact absurd low (by decide)
    · rintro rfl
      exact absurd low high

theorem outline_basic (text basic : Bytes) (low : ∀ byte ∈ basic, byte < 0x80) (same : outline text = basic) :
    text = basic := by
  rw [← same, outline]
  refine (List.map_id' text).symm.trans (List.map_congr_left fun byte member => ?_)
  have here := low (shade byte) (same ▸ List.mem_map_of_mem member)
  exact (shade_basic byte (shade byte) here).mp rfl

theorem outline_plain (basic : Bytes) (low : ∀ byte ∈ basic, byte < 0x80) : outline basic = basic := by
  refine (List.map_congr_left fun byte member => ?_).trans (List.map_id' basic)
  exact (shade_basic byte byte (low byte member)).mpr rfl

theorem outline_append (front back : Bytes) : outline (front ++ back) = outline front ++ outline back :=
  List.map_append

theorem outline_length (text : Bytes) : (outline text).length = text.length := List.length_map _

-- A rule that keeps texts of one outline to one outline, and apart.
structure Faithful (rule : Bytes → Bytes) : Prop where
  outlines : ∀ text other, outline text = outline other → outline (rule text) = outline (rule other)
  texts : ∀ text other, outline text = outline other → rule text = rule other → text = other

theorem fold_faithful {ι : Type} (apply : ι → Bytes → Bytes) (rules : List ι)
    (faithful : ∀ rule ∈ rules, Faithful (apply rule)) :
    Faithful fun row => rules.foldl (fun text rule => apply rule text) row := by
  induction rules with
  | nil => exact ⟨fun _ _ same => same, fun _ _ _ same => same⟩
  | cons rule rest ih =>
      obtain ⟨here, later⟩ := List.forall_mem_cons.mp faithful
      refine ⟨fun text other same => ?_, fun text other same out => ?_⟩
      · exact (ih later).outlines _ _ (here.outlines text other same)
      · exact here.texts text other same ((ih later).texts _ _ (here.outlines text other same) out)

structure Outlined (find : UInt8 → Bytes → Option Edit) : Prop where
  agrees : ∀ byte rest, find (shade byte) (outline rest) =
    (find byte rest).map fun edit => ⟨outline edit.code, edit.more⟩
  taken : ∀ byte rest other more edit again, outline (byte :: rest) = outline (other :: more) →
    find byte rest = some edit → find other more = some again → edit.code = again.code →
    (byte :: rest).take (edit.more + 1) = (other :: more).take (again.more + 1)

theorem sweep_faithful (find : UInt8 → Bytes → Option Edit) (outlined : Outlined find) : Faithful (sweep find) := by
  have both (text other : Bytes) (same : outline text = outline other) :
      outline (sweep find text) = outline (sweep find other) ∧ (sweep find text = sweep find other → text = other) := by
    induction counted : text.length using Nat.strongRecOn generalizing text other with
    | _ size ih =>
        cases text with
        | nil =>
            cases other with
            | nil => exact ⟨rfl, fun _ => rfl⟩
            | cons _ _ => cases same
        | cons byte rest =>
            cases other with
            | nil => cases same
            | cons next more =>
                have pair := List.cons.inj same
                have found : (find byte rest).map (fun edit => (⟨outline edit.code, edit.more⟩ : Edit)) =
                    (find next more).map fun edit => ⟨outline edit.code, edit.more⟩ := by
                  rw [← outlined.agrees, ← outlined.agrees, pair.1, outline, pair.2]
                  rfl
                have shorter (skipped : Nat) : (rest.drop skipped).length < size := by
                  rw [← counted, List.length_drop, List.length_cons]
                  omega
                have later (skipped : Nat) := ih _ (shorter skipped) (rest.drop skipped) (more.drop skipped)
                  (by rw [outline, outline, List.map_drop, List.map_drop, pair.2]) rfl
                cases here : find byte rest with
                | none =>
                    rw [here, Option.map_none, eq_comm, Option.map_eq_none_iff] at found
                    rw [Bytes.sweep_keep find byte rest here, Bytes.sweep_keep find next more found]
                    refine ⟨congrArg₂ List.cons pair.1 (later 0).1, fun out => ?_⟩
                    have tails : rest = more := (later 0).2 (List.cons.inj out).2
                    rw [(List.cons.inj out).1, tails]
                | some edit =>
                    rw [here, Option.map_some, eq_comm, Option.map_eq_some_iff] at found
                    obtain ⟨again, there, agree⟩ := found
                    rw [Edit.mk.injEq] at agree
                    have code : edit.code.length = again.code.length := by
                      rw [← outline_length, ← agree.1, outline_length]
                    rw [Bytes.sweep_edit find byte rest edit here, Bytes.sweep_edit find next more again there, agree.2]
                    refine ⟨?_, fun out => ?_⟩
                    · rw [outline_append, outline_append, agree.1, (later edit.more).1]
                    · obtain ⟨codes, tails⟩ := List.append_inj out code
                      have taken := outlined.taken byte rest next more edit again same here there codes
                      have left : (byte :: rest).drop (edit.more + 1) = (next :: more).drop (again.more + 1) := by
                        rw [agree.2]
                        exact (later edit.more).2 tails
                      rw [← List.take_append_drop (edit.more + 1) (byte :: rest), taken, left, List.take_append_drop]
  exact ⟨fun text other same => (both text other same).1, fun text other same => (both text other same).2⟩

theorem prefix_outline (target text : Bytes) (low : ∀ byte ∈ target, byte < 0x80) :
    target.isPrefixOf (outline text) = target.isPrefixOf text := by
  induction target generalizing text with
  | nil => cases text <;> rfl
  | cons byte more ih =>
      cases text with
      | nil => rfl
      | cons first rest =>
          obtain ⟨here, later⟩ := List.forall_mem_cons.mp low
          have head : (byte == shade first) = (byte == first) := by
            rw [Bool.eq_iff_iff, beq_iff_eq, beq_iff_eq, eq_comm, shade_basic first byte here, eq_comm]
          rw [outline, List.map_cons, ← outline, List.isPrefixOf, List.isPrefixOf, ih rest later, head]

theorem literal_outlined (target code : Bytes) (present : target ≠ [])
    (low : (∀ byte ∈ target, byte < 0x80) ∧ ∀ byte ∈ code, byte < 0x80) : Outlined (findLiteral target code) := by
  have taken (byte : UInt8) (rest : Bytes) (edit : Edit) (found : findLiteral target code byte rest = some edit) :
      (byte :: rest).take (edit.more + 1) = target := by
    simp only [findLiteral, Option.ite_none_right_eq_some] at found
    rw [← Option.some.inj found.2, Nat.sub_add_cancel (List.length_pos_iff.mpr present)]
    exact (List.prefix_iff_eq_take.mp (List.isPrefixOf_iff_prefix.mp found.1)).symm
  refine ⟨fun byte rest => ?_, ?_⟩
  · have same := prefix_outline target (byte :: rest) low.1
    rw [outline, List.map_cons, ← outline] at same
    rw [findLiteral, findLiteral, same]
    split
    · rw [Option.map_some, outline_plain code low.2]
    · rfl
  · intro byte rest other more edit again _ here there _
    rw [taken byte rest edit here, taken other more again there]

theorem token_basic (byte : UInt8) (token : isTokenByte byte = true) : byte < 0x80 := by
  revert token
  apply Bytes.every_byte _ byte
  decide +kernel

theorem shade_token : isTokenByte ∘ shade = isTokenByte := by
  funext byte
  rw [Function.comp_apply, shade]
  split
  · rfl
  · rename_i high
    have other : isTokenByte byte = false := by
      rw [← Bool.not_eq_true]
      exact fun token => high (token_basic byte token)
    rw [other]
    rfl

theorem shade_not_newline : isNotNewline ∘ shade = isNotNewline := by
  funext byte
  rw [Function.comp_apply, isNotNewline, isNotNewline, Bool.eq_iff_iff, bne_iff_ne, bne_iff_ne, Ne, Ne,
    shade_basic byte Bytes.newline (by decide)]

theorem take_outline (keep : UInt8 → Bool) (blind : keep ∘ shade = keep) (text : Bytes) :
    (outline text).takeWhile keep = outline (text.takeWhile keep) := by
  rw [outline, List.takeWhile_map, blind, outline]

theorem drop_outline (keep : UInt8 → Bool) (blind : keep ∘ shade = keep) (text : Bytes) :
    (outline text).dropWhile keep = outline (text.dropWhile keep) := by
  rw [outline, List.dropWhile_map, blind, outline]

theorem split_token_outline (text : Bytes) :
    splitToken (outline text) = (outline (splitToken text).1, outline (splitToken text).2) := by
  cases text with
  | nil => rfl
  | cons byte rest =>
      have mark : (shade byte == wideMark) = (byte == wideMark) := by
        rw [Bool.eq_iff_iff, beq_iff_eq, beq_iff_eq, shade_basic byte wideMark (by decide)]
      have run := take_outline isTokenByte shade_token
      have after := drop_outline isTokenByte shade_token
      have whole : outline (byte :: rest) = shade byte :: outline rest := rfl
      have longer := And.intro (run (byte :: rest)) (after (byte :: rest))
      rw [whole] at longer
      simp only [whole, splitToken, mark, run rest, after rest, longer.1, longer.2]
      split
      · cases rest.takeWhile isTokenByte with
        | nil => rfl
        | cons _ _ => rfl
      · rfl

theorem split_token_basic (text : Bytes) : ∀ byte ∈ (splitToken text).1, byte < 0x80 := by
  have run (rest : Bytes) : ∀ byte ∈ rest.takeWhile isTokenByte, byte < 0x80 :=
    fun byte member => token_basic byte (List.all_eq_true.mp List.all_takeWhile byte member)
  cases text with
  | nil => exact List.forall_mem_nil _
  | cons first rest =>
      rw [splitToken]
      split
      · rename_i mark
        have all := run rest
        cases taken : rest.takeWhile isTokenByte with
        | nil => exact List.forall_mem_nil _
        | cons next more =>
            rw [taken] at all
            exact List.forall_mem_cons.mpr ⟨by rw [beq_iff_eq.mp mark]; decide, all⟩
      · exact run (first :: rest)

theorem column_outline (text : Bytes) : startsColumn (outline text) = startsColumn text := by
  match text with
  | [] | [_] => rfl
  | gap :: next :: _ =>
      have blank : (shade gap == space) = (gap == space) := by
        rw [Bool.eq_iff_iff, beq_iff_eq, beq_iff_eq, shade_basic gap space (by decide)]
      have line : isNotNewline (shade next) = isNotNewline next := congrFun shade_not_newline next
      simp only [outline, List.map_cons, startsColumn, blank, line]

theorem token_found (byte : UInt8) (rest : Bytes) (edit : Edit) (found : findToken byte rest = some edit) :
    let token := (splitToken (byte :: rest)).1
    if startsColumn (splitToken (byte :: rest)).2 then
      ∃ column, edit.code = column ++ token ∧ (byte :: rest).take (edit.more + 1) = token ++ space :: column
    else edit.code = token ∧ (byte :: rest).take (edit.more + 1) = token := by
  have parts := split_token_parts (byte :: rest)
  rw [findToken] at found
  rcases split : splitToken (byte :: rest) with ⟨token, after⟩
  simp only [split] at found parts ⊢
  cases token with
  | nil => cases found
  | cons first more =>
      simp only at found
      by_cases column : startsColumn after = true
      · rw [if_pos column] at found ⊢
        obtain ⟨others, _, rfl⟩ := column_behind after column
        rw [List.drop_succ_cons, List.drop_zero] at found
        cases found
        refine ⟨_, rfl, ?_⟩
        rw [← parts, Nat.add_assoc, List.take_length_add_append, List.take_succ_cons,
          ← List.prefix_iff_eq_take.mp (List.takeWhile_prefix isNotNewline)]
      · rw [if_neg column] at found ⊢
        cases found
        refine ⟨rfl, ?_⟩
        have kept : (first :: more ++ after).take (first :: more).length = first :: more := List.take_left
        rw [← parts]
        exact kept

theorem token_outlined : Outlined findToken := by
  constructor
  · intro byte rest
    have split := split_token_outline (byte :: rest)
    rw [outline, List.map_cons, ← outline] at split
    simp only [findToken, split]
    rcases splitToken (byte :: rest) with ⟨token, after⟩
    cases token with
    | nil => rfl
    | cons first more =>
        have filled : outline (first :: more) = shade first :: outline more := rfl
        have dropped : (outline after).drop 1 = outline (after.drop 1) := List.map_drop.symm
        simp only [filled, column_outline, dropped, take_outline isNotNewline shade_not_newline]
        split
        · simp [outline]
        · simp [outline]
  · intro byte rest other more edit again same here there code
    have split := split_token_outline (byte :: rest)
    rw [same, split_token_outline, Prod.mk.injEq] at split
    have tokens : (splitToken (other :: more)).1 = (splitToken (byte :: rest)).1 := by
      apply outline_basic _ _ (split_token_basic (byte :: rest))
      rw [split.1, outline_plain _ (split_token_basic (byte :: rest))]
    have columns : startsColumn (splitToken (other :: more)).2 = startsColumn (splitToken (byte :: rest)).2 := by
      rw [← column_outline, split.2, column_outline]
    have first := token_found byte rest edit here
    have second := token_found other more again there
    simp only [tokens, columns] at first second
    split at first
    · rename_i column
      rw [if_pos column] at second
      obtain ⟨moved, written, taken⟩ := first
      obtain ⟨others, rewritten, retaken⟩ := second
      rw [written, rewritten, List.append_left_inj] at code
      rw [taken, retaken, code]
    · rename_i alone
      rw [if_neg alone] at second
      rw [first.2, second.2]

theorem replace_operands_faithful : Faithful replaceOperands := by
  have suitable : ∀ entry ∈ operands, entry.target ≠ [] ∧
      entry.target.all (· < 0x80) = true ∧ entry.code.all (· < 0x80) = true := by
    decide
  apply fold_faithful Operand.apply operands
  intro entry member
  obtain ⟨present, low⟩ := suitable entry member
  exact sweep_faithful _ (literal_outlined entry.target entry.code present (by simpa using low))

theorem reorder_faithful : Faithful reorder := sweep_faithful findToken token_outlined

theorem commas_faithful : Faithful (Bytes.replaceAll [comma] []) :=
  sweep_faithful _ (literal_outlined [comma] [] (by decide) ⟨List.forall_mem_singleton.mpr (by decide), nofun⟩)

theorem late_rules_faithful : ∀ step ∈ chain.drop 7, Faithful step.apply := by
  simp only [chain, List.drop_succ_cons, List.drop_zero, List.forall_mem_cons]
  exact ⟨replace_operands_faithful, commas_faithful, reorder_faithful, List.forall_mem_nil _⟩

-- The two forms of a sigma have one outline.
theorem Lowers.outlines {text out other : List Glyph} (lowers : Lowers text out) (again : Lowers text other) :
    outline (encode out) = outline (encode other) := by
  induction lowers generalizing other with
  | nil =>
      cases again
      rfl
  | @cons glyph form rest out own _ ih =>
      cases again with
      | @cons _ same _ later own' again =>
          have forms : outline (encode form) = outline (encode same) := by
            unfold Rule.forms at own own'
            split at own
            · rename_i sigma
              rw [if_pos sigma] at own'
              simp only [List.mem_cons, List.not_mem_nil, or_false] at own own'
              rcases own with rfl | rfl <;> rcases own' with rfl | rfl <;> decide
            · rename_i other
              rw [if_neg other] at own'
              rw [List.mem_singleton.mp own, List.mem_singleton.mp own']
          rw [Utf8.encode_append, Utf8.encode_append, outline_append, outline_append, forms, ih again]

theorem IsLowered.outlines {text out other : Bytes} (lowers : IsLowered text out) (again : IsLowered text other) :
    outline out = outline other := by
  obtain ⟨letters, lowers, rfl⟩ := lowers
  obtain ⟨others, again, rfl⟩ := again
  exact lowers.outlines again

theorem late_rules_apart {text out other : Bytes} (lowers : IsLowered text out) (again : IsLowered text other) :
    afterCasing out = afterCasing other ↔ out = other :=
  ⟨(fold_faithful Step.apply _ late_rules_faithful).texts out other (lowers.outlines again), congrArg _⟩

end OpcodeTable.Rule
