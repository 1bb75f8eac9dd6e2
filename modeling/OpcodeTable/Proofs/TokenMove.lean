import OpcodeTable.Proofs.ColumnRuns

set_option autoImplicit false

namespace OpcodeTable.Rule

open Bytes (newline space)
open Utf8 (Glyph encode glyphs Settled basic onLine)
open Pattern (Piece Run parts replaceAll)

-- The letter of the mark when there is one, a run of token bytes, a gap, and the rest of the line.
def leadingToken : List (Piece Glyph) :=
  ⟨basic (· == wideMark), .atMostOnce⟩ :: ⟨basic isTokenByte, .atLeastOnce⟩ :: columnPieces

-- The column first, and then the token.
def tokenLast : List (List Glyph) → List Glyph
  | [mark, run, _, column] => column ++ (mark ++ run)
  | taken => taken.flatten

def opensToken : Bytes → Bool
  | [] => false
  | byte :: rest => opensColumn isTokenByte (byte :: rest) || byte == wideMark && opensColumn isTokenByte rest

theorem mark_no_token : isTokenByte wideMark = false := rfl

theorem run_token (mark run after : Bytes) (marked : mark = [] ∨ mark = [wideMark]) (whole : Run isTokenByte run after) :
    Token mark run after := ⟨marked, whole.present, whole.accepted, whole.stop⟩

theorem token_elsewhere (byte : UInt8) (rest : Bytes) (other : isTokenByte byte = false)
    (unmarked : byte = wideMark → ∀ next ∈ rest.head?, isTokenByte next = false) : findToken byte rest = none := by
  have none : (splitToken (byte :: rest)).1 = [] := by
    by_cases mark : byte = wideMark
    · have idle : rest.takeWhile isTokenByte = [] := by
        cases rest with
        | nil => rfl
        | cons next more => exact List.takeWhile_cons_of_neg (by simp [unmarked mark next rfl])
      simp [splitToken, mark, idle]
    · simp [splitToken, mark, other]
  rw [findToken]
  rcases split : splitToken (byte :: rest) with ⟨token, after⟩
  rw [split] at none
  simp only at none
  rw [none]

theorem reorder_stays (mark run after : Bytes) (marked : mark = [] ∨ mark = [wideMark])
    (alone : startsColumn after = false) (whole : Run isTokenByte run after) :
    reorder (mark ++ run ++ after) = mark ++ run ++ reorder after := by
  rw [reorder_token mark run after (run_token mark run after marked whole), if_neg (by simp [alone])]

theorem reorder_keep (byte : UInt8) (rest : Bytes) (closed : opensToken (byte :: rest) = false) :
    reorder (byte :: rest) = byte :: reorder rest := by
  obtain ⟨here, marked⟩ := Bool.or_eq_false_iff.mp closed
  cases starts : isTokenByte byte with
  | true =>
      obtain ⟨run, after, split, whole⟩ := Pattern.run_at isTokenByte byte rest starts
      have alone : startsColumn after = false := by rwa [← opens_column_run _ run after whole, ← split]
      obtain ⟨first, more, rfl⟩ := List.exists_cons_of_ne_nil whole.present
      rw [List.cons_append, List.cons.injEq] at split
      obtain ⟨rfl, rfl⟩ := split
      apply kept_in_run reorder isTokenByte byte more after whole
      exact fun run letters => reorder_stays [] run after (Or.inl rfl) alone letters
  | false =>
      by_cases token : byte = wideMark ∧ ∃ next ∈ rest.head?, isTokenByte next = true
      · obtain ⟨rfl, next, first, letter⟩ := token
        obtain ⟨others, rfl⟩ := List.head?_eq_some_iff.mp first
        obtain ⟨run, after, split, whole⟩ := Pattern.run_at isTokenByte next others letter
        have alone : startsColumn after = false := by
          rwa [← opens_column_run _ run after whole, ← split]
        rw [split]
        have wide := reorder_stays [wideMark] run after (Or.inr rfl) alone whole
        have plain := reorder_stays [] run after (Or.inl rfl) alone whole
        rw [List.nil_append] at plain
        rw [plain]
        exact wide
      · apply Bytes.sweep_keep
        apply token_elsewhere byte rest starts
        intro mark next first
        rw [← Bool.not_eq_true]
        exact fun letter => token ⟨mark, next, first, letter⟩

def Marks (front mark : Bytes) : Prop := mark = [wideMark] ∨ mark = [] ∧ front.getLast? ≠ some wideMark

def TokenMoved (segment result : Bytes) : Prop :=
  (∃ front mark run rest, FirstColumnRun isTokenByte segment (front ++ mark) run rest ∧ Marks front mark ∧
      result = front ++ rest ++ (mark ++ run)) ∨
    NoColumnRun isTokenByte segment ∧ result = segment

theorem token_moved_cons (byte : UInt8) (rest result : Bytes) (unbroken : newline ∉ byte :: rest)
    (closed : opensToken (byte :: rest) = false) (moved : TokenMoved rest result) :
    TokenMoved (byte :: rest) (byte :: result) := by
  obtain ⟨here, marked⟩ := Bool.or_eq_false_iff.mp closed
  have smooth : newline ∉ rest := fun member => unbroken (List.mem_cons_of_mem byte member)
  rcases moved with ⟨front, mark, run, column, first, marks, rfl⟩ | ⟨none, same⟩
  · refine Or.inl ⟨byte :: front, mark, run, column, ?_, ?_, rfl⟩
    · exact first_column_run_cons rfl byte rest (front ++ mark) run column unbroken here first
    · rcases marks with wide | ⟨rfl, other⟩
      · exact Or.inl wide
      · refine Or.inr ⟨rfl, ?_⟩
        cases front with
        | cons _ _ => rwa [List.getLast?_cons_cons]
        | nil =>
            have opens := column_run_opens rfl rest run column smooth first.toColumnRun
            rw [opens, Bool.and_true] at marked
            simpa using marked
  · exact Or.inr ⟨no_column_run_cons rfl byte rest unbroken here none, by rw [same]⟩

theorem token_moved_here (mark : Bytes) (byte : UInt8) (text : Bytes) (marked : mark = [] ∨ mark = [wideMark])
    (unbroken : newline ∉ text) (opens : opensColumn isTokenByte (byte :: text) = true)
    (first : ∀ run rest, FirstColumnRun isTokenByte (byte :: text) [] run rest →
      FirstColumnRun isTokenByte (mark ++ byte :: text) mark run rest) :
    TokenMoved (mark ++ byte :: text) (reorder (mark ++ byte :: text)) := by
  obtain ⟨rest, behind, run⟩ := first_column_run_here isTokenByte byte text opens
  have smooth : newline ∉ rest := by
    intro member
    have inside := (List.dropWhile_suffix isTokenByte (l := text)).subset
    exact unbroken (inside (by rw [behind]; exact List.mem_cons_of_mem space member))
  have token : Token mark (byte :: text.takeWhile isTokenByte) (space :: rest) := by
    refine ⟨marked, run.present, run.letters, ?_⟩
    rintro next ⟨⟩
    rfl
  have split : mark ++ byte :: text = mark ++ (byte :: text.takeWhile isTokenByte) ++ space :: rest := by
    rw [← behind, List.append_assoc, List.cons_append, List.takeWhile_append_dropWhile]
  refine Or.inl ⟨[], mark, _, rest, first _ rest run, ?_, ?_⟩
  · rcases marked with rfl | rfl
    · exact Or.inr ⟨rfl, nofun⟩
    · exact Or.inl rfl
  · rw [split, reorder_moves mark _ rest token run.more smooth]
    rfl

theorem token_moved (segment : Bytes) (unbroken : newline ∉ segment) : TokenMoved segment (reorder segment) := by
  induction segment with
  | nil => exact Or.inr ⟨no_column_run_nil isTokenByte, rfl⟩
  | cons byte rest ih =>
      have smooth : newline ∉ rest := fun member => unbroken (List.mem_cons_of_mem byte member)
      cases opens : opensColumn isTokenByte (byte :: rest) with
      | true => exact token_moved_here [] byte rest (Or.inl rfl) smooth opens fun _ _ first => first
      | false =>
          cases wide : byte == wideMark && opensColumn isTokenByte rest with
          | true =>
              obtain ⟨mark, behind⟩ := Bool.and_eq_true_iff.mp wide
              obtain rfl : byte = wideMark := beq_iff_eq.mp mark
              cases rest with
              | nil => cases behind
              | cons next others =>
                  have later : newline ∉ others := fun member => smooth (List.mem_cons_of_mem next member)
                  apply token_moved_here [wideMark] next others (Or.inr rfl) later behind
                  exact fun run column first =>
                    first_column_run_cons rfl wideMark (next :: others) [] run column unbroken opens first
          | false =>
              have closed : opensToken (byte :: rest) = false := by rw [opensToken, opens, wide]; rfl
              rw [reorder_keep byte rest closed]
              exact token_moved_cons byte rest _ unbroken closed (ih smooth)

theorem TokenMoved.perm {segment result : Bytes} (moved : TokenMoved segment result) :
    result = segment ∨ (space :: result).Perm segment := by
  rcases moved with ⟨front, mark, run, rest, first, _, rfl⟩ | ⟨_, same⟩
  · refine Or.inr ?_
    rw [first.split]
    have swapped : (front ++ rest ++ (mark ++ run)).Perm (front ++ mark ++ run ++ rest) := by
      rw [List.append_assoc, List.append_assoc front mark, List.append_assoc front (mark ++ run)]
      exact List.perm_append_comm.append_left front
    exact (swapped.cons space).trans List.perm_middle.symm
  · exact Or.inl same

theorem reorder_unbroken (segment : Bytes) (unbroken : newline ∉ segment) : newline ∉ reorder segment := by
  rcases (token_moved segment unbroken).perm with same | perm
  · rwa [same]
  · exact fun member => unbroken (perm.subset (List.mem_cons_of_mem space member))

theorem token_agrees : Utf8.Agree isTokenByte (basic isTokenByte) := by
  apply Utf8.basic_agree
  intro byte
  apply Bytes.every_byte _ byte
  decide +kernel

theorem token_no_gap (glyph : Glyph) (token : basic isTokenByte glyph = true) :
    basic (· == space) glyph = false ∧ basic (· == wideMark) glyph = false := by
  constructor
  · rw [← Bool.not_eq_true]
    intro gap
    rw [Utf8.only_character space glyph gap] at token
    cases token
  · rw [← Bool.not_eq_true]
    intro mark
    rw [Utf8.only_character wideMark glyph mark] at token
    cases token

def markCharacter : Glyph := .scalar wideMark.toNat

theorem token_parts (mark run after : List Glyph) (marked : mark = [] ∨ mark = [markCharacter])
    (whole : Run (basic isTokenByte) run after) :
    parts leadingToken (mark ++ run ++ after) = (parts columnPieces after).map fun ends => mark :: run :: ends := by
  have token := Pattern.repeated_apart (basic isTokenByte) (basic (· == space)) [⟨onLine, .atLeastOnce⟩] run after whole
    fun glyph letter => (token_no_gap glyph letter).1
  rw [← columnPieces] at token
  rcases marked with rfl | rfl
  · have unmarked : ∀ first ∈ (run ++ after).head?, basic (· == wideMark) first = false := by
      intro first member
      obtain ⟨own, more, rfl⟩ := List.exists_cons_of_ne_nil whole.present
      cases member
      exact (token_no_gap first (whole.accepted first List.mem_cons_self)).2
    rw [List.nil_append, leadingToken, Pattern.optional_refused _ _ _ unmarked, token, Option.map_map]
    rfl
  · have alone : parts (⟨basic isTokenByte, .atLeastOnce⟩ :: columnPieces) (markCharacter :: (run ++ after)) = none := by
      apply Pattern.required_refused _ _ _ _ (by decide)
      rintro first ⟨⟩
      rfl
    have taken := Pattern.optional_taken (basic (· == wideMark)) _ markCharacter (run ++ after) rfl alone
    rw [List.singleton_append, List.cons_append, leadingToken, taken, token, Option.map_map]
    rfl

theorem token_start (glyph : Glyph) (rest : List Glyph) :
    (∃ mark run after, glyph :: rest = mark ++ run ++ after ∧ (mark = [] ∨ mark = [markCharacter]) ∧
        Run (basic isTokenByte) run after) ∨
      basic isTokenByte glyph = false ∧
        (basic (· == wideMark) glyph = true → ∀ next ∈ rest.head?, basic isTokenByte next = false) := by
  cases token : basic isTokenByte glyph with
  | true =>
      obtain ⟨run, after, split, whole⟩ := Pattern.run_at _ glyph rest token
      exact Or.inl ⟨[], run, after, split, Or.inl rfl, whole⟩
  | false =>
      by_cases marked : basic (· == wideMark) glyph = true ∧ ∃ next ∈ rest.head?, basic isTokenByte next = true
      · obtain ⟨mark, next, first, letter⟩ := marked
        obtain ⟨others, rfl⟩ := List.head?_eq_some_iff.mp first
        obtain ⟨run, after, split, whole⟩ := Pattern.run_at _ next others letter
        refine Or.inl ⟨[markCharacter], run, after, ?_, Or.inr rfl, whole⟩
        rw [Utf8.only_character wideMark glyph mark, split]
        rfl
      · refine Or.inr ⟨rfl, fun mark next first => ?_⟩
        rw [← Bool.not_eq_true]
        exact fun letter => marked ⟨mark, next, first, letter⟩

theorem no_token_missed (glyph : Glyph) (rest : List Glyph) (other : basic isTokenByte glyph = false)
    (unmarked : basic (· == wideMark) glyph = true → ∀ next ∈ rest.head?, basic isTokenByte next = false) :
    parts leadingToken (glyph :: rest) = none := by
  have none : parts (⟨basic isTokenByte, .atLeastOnce⟩ :: columnPieces) (glyph :: rest) = none :=
    Pattern.required_refused _ _ _ _ (by decide) (by simpa using other)
  cases mark : basic (· == wideMark) glyph with
  | true =>
      rw [leadingToken, Pattern.optional_taken _ _ glyph rest mark none,
        Pattern.required_refused _ _ _ _ (by decide) (unmarked mark), Option.map_none]
  | false =>
      rw [leadingToken, Pattern.optional_refused _ _ _ (by simpa using mark), none, Option.map_none]

theorem opens_token (mark run after : Bytes) (marked : mark = [] ∨ mark = [wideMark])
    (whole : Run isTokenByte run after) : opensToken (mark ++ run ++ after) = startsColumn after := by
  have opens := opens_column_run isTokenByte run after whole
  obtain ⟨first, more, rfl⟩ := List.exists_cons_of_ne_nil whole.present
  rcases marked with rfl | rfl
  · have other : (first == wideMark) = false := by
      rw [beq_eq_false_iff_ne]
      rintro rfl
      exact absurd (whole.accepted _ List.mem_cons_self) (by decide)
    rw [List.nil_append, List.cons_append] at *
    rw [opensToken, opens, other, Bool.false_and, Bool.or_false]
  · change opensToken (wideMark :: (first :: more ++ after)) = _
    rw [opensToken, opens]
    rfl

theorem other_passed (glyph : Glyph) (rest : List Glyph) (settled : ∀ other ∈ glyph :: rest, Settled other)
    (other : basic isTokenByte glyph = false)
    (unmarked : basic (· == wideMark) glyph = true → ∀ next ∈ rest.head?, basic isTokenByte next = false) :
    reorder (encode (glyph :: rest)) = glyph.bytes ++ reorder (encode rest) := by
  obtain ⟨here, later⟩ := List.forall_mem_cons.mp settled
  have refused : ∀ byte ∈ glyph.bytes, isTokenByte byte = false :=
    fun byte member => (token_agrees glyph here byte member).trans other
  cases mark : basic (· == wideMark) glyph with
  | true =>
      have bytes : glyph.bytes = [wideMark] := by rw [Utf8.only_character wideMark glyph mark]; rfl
      rw [Utf8.encode_cons, bytes]
      apply Bytes.sweep_keep
      apply token_elsewhere wideMark _ mark_no_token
      intro _ byte first
      cases rest with
      | nil => cases first
      | cons next others =>
          obtain ⟨own, more, same, told⟩ := token_agrees.head next others (later next List.mem_cons_self)
          rw [same] at first
          cases first
          rw [told, unmarked mark next rfl]
  | false =>
      apply sweep_idle
      intro byte member text
      apply token_elsewhere byte text (refused byte member)
      rintro rfl
      have own := Utf8.only_agree wideMark (by decide) glyph here wideMark member
      rw [mark] at own
      cases own

theorem mark_bytes (mark : List Glyph) (marked : mark = [] ∨ mark = [markCharacter]) :
    encode mark = [] ∨ encode mark = [wideMark] := by
  rcases marked with rfl | rfl
  · exact Or.inl rfl
  · exact Or.inr rfl

theorem token_kept (glyph : Glyph) (rest mark run after : List Glyph) (split : glyph :: rest = mark ++ run ++ after)
    (marked : mark = [] ∨ mark = [markCharacter]) (settled : ∀ other ∈ run ++ after, Settled other)
    (whole : Run (basic isTokenByte) run after) (alone : startsColumn (encode after) = false) :
    reorder (encode (glyph :: rest)) = glyph.bytes ++ reorder (encode rest) := by
  obtain ⟨byte, single⟩ : ∃ byte, glyph.bytes = [byte] := by
    rcases marked with rfl | rfl
    · obtain ⟨first, more, rfl⟩ := List.exists_cons_of_ne_nil whole.present
      obtain ⟨byte, _, single, _⟩ := Utf8.basic_single isTokenByte first (whole.accepted first List.mem_cons_self)
      exact ⟨byte, by rw [(List.cons.inj split).1, single]⟩
    · exact ⟨wideMark, by rw [(List.cons.inj split).1]; rfl⟩
  have opens := opens_token _ _ _ (mark_bytes mark marked) (token_agrees.run run after settled whole)
  rw [← Utf8.encode_append, ← Utf8.encode_append, ← split, alone, Utf8.encode_cons, single] at opens
  rw [Utf8.encode_cons, single]
  exact reorder_keep byte (encode rest) opens

theorem token_written (mark run column behind : List Glyph) (marked : mark = [] ∨ mark = [markCharacter])
    (settled : ∀ glyph ∈ run ++ .scalar space.toNat :: (column ++ behind), Settled glyph)
    (whole : Run (basic isTokenByte) run (.scalar space.toNat :: (column ++ behind)))
    (line : Run onLine column behind)
    (starts : startsColumn (encode (.scalar space.toNat :: (column ++ behind))) = true) :
    reorder (encode (mark ++ run ++ .scalar space.toNat :: (column ++ behind))) =
      encode (column ++ (mark ++ run)) ++ reorder (encode behind) := by
  have later : ∀ glyph ∈ column ++ behind, Settled glyph :=
    fun glyph member => settled glyph (List.mem_append_right run (List.mem_cons_of_mem _ member))
  obtain ⟨gapped, taken, left⟩ := column_bytes column behind later line
  have moved := reorder_token (encode mark) (encode run) _
    (run_token _ _ _ (mark_bytes mark marked) (token_agrees.run run _ settled whole))
  rw [if_pos starts, gapped, List.drop_one, List.tail_cons, taken, left] at moved
  rw [Utf8.encode_append, Utf8.encode_append, gapped, moved, Utf8.encode_append, Utf8.encode_append]

theorem tokens_replaced (text : List Glyph) (settled : ∀ glyph ∈ text, Settled glyph) :
    reorder (encode text) = encode (replaceAll leadingToken tokenLast text) := by
  induction counted : text.length using Nat.strongRecOn generalizing text with
  | _ size ih =>
      cases text with
      | nil => rfl
      | cons glyph rest =>
          obtain ⟨here, others⟩ := List.forall_mem_cons.mp settled
          have later := ih rest.length (by rw [← counted]; simp) rest others rfl
          rcases token_start glyph rest with ⟨mark, run, after, split, marked, whole⟩ | ⟨other, unmarked⟩
          · have behindSettled : ∀ other ∈ run ++ after, Settled other := by
              intro other member
              exact settled other (by rw [split, List.append_assoc]; exact List.mem_append_right mark member)
            have matched := token_parts mark run after marked whole
            rw [← split] at matched
            rcases column_read after fun other member => behindSettled other (List.mem_append_right run member) with
              ⟨none, alone⟩ | ⟨column, behind, rfl, line, some, starts⟩
            · rw [none, Option.map_none] at matched
              rw [token_kept glyph rest mark run after split marked behindSettled whole alone, later,
                Pattern.replace_missed _ _ glyph rest matched]
              rfl
            · have shorter : behind.length < size := by
                rw [← counted, split]
                simp only [List.length_append, List.length_cons]
                omega
              have rest' := ih behind.length shorter behind
                (fun other member => behindSettled other (by simp [member])) rfl
              have taken : mark ++ run ++ .scalar space.toNat :: (column ++ behind) =
                  [mark, run, [.scalar space.toNat], column].flatten ++ behind := by simp
              rw [some, Option.map_some, split, taken] at matched
              have written := Pattern.replace_matched leadingToken tokenLast
                [mark, run, [.scalar space.toNat], column] behind (by simp) matched
              rw [split, token_written mark run column behind marked behindSettled whole line starts, taken, written,
                tokenLast, Utf8.encode_append (column ++ (mark ++ run)) _, rest']
          · rw [other_passed glyph rest settled other unmarked, later,
              Pattern.replace_missed _ _ glyph rest (no_token_missed glyph rest other unmarked)]
            rfl

-- On each text line the first token that a column follows goes behind the column. The search for it is
-- the one of the pattern, from left to right over the whole row.
theorem reorder_moves_tokens (row : Bytes) :
    reorder row = encode (replaceAll leadingToken tokenLast (glyphs row)) ∧
      List.Forall₂ (fun segment result => TokenMoved segment result ∧ (result = segment ∨ (space :: result).Perm segment))
        (row.splitOn newline) ((reorder row).splitOn newline) := by
  have linewise : Linewise reorder := sweep_linewise findToken token_confined
  refine ⟨?_, segments_related reorder linewise _ ?_ row⟩
  · rw [← tokens_replaced (glyphs row) (Utf8.glyphs_settled row), Utf8.encode_glyphs]
  · intro segment unbroken
    have moved := token_moved segment unbroken
    exact ⟨reorder_unbroken segment unbroken, moved, moved.perm⟩

example : reorder (ascii "mov 0f1x w0f ad\n90 nop") = ascii "mov 0f1x adw0f\nnop90" := by decide

end OpcodeTable.Rule
