set_option autoImplicit false

namespace OpcodeTable.Pattern

variable {α : Type}

inductive Times where
  | once
  | atMostOnce
  | atLeastOnce
deriving DecidableEq, Repr

structure Piece (α : Type) where
  accepts : α → Bool
  times : Times

-- The numbers of characters that a piece may take at the start of a text, the one to be tried first in
-- front.
def Piece.choices (piece : Piece α) (text : List α) : List Nat :=
  let most := (text.takeWhile piece.accepts).length
  match piece.times with
  | .once => if most = 0 then [] else [1]
  | .atMostOnce => if most = 0 then [0] else [1, 0]
  | .atLeastOnce => (List.range most).reverse.map (· + 1)

-- What the pieces take at the start of a text. Among several ways to match, the one is taken in which
-- the first piece that differs has its earlier choice.
def parts : List (Piece α) → List α → Option (List (List α))
  | [], _ => some []
  | piece :: others, text =>
      (piece.choices text).findSome? fun size => (parts others (text.drop size)).map (text.take size :: ·)

def replaceFrom (pattern : List (Piece α)) (write : List (List α) → List α) : Nat → List α → List α
  | _, [] => []
  | skip + 1, _ :: rest => replaceFrom pattern write skip rest
  | 0, character :: rest =>
      match parts pattern (character :: rest) with
      | some taken => write taken ++ replaceFrom pattern write (taken.flatten.length - 1) rest
      | none => character :: replaceFrom pattern write 0 rest

def replaceAll (pattern : List (Piece α)) (write : List (List α) → List α) (text : List α) : List α :=
  replaceFrom pattern write 0 text

def found (pattern : List (Piece α)) : List α → Bool
  | [] => (parts pattern []).isSome
  | character :: rest => (parts pattern (character :: rest)).isSome || found pattern rest

theorem replace_from_skip (pattern : List (Piece α)) (write : List (List α) → List α) (skip : Nat)
    (text : List α) : replaceFrom pattern write skip text = replaceAll pattern write (text.drop skip) := by
  induction text generalizing skip with
  | nil => cases skip <;> rfl
  | cons character rest ih =>
      cases skip with
      | zero => rfl
      | succ skip => exact ih skip

theorem replace_missed (pattern : List (Piece α)) (write : List (List α) → List α) (character : α) (rest : List α)
    (missed : parts pattern (character :: rest) = none) :
    replaceAll pattern write (character :: rest) = character :: replaceAll pattern write rest := by
  rw [replaceAll, replaceFrom, missed]
  rfl

theorem replace_matched (pattern : List (Piece α)) (write : List (List α) → List α) (taken : List (List α))
    (behind : List α) (present : taken.flatten ≠ []) (matched : parts pattern (taken.flatten ++ behind) = some taken) :
    replaceAll pattern write (taken.flatten ++ behind) = write taken ++ replaceAll pattern write behind := by
  obtain ⟨first, more, split⟩ := List.exists_cons_of_ne_nil present
  have size : taken.flatten.length - 1 = more.length := by
    rw [split, List.length_cons, Nat.add_sub_cancel]
  rw [split, List.cons_append] at matched ⊢
  rw [replaceAll, replaceFrom, matched]
  simp only [replace_from_skip, size, List.drop_left]

theorem once_taken (accepts : α → Bool) (others : List (Piece α)) (character : α) (rest : List α)
    (accepted : accepts character = true) :
    parts (⟨accepts, .once⟩ :: others) (character :: rest) = (parts others rest).map ([character] :: ·) := by
  simp [parts, Piece.choices, accepted]

theorem required_refused (accepts : α → Bool) (times : Times) (others : List (Piece α)) (text : List α)
    (required : times ≠ .atMostOnce) (refused : ∀ character ∈ text.head?, accepts character = false) :
    parts (⟨accepts, times⟩ :: others) text = none := by
  have idle : text.takeWhile accepts = [] := by
    cases text with
    | nil => rfl
    | cons character rest => exact List.takeWhile_cons_of_neg (by simp [refused character rfl])
  cases times with
  | once => simp [parts, Piece.choices, idle]
  | atMostOnce => exact absurd rfl required
  | atLeastOnce => simp [parts, Piece.choices, idle]

theorem optional_taken (accepts : α → Bool) (others : List (Piece α)) (character : α) (rest : List α)
    (accepted : accepts character = true) (alone : parts others (character :: rest) = none) :
    parts (⟨accepts, .atMostOnce⟩ :: others) (character :: rest) = (parts others rest).map ([character] :: ·) := by
  have choices : (Piece.mk accepts .atMostOnce).choices (character :: rest) = [1, 0] := by
    simp [Piece.choices, accepted]
  rw [parts, choices, List.findSome?_cons]
  simp only [List.drop_succ_cons, List.drop_zero, List.take_succ_cons, List.take_zero]
  cases parts others rest with
  | some ends => rfl
  | none => simp [alone]

theorem optional_refused (accepts : α → Bool) (others : List (Piece α)) (text : List α)
    (refused : ∀ character ∈ text.head?, accepts character = false) :
    parts (⟨accepts, .atMostOnce⟩ :: others) text = (parts others text).map ([] :: ·) := by
  cases text with
  | nil => simp [parts, Piece.choices]
  | cons character rest => simp [parts, Piece.choices, refused character rfl]

structure Run (accepts : α → Bool) (run after : List α) : Prop where
  present : run ≠ []
  accepted : ∀ character ∈ run, accepts character = true
  stop : ∀ character ∈ after.head?, accepts character = false

theorem run_at (accepts : α → Bool) (character : α) (rest : List α) (accepted : accepts character = true) :
    ∃ run after, character :: rest = run ++ after ∧ Run accepts run after := by
  refine ⟨character :: rest.takeWhile accepts, rest.dropWhile accepts, ?_, by simp, ?_, ?_⟩
  · rw [List.cons_append, List.takeWhile_append_dropWhile]
  · exact List.forall_mem_cons.mpr ⟨accepted, List.all_eq_true.mp List.all_takeWhile⟩
  · intro next first
    have stopped := List.head?_dropWhile_not accepts rest
    rw [Option.mem_def.mp first] at stopped
    simpa using stopped

theorem run_induction {accepts : α → Bool} {motive : List α → Prop} (nil : motive [])
    (other : ∀ character rest, accepts character = false → motive rest → motive (character :: rest))
    (run : ∀ run rest, Run accepts run rest → motive rest → motive (run ++ rest)) (text : List α) : motive text := by
  induction counted : text.length using Nat.strongRecOn generalizing text with
  | _ size ih =>
      cases text with
      | nil => exact nil
      | cons character more =>
          by_cases starts : accepts character = true
          · obtain ⟨front, rest, split, whole⟩ := run_at accepts character more starts
            have shorter : rest.length < size := by
              rw [← counted, split, List.length_append]
              have some := List.length_pos_iff.mpr whole.present
              omega
            rw [split]
            exact run front rest whole (ih rest.length shorter rest rfl)
          · exact other character more (by simpa using starts) (ih more.length (by rw [← counted]; simp) more rfl)

theorem Run.later {accepts : α → Bool} {character : α} {more after : List α}
    (whole : Run accepts (character :: more) after) (present : more ≠ []) : Run accepts more after :=
  ⟨present, fun other member => whole.accepted other (List.mem_cons_of_mem character member), whole.stop⟩

theorem Run.take_while {accepts : α → Bool} {run after : List α} (whole : Run accepts run after) :
    (run ++ after).takeWhile accepts = run := by
  rw [List.takeWhile_append_of_pos whole.accepted]
  cases after with
  | nil => simp
  | cons next later => simp [whole.stop next rfl]

theorem Run.drop_while {accepts : α → Bool} {run after : List α} (whole : Run accepts run after) :
    (run ++ after).dropWhile accepts = after := by
  rw [List.dropWhile_append_of_pos whole.accepted]
  cases after with
  | nil => rfl
  | cons next later => simp [whole.stop next rfl]

theorem Run.choices {accepts : α → Bool} {run after : List α} (whole : Run accepts run after) :
    (Piece.mk accepts .atLeastOnce).choices (run ++ after) =
      run.length :: (List.range (run.length - 1)).reverse.map (· + 1) := by
  obtain ⟨less, size⟩ : ∃ less, run.length = less + 1 :=
    Nat.exists_eq_succ_of_ne_zero (Nat.ne_of_gt (List.length_pos_iff.mpr whole.present))
  simp [Piece.choices, whole.take_while, size, List.range_succ]

theorem repeated_last (accepts : α → Bool) (run after : List α) (whole : Run accepts run after) :
    parts [⟨accepts, .atLeastOnce⟩] (run ++ after) = some [run] := by
  rw [parts, whole.choices, List.findSome?_cons, List.take_left]
  rfl

-- Giving characters back is of no use where the next piece accepts none of them.
theorem repeated_apart (accepts next : α → Bool) (others : List (Piece α)) (run after : List α)
    (whole : Run accepts run after) (apart : ∀ character, accepts character = true → next character = false) :
    parts (⟨accepts, .atLeastOnce⟩ :: ⟨next, .once⟩ :: others) (run ++ after) =
      (parts (⟨next, .once⟩ :: others) after).map (run :: ·) := by
  have shorter : ∀ fewer ∈ (List.range (run.length - 1)).reverse.map (· + 1),
      (parts (⟨next, .once⟩ :: others) ((run ++ after).drop fewer)).map ((run ++ after).take fewer :: ·) = none := by
    intro fewer member
    obtain ⟨before, inside, rfl⟩ := List.mem_map.mp member
    have bound : before + 1 < run.length := by
      have small := List.mem_range.mp (List.mem_reverse.mp inside)
      omega
    rw [required_refused _ _ _ _ (by decide), Option.map_none]
    intro character first
    rw [List.head?_drop, List.getElem?_append_left bound] at first
    exact apart character (whole.accepted character (List.mem_of_getElem? first))
  rw [parts, whole.choices, List.findSome?_cons, List.take_left, List.drop_left]
  cases parts (⟨next, .once⟩ :: others) after with
  | some ends => rfl
  | none => exact List.findSome?_eq_none_iff.mpr shorter

end OpcodeTable.Pattern
