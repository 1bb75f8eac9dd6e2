import Mathlib.Data.String.Basic

set_option autoImplicit false

namespace OpcodeTable.Text

section Splitting

def behind (front : List Char) : String.Pos.Raw := ⟨String.utf8Len front⟩

def secondUnderscore : String.Pos.Raw := String.Pos.Raw.next "__" 0

theorem split_end (front : List Char) (separator : String) (mark : String.Pos.Raw) :
    (String.ofList front).splitOnAux separator 0 (behind front) mark [] = [String.ofList front] := by
  have ended : (behind front).atEnd (.ofList front) = true := by
    have place := String.atEnd_of_valid front []
    rw [List.append_nil] at place
    exact place.mpr rfl
  have whole : String.Pos.Raw.extract (.ofList front) 0 (behind front) = .ofList front := by
    rw [behind, ← String.rawEndPos_ofList, String.extract_zero_rawEndPos]
  rw [String.splitOnAux, if_pos ended, whole]
  rfl

variable (front : List Char) (first : Char) (more : List Char)

theorem inside_text (text : String) (split : text = .ofList (front ++ first :: more)) :
    ¬ (behind front).atEnd text = true ∧ (behind front).get text = first ∧
      (behind front).next text = behind (front ++ [first]) := by
  rw [split, behind, String.atEnd_of_valid, String.get_of_valid, String.next_of_valid]
  exact ⟨List.cons_ne_nil first more, rfl, by simp [behind]⟩

theorem split_other (separator text : String) (split : text = .ofList (front ++ first :: more))
    (other : first ≠ String.Pos.Raw.get separator 0) :
    text.splitOnAux separator 0 (behind front) 0 [] = text.splitOnAux separator 0 (behind (front ++ [first])) 0 [] := by
  obtain ⟨inside, here, next⟩ := inside_text front first more text split
  have miss : ¬ (first == String.Pos.Raw.get separator 0) = true := by simpa using other
  have stay : (behind front).unoffsetBy 0 = behind front := rfl
  rw [String.splitOnAux, if_neg inside, here, if_neg miss, stay, next]

theorem split_mark (text : String) (split : text = .ofList (front ++ '_' :: more)) :
    text.splitOnAux "__" 0 (behind front) 0 [] =
      text.splitOnAux "__" 0 (behind (front ++ ['_'])) secondUnderscore [] := by
  obtain ⟨inside, here, next⟩ := inside_text front '_' more text split
  have mark : String.Pos.Raw.get "__" 0 = '_' := by decide
  have half : ¬ secondUnderscore.atEnd "__" = true := by decide
  rw [String.splitOnAux, if_neg inside, here, mark, if_pos BEq.rfl, next]
  exact if_neg half

-- One underscore that no other follows is passed over again.
theorem split_back (text : String) (split : text = .ofList (front ++ '_' :: first :: more)) (other : first ≠ '_') :
    text.splitOnAux "__" 0 (behind (front ++ ['_'])) secondUnderscore [] =
      text.splitOnAux "__" 0 (behind (front ++ ['_'])) 0 [] := by
  have shifted : text = .ofList ((front ++ ['_']) ++ first :: more) := by rw [split, List.append_assoc]; rfl
  obtain ⟨inside, here, _⟩ := inside_text (front ++ ['_']) first more text shifted
  obtain ⟨_, _, again⟩ := inside_text front '_' (first :: more) text split
  have mark : secondUnderscore.get "__" = '_' := by decide
  have miss : ¬ (first == '_') = true := by simpa using other
  have back : (behind (front ++ ['_'])).unoffsetBy secondUnderscore = behind front := by
    rw [behind, String.utf8Len_append]
    rfl
  rw [String.splitOnAux, if_neg inside, here, mark, if_neg miss, back, again]

end Splitting

theorem split_single (front back : List Char) (whole : ¬ ['_', '_'] <:+: back) :
    (String.ofList (front ++ back)).splitOnAux "__" 0 (behind front) 0 [] = [String.ofList (front ++ back)] := by
  induction back generalizing front with
  | nil => rw [List.append_nil, split_end]
  | cons first more ih =>
      rw [List.infix_cons_iff, not_or] at whole
      have next : front ++ first :: more = (front ++ [first]) ++ more := by simp
      have later := ih (front ++ [first]) whole.2
      by_cases mark : first = '_'
      · subst mark
        rw [split_mark front more _ rfl]
        cases more with
        | nil => exact split_end (front ++ ['_']) "__" secondUnderscore
        | cons second last =>
            have other : second ≠ '_' := by
              rintro rfl
              exact whole.1 ⟨last, rfl⟩
            rw [split_back front second last _ rfl other, next, later]
      · rw [split_other front first more "__" _ rfl mark, next, later]

theorem split_unmarked (separator : String) (front back : List Char)
    (unmarked : String.Pos.Raw.get separator 0 ∉ back) :
    (String.ofList (front ++ back)).splitOnAux separator 0 (behind front) 0 [] = [String.ofList (front ++ back)] := by
  induction back generalizing front with
  | nil => rw [List.append_nil, split_end]
  | cons first more ih =>
      rw [List.mem_cons, not_or] at unmarked
      have next : front ++ first :: more = (front ++ [first]) ++ more := by simp
      rw [split_other front first more separator _ rfl (Ne.symm unmarked.1), next, ih _ unmarked.2]

theorem split_on_unmarked (separator text : String) (present : separator ≠ "")
    (unmarked : String.Pos.Raw.get separator 0 ∉ text.toList) : text.splitOn separator = [text] := by
  have alone := split_unmarked separator [] text.toList unmarked
  rw [List.nil_append, String.ofList_toList] at alone
  rw [String.splitOn, if_neg (by simpa using present)]
  exact alone

structure Single (name : String) : Prop where
  present : name ≠ ""
  whole : ¬ ['_', '_'] <:+: name.toList

theorem Single.split {name : String} (single : Single name) : name.splitOn "__" = [name] := by
  have alone := split_single [] name.toList single.whole
  rw [List.nil_append, String.ofList_toList] at alone
  exact alone

end OpcodeTable.Text
