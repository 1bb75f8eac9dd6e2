import OpcodeTable.Proofs.SpelledNames
import OpcodeTable.Settings.Loose

set_option autoImplicit false

namespace OpcodeTable.Settings

open Text (Single)
open Yaml (Value)

def named (mark : String) (environment : Environment) : List (String × String) :=
  environment.filterMap fun (name, text) =>
    if name.startsWith mark then some ((name.drop mark.length).toString.map Unicode.lower, text) else none

def entriesAt (layer : Layer) (name : String) : Layer :=
  match layer.lookup name with
  | some (.table entries) => entries
  | _ => []

def overwritten : List String → List (String × String) → Layer → Layer
  | [], names, layer => names.foldl (fun layer entry => set entry.1 (.text entry.2) layer) layer
  | block :: rest, names, layer =>
      if names.isEmpty then layer
      else set block (.table (overwritten rest names (entriesAt layer block))) layer

theorem lookup_set (key name : String) (value : Value) (layer : Layer) :
    (set key value layer).lookup name = if name = key then some value else layer.lookup name := by
  induction layer with
  | nil =>
      by_cases same : name = key
      · simp [set, same]
      · simp [set, same]
  | cons entry rest ih =>
      obtain ⟨first, old⟩ := entry
      by_cases here : first = key
      · by_cases same : name = key
        · simp [set, here, same]
        · have apart := beq_false_of_ne same
          simp [set, here, List.lookup_cons, same, apart]
      · by_cases same : name = first
        · simp [set, here, same]
        · have apart := beq_false_of_ne same
          simp [set, here, List.lookup_cons, apart, ih]

theorem set_set (key : String) (first second : Value) (layer : Layer) :
    set key second (set key first layer) = set key second layer := by
  induction layer with
  | nil => simp [set]
  | cons entry rest ih =>
      by_cases here : entry.1 = key
      · simp [set, here]
      · simp [set, here, ih]

theorem entries_of_set (name : String) (entries layer : Layer) :
    entriesAt (set name (.table entries) layer) name = entries := by
  simp [entriesAt, lookup_set]

theorem plant_below (text name : String) (rest : List String) (layer : Layer) (present : rest ≠ []) :
    plant text (name :: rest) layer = set name (.table (plant text rest (entriesAt layer name))) layer := by
  cases rest with
  | nil => exact absurd rfl present
  | cons next more => rfl

theorem overwritten_none (root : List String) (layer : Layer) : overwritten root [] layer = layer := by
  cases root with
  | nil => rfl
  | cons block rest => rfl

theorem overwritten_below (block : String) (rest : List String) (names : List (String × String)) (layer : Layer)
    (present : names ≠ []) :
    overwritten (block :: rest) names layer =
      set block (.table (overwritten rest names (entriesAt layer block))) layer := by
  rw [overwritten, if_neg (by simpa using present)]

theorem planted_below (block : String) (rest : List String) (names : List (String × String)) (layer : Layer)
    (present : names ≠ []) :
    names.foldl (fun layer entry => plant entry.2 (block :: rest ++ [entry.1]) layer) layer =
      set block (.table (names.foldl (fun layer entry => plant entry.2 (rest ++ [entry.1]) layer)
        (entriesAt layer block))) layer := by
  induction names generalizing layer with
  | nil => exact absurd rfl present
  | cons entry more ih =>
      have first : plant entry.2 (block :: rest ++ [entry.1]) layer =
          set block (.table (plant entry.2 (rest ++ [entry.1]) (entriesAt layer block))) layer :=
        plant_below entry.2 block (rest ++ [entry.1]) layer (by simp)
      by_cases last : more = []
      · rw [last]
        exact first
      · rw [List.foldl_cons, first, ih _ last, entries_of_set, set_set, List.foldl_cons]

theorem planted_overwritten (root : List String) (names : List (String × String)) (layer : Layer) :
    names.foldl (fun layer entry => plant entry.2 (root ++ [entry.1]) layer) layer = overwritten root names layer := by
  induction root generalizing layer with
  | nil => rfl
  | cons block rest ih =>
      by_cases none : names = []
      · rw [none, overwritten_none]
        rfl
      · rw [planted_below block rest names layer none, ih, overwritten_below block rest names layer none]

theorem overwritten_flat (names : List (String × String)) (layer : Layer) :
    overwritten [] names layer = overlay layer (names.map fun entry => (entry.1, .text entry.2)) := by
  induction names generalizing layer with
  | nil => rw [List.map_nil, overlay, overwritten_none]
  | cons entry more ih =>
      rw [List.map_cons, overlay, replacing, ← ih]
      · rfl
      · nofun

theorem set_new (key : String) (value : Value) (layer : Layer) (fresh : key ∉ layer.map Prod.fst) :
    set key value layer = layer ++ [(key, value)] := by
  induction layer with
  | nil => rfl
  | cons entry rest ih =>
      rw [List.map_cons, List.mem_cons, not_or] at fresh
      simp [set, Ne.symm fresh.1, ih fresh.2]

theorem overwritten_new (names : List (String × String)) (layer : Layer)
    (distinct : (layer.map Prod.fst ++ names.map Prod.fst).Nodup) :
    overwritten [] names layer = layer ++ names.map fun entry => (entry.1, .text entry.2) := by
  induction names generalizing layer with
  | nil => simp [overwritten_none]
  | cons entry more ih =>
      have fresh : entry.1 ∉ layer.map Prod.fst := by
        intro member
        rw [List.map_cons, List.nodup_append] at distinct
        exact distinct.2.2 entry.1 member entry.1 List.mem_cons_self rfl
      have first : overwritten [] (entry :: more) layer = overwritten [] more (layer ++ [(entry.1, .text entry.2)]) := by
        rw [← set_new entry.1 (.text entry.2) layer fresh]
        rfl
      rw [first, ih]
      · simp
      · simpa using distinct

-- Laying over is overwriting: both descend along the root.
theorem overlay_overwritten (root : List String) (names : List (String × String)) (layer : Layer)
    (distinct : (names.map Prod.fst).Nodup) :
    overlay layer (overwritten root names []) = overwritten root names layer := by
  induction root generalizing layer with
  | nil => rw [overwritten_new names [] (by simpa using distinct), List.nil_append, ← overwritten_flat]
  | cons name rest ih =>
      by_cases none : names = []
      · rw [none, overwritten_none, overwritten_none, overlay]
      · have single : overwritten (name :: rest) names [] = [(name, .table (overwritten rest names []))] :=
          overwritten_below name rest names [] none
        have block : replacing (layer.lookup name) (.table (overwritten rest names [])) =
            .table (overwritten rest names (entriesAt layer name)) := by
          rw [entriesAt]
          split
          · rename_i base found
            rw [found, replacing, ih]
          · rename_i other
            rw [replacing]
            exact other
        rw [single, overlay, overlay, block, overwritten_below name rest names layer none]

theorem bindings_named (mark : String) (root : List String) (environment : Environment)
    (single : ∀ entry ∈ named mark environment, Single entry.1) :
    bindings mark root environment = (named mark environment).map fun entry => (root ++ [entry.1], entry.2) := by
  have paths : environment.filterMap (fun (name, text) =>
      if name.startsWith mark then
        let spelled := (name.drop mark.length).toString.map Unicode.lower
        if root.isEmpty && spelled.isEmpty then none else some (root ++ spelled.splitOn "__", text)
      else none) = (named mark environment).map fun entry => (root ++ [entry.1], entry.2) := by
    rw [named, List.map_filterMap]
    apply List.filterMap_congr
    rintro ⟨name, text⟩ member
    by_cases marked : name.startsWith mark = true
    · have spells : ((name.drop mark.length).toString.map Unicode.lower, text) ∈ named mark environment :=
        List.mem_filterMap.mpr ⟨(name, text), member, by simp [marked]⟩
      have whole := single _ spells
      have filled : ((name.drop mark.length).toString.map Unicode.lower).isEmpty = false := by
        rw [← Bool.not_eq_true, String.isEmpty_iff]
        exact whole.present
      simp only [marked, if_true, filled, Bool.and_false, whole.split, Option.map_some]
      rfl
    · simp [marked]
  rw [bindings, paths]
  apply List.mergeSort_of_pairwise
  rw [List.pairwise_map]
  exact List.pairwise_of_forall (by simp)

theorem environment_overwritten (mark : String) (root : List String) (environment : Environment)
    (single : ∀ entry ∈ named mark environment, Single entry.1) :
    ofEnvironment mark root environment = overwritten root (named mark environment) [] := by
  rw [ofEnvironment, bindings_named mark root environment single, List.foldl_map, ← planted_overwritten]

theorem lookup_absent (names : List (String × String)) (name : String) (absent : name ∉ names.map Prod.fst) :
    names.lookup name = none := by
  rw [List.lookup_eq_none_iff]
  intro other member
  rw [bne_iff_ne]
  rintro rfl
  exact absent (List.mem_map.mpr ⟨other, member, rfl⟩)

def merged (names : List (String × String)) (layer : Layer) (name : String) : Option Value :=
  match names.lookup name with
  | some text => some (.text text)
  | none => find layer name

theorem find_set (key name : String) (value : Value) (layer : Layer)
    (apart : key ≠ name → sameLetters key name = false) :
    find (set key value layer) name = if name = key then some value else find layer name := by
  by_cases same : name = key
  · simp [find, lookup_set, same]
  · have different := apart (Ne.symm same)
    have inexact : (set key value layer).find? (fun entry => sameLetters entry.1 name) =
        layer.find? fun entry => sameLetters entry.1 name := by
      induction layer with
      | nil => simp [set, different]
      | cons entry rest ih =>
          by_cases here : entry.1 = key
          · simp [set, here, different]
          · simp [set, here, List.find?_cons, ih]
    rw [if_neg same, find, find, lookup_set, if_neg same, inexact]

theorem find_overwritten (names : List (String × String)) (name : String) (layer : Layer)
    (distinct : (names.map Prod.fst).Nodup)
    (apart : ∀ entry ∈ names, entry.1 ≠ name → sameLetters entry.1 name = false) :
    find (overwritten [] names layer) name = merged names layer name := by
  induction names generalizing layer with
  | nil => rfl
  | cons entry more ih =>
      obtain ⟨first, text⟩ := entry
      obtain ⟨here, later⟩ := List.forall_mem_cons.mp apart
      rw [List.map_cons, List.nodup_cons] at distinct
      have step : overwritten [] ((first, text) :: more) layer = overwritten [] more (set first (.text text) layer) := rfl
      rw [step, ih _ distinct.2 later, merged, merged, find_set first name (.text text) layer here]
      by_cases same : name = first
      · subst same
        simp [lookup_absent more name distinct.1]
      · simp [List.lookup_cons, beq_false_of_ne same, same]

end OpcodeTable.Settings
