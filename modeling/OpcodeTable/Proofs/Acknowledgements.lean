import OpcodeTable.Proofs.DecimalText
import OpcodeTable.Proofs.EnvironmentOverFile

/-!
Acknowledgements are held in 16 bits. A number in the file is brought back into them, while the same
number as a variable has to fit.
-/

set_option autoImplicit false

namespace OpcodeTable.Settings

open Yaml (Value)

def acksName : String := "required_acks"

structure Acknowledges (plain given : Layer) (value : Value) : Prop where
  others : ∀ name ∈ Scope.sinkTopic.fields.map Field.name, name ≠ acksName → find given name = find plain name
  unsaid : find plain acksName = none
  said : find given acksName = some value

def withAcks (number : Int) (settings : Sink.TopicSettings) : Sink.TopicSettings :=
  { settings with acks := effectiveAcks number }

theorem read_fault {α : Type} (decode : Value → Option α) (unset : α) (layer : Layer) (name : String) (fault : Fault)
    (failed : read decode unset layer name = .error fault) : fault = .undecodable := by
  rw [read] at failed
  split at failed
  · cases failed
  · cases failed
  · split at failed
    · cases failed
    · exact (Except.error.inj failed).symm

section Layers

variable {plain given : Layer} {value : Value} (acknowledges : Acknowledges plain given value)

include acknowledges

theorem Acknowledges.read {α : Type} (decode : Value → Option α) (unset : α) (name : String)
    (known : name ∈ Scope.sinkTopic.fields.map Field.name) (other : name ≠ acksName) :
    Settings.read decode unset given name = Settings.read decode unset plain name := by
  rw [Settings.read, Settings.read, acknowledges.others name known other]

theorem Acknowledges.read_unsaid : Settings.read (asInteger 16) 0 plain acksName = .ok 0 := by
  rw [Settings.read, acknowledges.unsaid]

theorem Acknowledges.read_said (something : value ≠ .null) :
    Settings.read (asInteger 16) 0 given acksName =
      match asInteger 16 value with
      | some acks => .ok acks
      | none => .error .undecodable := by
  rw [Settings.read, acknowledges.said]
  split
  · contradiction
  · rename_i nothing
    exact absurd (Option.some.inj nothing) something
  · rename_i written _ found
    rw [Option.some.inj found]
    cases asInteger 16 written <;> rfl

theorem Acknowledges.settled (something : value ≠ .null) :
    sinkTopicOfLayer given =
      match asInteger 16 value with
      | some acks => (sinkTopicOfLayer plain).map (withAcks acks)
      | none => .error .undecodable := by
  have brokers := acknowledges.read asTexts [] "brokers" (by decide) (by decide)
  have topic := acknowledges.read asText "" "topic" (by decide) (by decide)
  have version := acknowledges.read asText "" "version" (by decide) (by decide)
  have clientId := acknowledges.read asText "" "client_id" (by decide) (by decide)
  have tls := acknowledges.read asFlag false "tls_enabled" (by decide) (by decide)
  have said := acknowledges.read_said something
  have unsaid := acknowledges.read_unsaid
  rw [acksName] at said unsaid
  rw [sinkTopicOfLayer, sinkTopicOfLayer, brokers, topic, version, clientId, tls, said, unsaid]
  cases asInteger 16 value with
  | some acks =>
      change _ = withAcks acks <$> _
      simp only [map_bind, apply_ite (withAcks acks <$> ·)]
      rfl
  | none =>
      cases readBrokers : Settings.read asTexts [] plain "brokers" with
      | error fault =>
          rw [read_fault asTexts [] plain "brokers" fault readBrokers]
          rfl
      | ok brokers =>
          cases readTopic : Settings.read asText "" plain "topic" with
          | error fault =>
              rw [read_fault asText "" plain "topic" fault readTopic]
              rfl
          | ok topic => rfl

end Layers

theorem text_acks (number : Int) :
    asInteger 16 (.text (toString number)) = if Word.fits 16 number then some number else none := by
  have filled : toString number ≠ "" := by
    intro nothing
    obtain ⟨_, last, _⟩ := Text.integer_text_last number
    rw [nothing] at last
    cases last
  rw [asInteger]
  · rw [Text.integer_canonical, Option.filter_some]
  · exact filled

def acksVariable (number : Int) : String × String := ("OPTAB_KAFKA__REQUIRED_ACKS", toString number)

section Loads

variable {files others : Files} {environment : Environment} {path place : String} {plain numbered : Layer} (number : Int)
  (names : Scope.sinkTopic.Names (named Scope.sinkTopic.mark environment))
  (unnamed : acksName ∉ (named Scope.sinkTopic.mark environment).map Prod.fst)
  (file : ofFile files path = .ok plain)

theorem acks_known : acksName ∈ Scope.sinkTopic.fields.map Field.name := by decide

theorem named_acks : named Scope.sinkTopic.mark (acksVariable number :: environment) =
    (acksName, toString number) :: named Scope.sinkTopic.mark environment := by
  have marked : "OPTAB_KAFKA__REQUIRED_ACKS".startsWith Scope.sinkTopic.mark = true := by decide +kernel
  have spelled : ("OPTAB_KAFKA__REQUIRED_ACKS".drop Scope.sinkTopic.mark.length).toString.map Unicode.lower = acksName := by
    decide +kernel
  refine List.filterMap_cons_some ?_
  simp only [acksVariable, marked, if_true, spelled]

include names unnamed

theorem acks_names : Scope.sinkTopic.Names (named Scope.sinkTopic.mark (acksVariable number :: environment)) := by
  rw [named_acks]
  exact ⟨List.forall_mem_cons.mpr ⟨acks_known, names.known⟩, List.nodup_cons.mpr ⟨unnamed, names.distinct⟩⟩

theorem Acknowledges.overwritten {value : Value} (acknowledges : Acknowledges plain numbered value) :
    Acknowledges (overwritten [] (named Scope.sinkTopic.mark environment) plain)
      (overwritten [] (named Scope.sinkTopic.mark environment) numbered) value := by
  have absent := lookup_absent _ acksName unnamed
  constructor
  · intro name known other
    rw [find_named names _ name known, find_named names _ name known, merged, merged,
      acknowledges.others name known other]
  · rw [find_named names _ acksName acks_known, merged, absent]
    exact acknowledges.unsaid
  · rw [find_named names _ acksName acks_known, merged, absent]
    exact acknowledges.said

theorem variable_acknowledges (unsaid : find plain acksName = none) :
    Acknowledges (overwritten [] (named Scope.sinkTopic.mark environment) plain)
      (overwritten [] (named Scope.sinkTopic.mark (acksVariable number :: environment)) plain)
      (.text (toString number)) := by
  have both := acks_names number names unnamed
  constructor
  · intro name known other
    rw [find_named both _ name known, find_named names _ name known, merged, merged, named_acks,
      List.lookup_cons, beq_false_of_ne other]
  · rw [find_named names _ acksName acks_known, merged, lookup_absent _ acksName unnamed]
    exact unsaid
  · rw [find_named both _ acksName acks_known, merged, named_acks, List.lookup_cons_self]

include file

theorem file_acks (other : ofFile others place = .ok numbered)
    (schema : schemaVersion numbered = schemaVersion plain)
    (acknowledges : Acknowledges plain numbered (.whole number)) :
    loadSinkTopic others environment place =
      (loadSinkTopic files environment path).map (withAcks (Word.wrap 16 number)) := by
  have given := load_overwritten names others place numbered other
  have unset := load_overwritten names files path plain file
  have settled := (acknowledges.overwritten names unnamed).settled nofun
  have version : checkSchema Scope.sinkTopic.label numbered = checkSchema Scope.sinkTopic.label plain := by
    rw [checkSchema, checkSchema, schema]
  change loadSinkTopic others environment place = _ at given
  change loadSinkTopic files environment path = _ at unset
  rw [given, unset, version]
  cases checkSchema Scope.sinkTopic.label plain with
  | error fault => rfl
  | ok done => exact settled

theorem variable_acks (unsaid : find plain acksName = none) :
    loadSinkTopic files (acksVariable number :: environment) path =
      if Word.fits 16 number then (loadSinkTopic files environment path).map (withAcks number)
      else checkSchema Scope.sinkTopic.label plain >>= fun _ => .error .undecodable := by
  have given := load_overwritten (acks_names number names unnamed) files path plain file
  have unset := load_overwritten names files path plain file
  have settled := (variable_acknowledges number names unnamed unsaid).settled nofun
  change loadSinkTopic files (acksVariable number :: environment) path = _ at given
  change loadSinkTopic files environment path = _ at unset
  rw [text_acks] at settled
  rw [given, unset]
  by_cases fits : Word.fits 16 number = true
  · rw [if_pos fits] at settled ⊢
    cases checkSchema Scope.sinkTopic.label plain with
    | error fault => rfl
    | ok done => exact settled
  · rw [if_neg fits] at settled ⊢
    cases checkSchema Scope.sinkTopic.label plain with
    | error fault => rfl
    | ok done => exact settled

end Loads

-- Both loads fail, or both ask for the acknowledgements that were written, where 0 is for all replicas.
inductive Meant (number : Int) : Except Fault Sink.TopicSettings → Except Fault Sink.TopicSettings → Prop where
  | failed (first second : Fault) : Meant number (.error first) (.error second)
  | asked (first second : Sink.TopicSettings) (one : first.acks = if number = 0 then -1 else number)
      (other : second.acks = if number = 0 then -1 else number) : Meant number (.ok first) (.ok second)

theorem held_acks (number : Int) (settings : Sink.TopicSettings) :
    (withAcks number settings).acks = if number = 0 then -1 else number := by
  simp [withAcks, effectiveAcks]

theorem acks_fit_iff (number : Int) : Word.fits 16 number = true ↔ -32768 ≤ number ∧ number ≤ 32767 := by
  have bound : Word.bound 16 = 32768 := rfl
  simp only [Word.fits, Bool.and_eq_true, decide_eq_true_eq, bound]
  omega

theorem meant_iff (number : Int) (rest refusal : Except Fault Sink.TopicSettings)
    (refused : ∃ fault, refusal = .error fault) :
    Meant number (rest.map (withAcks (Word.wrap 16 number)))
        (if Word.fits 16 number then rest.map (withAcks number) else refusal) ↔
      Word.fits 16 number = true ∨ ∃ fault, rest = .error fault := by
  obtain ⟨reason, rfl⟩ := refused
  by_cases fits : Word.fits 16 number = true
  · refine iff_of_true ?_ (Or.inl fits)
    rw [if_pos fits, (Word.wrap_same_iff 16 (by decide) number).mpr fits]
    cases rest with
    | error fault => exact .failed fault fault
    | ok settings => exact .asked _ _ (held_acks number settings) (held_acks number settings)
  · rw [if_neg fits]
    cases rest with
    | error fault => exact iff_of_true (.failed fault reason) (Or.inr ⟨fault, rfl⟩)
    | ok settings => exact iff_of_false nofun (not_or.mpr ⟨fits, nofun⟩)

theorem acks_meant_iff (number : Int) (files others : Files) (environment : Environment) (path place : String)
    (plain numbered : Layer) (names : Scope.sinkTopic.Names (named Scope.sinkTopic.mark environment))
    (unnamed : acksName ∉ (named Scope.sinkTopic.mark environment).map Prod.fst)
    (file : ofFile files path = .ok plain) (other : ofFile others place = .ok numbered)
    (schema : schemaVersion numbered = schemaVersion plain)
    (acknowledges : Acknowledges plain numbered (.whole number)) :
    let rest := loadSinkTopic files environment path
    let fromFile := loadSinkTopic others environment place
    let fromVariable := loadSinkTopic files (acksVariable number :: environment) path
    (Word.fits 64 number = true → Yaml.scalarValue .implicit (toString number) = some (.whole number)) ∧
      fromFile = rest.map (withAcks (Word.wrap 16 number)) ∧
      fromVariable = (if Word.fits 16 number then rest.map (withAcks number)
        else checkSchema Scope.sinkTopic.label plain >>= fun _ => .error .undecodable) ∧
      (Meant number fromFile fromVariable ↔
        (-32768 ≤ number ∧ number ≤ 32767) ∨ ∃ fault, rest = .error fault) := by
  intro rest fromFile fromVariable
  have given : fromFile = _ := file_acks number names unnamed file other schema acknowledges
  have spoken : fromVariable = _ := variable_acks number names unnamed file acknowledges.unsaid
  have refused : ∃ fault, (checkSchema Scope.sinkTopic.label plain >>= fun _ => .error .undecodable :
      Except Fault Sink.TopicSettings) = .error fault := by
    cases checkSchema Scope.sinkTopic.label plain <;> exact ⟨_, rfl⟩
  refine ⟨Yaml.integer_scalar number, given, spoken, ?_⟩
  rw [given, spoken, meant_iff number rest _ refused, acks_fit_iff]

def addressed : Environment := [("OPTAB_KAFKA__BROKERS", "b:9092"), ("OPTAB_KAFKA__TOPIC", "rows")]

def asking (acks : Int) : Sink.TopicSettings := ⟨["b:9092"], "rows", acks, "2.8.0", "optab", false⟩

theorem addressed_named : named Scope.sinkTopic.mark addressed = [("brokers", "b:9092"), ("topic", "rows")] := by
  decide +kernel

theorem addressed_names : Scope.sinkTopic.Names (named Scope.sinkTopic.mark addressed) := by
  rw [addressed_named]
  exact ⟨by decide, by decide⟩

theorem addressed_unnamed : acksName ∉ (named Scope.sinkTopic.mark addressed).map Prod.fst := by
  rw [addressed_named]
  decide

theorem addressed_load (files : Files) : loadSinkTopic files addressed "" = .ok (asking (-1)) := by
  have loaded := load_overwritten addressed_names files "" [] rfl
  rw [addressed_named] at loaded
  exact loaded.trans (ok_of_given _ _ (by decide +kernel))

theorem number_acknowledges (number : Int) : Acknowledges [] [(acksName, .whole number)] (.whole number) := by
  constructor
  · intro name known other
    have apart := fields_apart .sinkTopic acksName acks_known name known other.symm
    simp [find, List.lookup_cons, beq_false_of_ne other, apart]
  · rfl
  · simp [find]

def acksFile (digits : String) : Files := settingsFile ("required_acks: " ++ digits ++ "\n")

theorem one_acknowledgement :
    loadSinkTopic (acksFile "1") addressed "s" = .ok (asking 1) ∧
      loadSinkTopic (acksFile "1") (acksVariable 1 :: addressed) "" = .ok (asking 1) := by
  have number : ofFile (acksFile "1") "s" = .ok [(acksName, .whole 1)] := plain_setting_read _ _ (.inl 1) (by decide +kernel)
  obtain ⟨_, file, environment, _⟩ := acks_meant_iff 1 (acksFile "1") (acksFile "1") addressed "" "s" [] _
    addressed_names addressed_unnamed rfl number rfl (number_acknowledges 1)
  rw [addressed_load] at file environment
  exact ⟨file, environment⟩

-- A span of 16 bits above 1: from the file it is 1, and as a variable it is refused.
theorem wide_number_lost :
    loadSinkTopic (acksFile "65537") addressed "s" = .ok (asking 1) ∧
      loadSinkTopic (acksFile "65537") (acksVariable 65537 :: addressed) "" = .error .undecodable ∧
      ¬ Meant 65537 (loadSinkTopic (acksFile "65537") addressed "s")
        (loadSinkTopic (acksFile "65537") (acksVariable 65537 :: addressed) "") := by
  have acknowledges := number_acknowledges 65537
  have number : ofFile (acksFile "65537") "s" = .ok [(acksName, .whole 65537)] :=
    plain_setting_read _ _ (.inl 65537) (by decide +kernel)
  have unset : ofFile (acksFile "65537") "" = .ok [] := rfl
  have file : loadSinkTopic (acksFile "65537") addressed "s" = .ok (asking 1) := by
    rw [file_acks 65537 addressed_names addressed_unnamed unset number rfl acknowledges, addressed_load]
    rfl
  have environment : loadSinkTopic (acksFile "65537") (acksVariable 65537 :: addressed) "" = .error .undecodable := by
    rw [variable_acks 65537 addressed_names addressed_unnamed unset acknowledges.unsaid]
    rfl
  refine ⟨file, environment, ?_⟩
  rw [file, environment]
  nofun

end OpcodeTable.Settings
