import OpcodeTable.Proofs.FirstFailure
import OpcodeTable.Proofs.SettingsLayers
import OpcodeTable.Settings.Lines
import OpcodeTable.Settings.Topics

set_option autoImplicit false

namespace OpcodeTable.Settings

open Text (Single)
open Yaml (Value)

def decoded {α : Type} (decode : Value → Option α) (unset : α) : Option Value → Option α
  | none | some .null => some unset
  | some value => decode value

-- A setting with the reading of its value, and the default that replaces a reading that is vacant.
structure Field (σ : Type) where
  Held : Type
  name : String
  decode : Value → Option Held
  unset : Held
  vacant : Held → Prop
  default : Held
  held : σ → Held

def Field.plain {σ α : Type} (name : String) (decode : Value → Option α) (unset : α) (held : σ → α) : Field σ :=
  ⟨α, name, decode, unset, fun reading => reading = unset, unset, held⟩

def Field.text {σ : Type} (name fallback : String) (held : σ → String) : Field σ :=
  ⟨String, name, asText, "", fun reading => reading = "", fallback, held⟩

structure Field.Filled {σ : Type} (field : Field σ) (value : Option Value) (settings : σ) (reading : field.Held) : Prop where
  read : decoded field.decode field.unset value = some reading
  default : field.vacant reading → field.held settings = field.default
  given : ¬ field.vacant reading → field.held settings = reading

inductive Scope where
  | lines
  | sourceTopic
  | sinkTopic

namespace Scope

abbrev Result : Scope → Type
  | .lines => LineSettings
  | .sourceTopic => Source.TopicSettings
  | .sinkTopic => Sink.TopicSettings

def load : (scope : Scope) → Files → Environment → String → Except Fault scope.Result
  | .lines => LineSettings.load
  | .sourceTopic => loadSourceTopic
  | .sinkTopic => loadSinkTopic

def mark : Scope → String
  | .lines => "OPTAB_SOURCE__"
  | .sourceTopic => "OPTAB_SOURCE__KAFKA__"
  | .sinkTopic => "OPTAB_KAFKA__"

def root : Scope → List String
  | .sourceTopic => ["kafka"]
  | .lines | .sinkTopic => []

def fields : (scope : Scope) → List (Field scope.Result)
  | .lines => [
      .plain "path" asText "" LineSettings.path,
      ⟨Int, "max_line_bytes", asInteger 64, 0, (· ≤ 0), 1048576, LineSettings.limit⟩]
  | .sourceTopic => [
      .plain "brokers" asTexts [] Source.TopicSettings.brokers,
      .plain "topic" asText "" Source.TopicSettings.topic,
      .text "version" "2.8.0" Source.TopicSettings.version,
      .text "client_id" "optab" Source.TopicSettings.clientId,
      .plain "tls_enabled" asFlag false Source.TopicSettings.tls,
      .plain "sasl_user" asText "" Source.TopicSettings.user,
      .plain "sasl_pass" asText "" Source.TopicSettings.password]
  | .sinkTopic => [
      .plain "brokers" asTexts [] Sink.TopicSettings.brokers,
      .plain "topic" asText "" Sink.TopicSettings.topic,
      ⟨Int, "required_acks", asInteger 16, 0, (· = 0), -1, Sink.TopicSettings.acks⟩,
      .text "version" "2.8.0" Sink.TopicSettings.version,
      .text "client_id" "optab" Sink.TopicSettings.clientId,
      .plain "tls_enabled" asFlag false Sink.TopicSettings.tls]

def label : Scope → String
  | .lines | .sourceTopic => "source"
  | .sinkTopic => "kafka"

-- The settings of a layer in which file and environment are one.
def settle : (scope : Scope) → Layer → Except Fault scope.Result
  | .lines, layer => LineSettings.ofLayer layer
  | .sourceTopic, layer => do sourceTopicOfLayer (← block layer "kafka")
  | .sinkTopic, layer => sinkTopicOfLayer layer

theorem load_eq (scope : Scope) (files : Files) (environment : Environment) (path : String) :
    scope.load files environment path = (do
      let layer ← ofFile files path
      checkSchema scope.label layer
      scope.settle (overlay layer (ofEnvironment scope.mark scope.root environment))) := by
  cases scope <;> rfl

end Scope

section Filling

variable {σ α : Type} (layer : Layer) (settings : σ) (name : String)

end Filling

theorem fields_spelled (scope : Scope) : ∀ name ∈ scope.fields.map Field.name,
    (name ≠ "" ∧ ¬ ['_', '_'] <:+: name.toList) ∧ (scope.root ++ [name]).head? ≠ some "schema_version" ∧
      ∀ other ∈ scope.fields.map Field.name, name ≠ other → sameLetters name other = false := by
  cases scope <;> decide +kernel

theorem fields_single (scope : Scope) (name : String) (known : name ∈ scope.fields.map Field.name) : Single name := by
  obtain ⟨⟨filled, plain⟩, _⟩ := fields_spelled scope name known
  exact ⟨filled, plain⟩

theorem fields_apart (scope : Scope) : ∀ first ∈ scope.fields.map Field.name,
    ∀ second ∈ scope.fields.map Field.name, first ≠ second → sameLetters first second = false :=
  fun first known => (fields_spelled scope first known).2.2

structure Scope.Names (scope : Scope) (names : List (String × String)) : Prop where
  known : ∀ entry ∈ names, entry.1 ∈ scope.fields.map Field.name
  distinct : (names.map Prod.fst).Nodup

theorem Scope.Names.none (scope : Scope) : scope.Names [] := ⟨nofun, List.nodup_nil⟩

theorem find_named {scope : Scope} {entries : List (String × String)} (names : scope.Names entries) (layer : Layer)
    (name : String) (known : name ∈ scope.fields.map Field.name) :
    find (overwritten [] entries layer) name = merged entries layer name :=
  find_overwritten entries name layer names.distinct fun entry inside =>
    fields_apart scope entry.1 (names.known entry inside) name known

section Layers

variable {scope : Scope} {environment : Environment} (names : scope.Names (named scope.mark environment))

include names

theorem overlay_environment (layer : Layer) :
    overlay layer (ofEnvironment scope.mark scope.root environment) =
      overwritten scope.root (named scope.mark environment) layer := by
  have single : ∀ entry ∈ named scope.mark environment, Single entry.1 :=
    fun entry member => fields_single scope entry.1 (names.known entry member)
  rw [environment_overwritten _ _ environment single, overlay_overwritten _ _ layer names.distinct]

theorem load_overwritten (files : Files) (path : String) (layer : Layer) (file : ofFile files path = .ok layer) :
    scope.load files environment path = (do
      checkSchema scope.label layer
      scope.settle (overwritten scope.root (named scope.mark environment) layer)) := by
  rw [Scope.load_eq, file, ← overlay_environment names layer]
  rfl

end Layers

theorem Field.Filled.same {σ : Type} {field : Field σ} {value : Option Value} {first second : σ}
    {one other : field.Held} (filled : field.Filled value first one) (again : field.Filled value second other) :
    field.held first = field.held second := by
  have readings : one = other := Option.some.inj (filled.read.symm.trans again.read)
  subst readings
  by_cases vacant : field.vacant one
  · rw [filled.default vacant, again.default vacant]
  · rw [filled.given vacant, again.given vacant]

def settingsFile (content : String) : Files := ⟨[(["s"], ascii content)], []⟩

theorem settings_file_found (content : String) : (settingsFile content).read "s" = .ok (ascii content) := by
  have names : Files.names "s" = ["s"] := Text.split_on_unmarked "/" "s" (by decide) (by decide)
  have filled : ¬ "s".isEmpty = true := by decide
  have ended : ¬ "s".contains Files.zero = true := by
    rw [String.contains_char_eq]
    decide
  have short : ¬ Files.longestPath < "s".utf8ByteSize := by decide
  have relative : Files.start "s" = [] := by decide +kernel
  rw [Files.read, Files.lookup, if_neg filled, if_neg ended, if_neg short, relative, names]
  rfl

theorem settings_file_read (content : String) (layer : Layer)
    (document : (Yaml.Node.read (ascii content)).bind Yaml.Node.table? = some layer) :
    ofFile (settingsFile content) "s" = .ok layer := by
  have names : Files.names "s" = ["s"] := Text.split_on_unmarked "/" "s" (by decide) (by decide)
  have clean : Path.clean "s" = "s" := by
    rw [Path.clean, ← Files.names, names]
    decide +kernel
  rw [ofFile, clean, settings_file_found]
  simp only [document]
  rfl

-- A number or a text, under its name and nothing beside it: what of a file can be compared.
def plainSetting? : Layer → Option (String × (Int ⊕ String))
  | [(name, .whole number)] => some (name, .inl number)
  | [(name, .text text)] => some (name, .inr text)
  | _ => none

theorem plain_setting_read (content name : String) (plain : Int ⊕ String)
    (written : ((Yaml.Node.read (ascii content)).bind Yaml.Node.table?).bind plainSetting? = some (name, plain)) :
    ofFile (settingsFile content) "s" = .ok [(name, plain.elim .whole .text)] := by
  obtain ⟨layer, document, single⟩ := Option.bind_eq_some_iff.mp written
  refine settings_file_read content _ (document.trans (congrArg some ?_))
  unfold plainSetting? at single
  split at single
  · obtain ⟨rfl, rfl⟩ := Prod.mk.inj (Option.some.inj single)
    rfl
  · obtain ⟨rfl, rfl⟩ := Prod.mk.inj (Option.some.inj single)
    rfl
  · cases single

end OpcodeTable.Settings
