import OpcodeTable.Settings.Loose
import OpcodeTable.Sink.Topic
import OpcodeTable.Source.Topic

set_option autoImplicit false

namespace OpcodeTable.Settings

-- The block of a layer under a name. A point in time has no settings in it.
def block (layer : Layer) (name : String) : Except Fault Layer :=
  match layer.lookup name with
  | none | some .null | some (.time _) => .ok []
  | some (.table entries) => .ok entries
  | some _ => .error .undecodable

def sourceTopicOfLayer (layer : Layer) : Except Fault Source.TopicSettings := do
  let brokers ← read asTexts [] layer "brokers"
  let topic ← read asText "" layer "topic"
  let version ← read asText "" layer "version"
  let clientId ← read asText "" layer "client_id"
  let tls ← read asFlag false layer "tls_enabled"
  let user ← read asText "" layer "sasl_user"
  let password ← read asText "" layer "sasl_pass"
  if brokers.isEmpty || topic == "" then .error (.plain "kafka source needs brokers and topic")
  else return ⟨brokers, topic, orDefault defaultVersion version, orDefault defaultClientId clientId,
    tls, user, password⟩

def sourceTopicEnvironment (environment : Environment) : Layer :=
  ofEnvironment "OPTAB_SOURCE__KAFKA__" ["kafka"] environment

def loadSourceTopic (files : Files) (environment : Environment) (path : String) :
    Except Fault Source.TopicSettings := do
  let layer ← ofFile files path
  checkSchema "source" layer
  sourceTopicOfLayer (← block (overlay layer (sourceTopicEnvironment environment)) "kafka")

def effectiveAcks (setting : Int) : Int := if setting == 0 then -1 else setting

def sinkTopicOfLayer (layer : Layer) : Except Fault Sink.TopicSettings := do
  let brokers ← read asTexts [] layer "brokers"
  let topic ← read asText "" layer "topic"
  let acks ← read (asInteger 16) 0 layer "required_acks"
  let version ← read asText "" layer "version"
  let clientId ← read asText "" layer "client_id"
  let tls ← read asFlag false layer "tls_enabled"
  if brokers.isEmpty || topic == "" then .error (.plain "kafka sink needs brokers and topic")
  else return ⟨brokers, topic, effectiveAcks acks, orDefault defaultVersion version,
    orDefault defaultClientId clientId, tls⟩

def sinkTopicEnvironment (environment : Environment) : Layer :=
  ofEnvironment "OPTAB_KAFKA__" [] environment

def loadSinkTopic (files : Files) (environment : Environment) (path : String) :
    Except Fault Sink.TopicSettings := do
  let layer ← ofFile files path
  checkSchema "kafka" layer
  sinkTopicOfLayer (overlay layer (sinkTopicEnvironment environment))

end OpcodeTable.Settings
