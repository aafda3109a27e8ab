import Sluice.Duration
import Sluice.Pattern
import Sluice.Settings.Draft
import Sluice.Settings.Policy
/-!
# Settings

Settings that have been checked, and the check. `Draft.validate` goes through a draft in a fixed
order and stops at the first thing that is wrong; every such failure is a `RelayError.config`. The
function that a definition models is named in brackets.
-/
namespace Sluice

/-- Settings the relay can run on (`ConsumerSettings`). -/
structure Settings where
  brokers : List String
  group : String
  pattern : Pattern
  topicTag : Option String
  maxUndelivered : Nat
  maxMessageLen : Nat
  maxProcessingTime : Duration
  offset : OffsetPolicy
  balance : BalanceStrategy
  refreshInterval : Duration
  fetchSize : Option Nat
  reconnectDelay : Duration
  channelSize : Nat
  clientId : String
  metadataTimeout : Duration
  properties : Keyed String
  layout : Payload.Layout

namespace Settings

/-- The brokers in one text, as a client wants them (`bootstrap_servers`). -/
def bootstrapServers (s : Settings) : String := ",".intercalate s.brokers

/-- The client properties that may be set freely. -/
def allowedProperties : List String := [
  "security.protocol", "sasl.mechanism", "sasl.mechanisms", "sasl.username", "sasl.password",
  "ssl.ca.location", "ssl.certificate.location", "ssl.key.location", "ssl.key.password",
  "ssl.endpoint.identification.algorithm", "fetch.min.bytes", "fetch.wait.max.ms",
  "fetch.max.bytes", "fetch.error.backoff.ms", "fetch.message.max.bytes", "session.timeout.ms",
  "heartbeat.interval.ms", "max.poll.interval.ms", "auto.commit.interval.ms",
  "request.timeout.ms", "metadata.max.age.ms", "topic.metadata.refresh.interval.ms",
  "socket.receive.buffer.bytes", "socket.send.buffer.bytes", "queued.min.messages",
  "queued.max.messages.kbytes", "reconnect.backoff.ms", "reconnect.backoff.max.ms",
  "connections.max.idle.ms", "socket.keepalive.enable", "statistics.interval.ms"]

/-- The time a claim may take with a message when the settings say nought. -/
def defaultMaxProcessingTime : Duration := Duration.ofMillis 100

end Settings

namespace Draft

/-- A failure of the check (`config_error`). -/
def fail {α : Type} (text : String) : Except RelayError α := .error (.config text)

/-- Fails unless a condition holds. -/
def require (condition : Bool) (text : String) : Except RelayError Unit :=
  if condition then .ok () else fail text

/-- The duration of the setting `name` (`parse_duration`, its failure under that name). -/
def duration (name text : String) : Except RelayError Duration :=
  match Duration.parse text with
  | .ok d => .ok d
  | .error e => fail ("invalid " ++ name ++ ": " ++ e.message)

/-- The brokers without white space around them and without the empty ones. -/
def trimmedBrokers (brokers : List String) : List String :=
  (brokers.map Text.trim).filter fun b => b ≠ ""

/-- The first pattern. A text that is none is refused with the library's reason. -/
def topicPattern (library : Pattern.Library) (topics : List String) : Except RelayError Pattern :=
  match topics with
  | [] => fail "At least one topic pattern is required"
  | t :: _ =>
    match library.parse t with
    | .ok p => .ok p
    | .error reason =>
      fail ("invalid topic pattern " ++ Text.quoted t ++ (reason.map (": " ++ ·)).getD "")

/-- Fails at the first property that may not be set. -/
def checkProperties : Keyed String → Except RelayError Unit
  | [] => .ok ()
  | (k, _) :: rest =>
    if Settings.allowedProperties.contains k then checkProperties rest
    else fail ("Disallowed Kafka property '" ++ k ++ "'. Allowed properties: " ++
      Text.quotedList Settings.allowedProperties)

/-- The refresh interval, which has to be given. -/
def requiredInterval (text : Option String) : Except RelayError Duration :=
  match text with
  | none => fail "topics_refresh_interval is required"
  | some t => duration "topics_refresh_interval" t

/-- Checks a draft (`validate`). Patterns are read by a library. -/
def validate (d : Draft) (library : Pattern.Library := .standard) : Except RelayError Settings := do
  let brokers := trimmedBrokers d.brokers
  require (!brokers.isEmpty) "Brokers cannot be empty"
  let pattern ← topicPattern library d.topics
  let processing ← duration "max_processing_time" d.maxProcessingTime
  let offset ← OffsetPolicy.parse d.offset
  let balance ← BalanceStrategy.parse d.balance
  let refresh ← requiredInterval d.refreshInterval
  require (refresh ≠ .zero) "topics_refresh_interval must be greater than 0"
  let reconnect ← duration "reconnect_delay" d.reconnectDelay
  let metadata ← duration "metadata_timeout" d.metadataTimeout
  require (metadata ≠ .zero) "metadata_timeout must be greater than 0"
  require (d.channelSize ≠ 0) "Channel buffer size must be greater than 0"
  checkProperties d.properties
  return {
    brokers
    group := if Text.isBlankText d.group then defaultGroup else d.group
    pattern
    topicTag := d.topicTag.filter fun t => t ≠ ""
    maxUndelivered := if d.maxUndelivered = 0 then defaultMaxUndelivered else d.maxUndelivered
    maxMessageLen := d.maxMessageLen
    maxProcessingTime := if processing = .zero then Settings.defaultMaxProcessingTime else processing
    offset
    balance
    refreshInterval := refresh
    fetchSize := if d.fetchSize = 0 then none else some d.fetchSize
    reconnectDelay := reconnect
    channelSize := d.channelSize
    clientId := d.clientId
    metadataTimeout := metadata
    properties := d.properties
    layout := d.layout }

end Draft
end Sluice
