import Sluice.Payload
/-!
# Draft settings

Settings as they are written down: nothing has been checked, durations and names are still text.
Every field has a default, so that a draft can be built up from the standard one.
-/
namespace Sluice

/-- Settings that have not been checked (`ConsumerConfig`). -/
structure Draft where
  brokers : List String
  group : String
  /-- Patterns that select topics; only the first one counts. -/
  topics : List String
  topicTag : Option String
  /-- How many messages may be read but not yet delivered; nought selects the default. -/
  maxUndelivered : Nat
  /-- The longest payload in bytes; nought means any. -/
  maxMessageLen : Nat
  maxProcessingTime : String
  offset : String
  balance : String
  refreshInterval : Option String
  /-- How much to fetch from a partition; nought leaves it to the client. -/
  fetchSize : Nat
  reconnectDelay : String
  channelSize : Nat
  clientId : String
  metadataTimeout : String
  properties : Keyed String
  layout : Payload.Layout
  deriving DecidableEq, Repr

namespace Draft

/-- The consumer group of settings that name none. -/
def defaultGroup : String := "topic_relay_consumers"

/-- How many undelivered messages settings allow that do not say. -/
def defaultMaxUndelivered : Nat := 1000

/-- The draft without any setting of its own (`ConsumerConfig.default`). -/
def standard : Draft where
  brokers := ["localhost:9092"]
  group := defaultGroup
  topics := []
  topicTag := none
  maxUndelivered := defaultMaxUndelivered
  maxMessageLen := 0
  maxProcessingTime := "100ms"
  offset := "oldest"
  balance := "range"
  refreshInterval := none
  fetchSize := 0
  reconnectDelay := "5s"
  channelSize := 256
  clientId := "topic-relay"
  metadataTimeout := "10s"
  properties := []
  layout := .standard

/-- One change to a draft: a method of `ConsumerConfigBuilder`. -/
inductive Change where
  | brokers (names : List String)
  | group (name : String)
  | topicPattern (pattern : String)
  | topicTag (tag : String)
  | maxUndelivered (n : Nat)
  | maxMessageLen (n : Nat)
  | maxProcessingTime (text : String)
  | offset (name : String)
  | balance (name : String)
  | refreshInterval (text : String)
  | fetchSize (n : Nat)
  | reconnectDelay (text : String)
  | channelSize (n : Nat)
  | clientId (name : String)
  | property (key value : String)
  | layout (l : Payload.Layout)
  deriving DecidableEq, Repr

/-- Makes a change. A pattern replaces all patterns, a property is added to the others. -/
def apply (d : Draft) : Change → Draft
  | .brokers names => { d with brokers := names }
  | .group name => { d with group := name }
  | .topicPattern p => { d with topics := [p] }
  | .topicTag tag => { d with topicTag := some tag }
  | .maxUndelivered n => { d with maxUndelivered := n }
  | .maxMessageLen n => { d with maxMessageLen := n }
  | .maxProcessingTime t => { d with maxProcessingTime := t }
  | .offset name => { d with offset := name }
  | .balance name => { d with balance := name }
  | .refreshInterval t => { d with refreshInterval := some t }
  | .fetchSize n => { d with fetchSize := n }
  | .reconnectDelay t => { d with reconnectDelay := t }
  | .channelSize n => { d with channelSize := n }
  | .clientId name => { d with clientId := name }
  | .property k v => { d with properties := d.properties.insert k v }
  | .layout l => { d with layout := l }

end Draft
end Sluice
