import Sluice.Message
import Sluice.TopicSelection
/-!
# A broker in memory

A catalog of topics, a log for every partition, clients that list the catalog, and the groups that
were joined. Failures are scripted: a counter per kind says how many of the next calls fail.

The log of a partition only grows, and the offset of a message is its place in the log.
-/
namespace Sluice

/-- How many of the next calls of each kind fail (`fail_next_list_topics` and its like, and
`inject_claim_error`). -/
structure Faults where
  list : Nat
  connect : Nat
  consume : Nat
  claim : Nat
  deriving DecidableEq, Repr

/-- How often each kind of call was made. -/
structure CallCounts where
  metadataConnects : Nat
  metadataCloses : Nat
  groupConnects : Nat
  groupCloses : Nat
  consumes : Nat
  deriving DecidableEq, Repr

/-- Where the stream of a group's errors is. -/
inductive ErrorStream where
  /-- The group has it still. -/
  | kept
  /-- Somebody has taken it. -/
  | taken
  /-- It was thrown away: the group has no more errors to tell. -/
  | dropped
  deriving DecidableEq, Repr

/-- A membership in the consumer group (`FakeConsumerGroup`). -/
structure Group where
  closed : Bool
  stream : ErrorStream
  /-- Errors that nobody has read. -/
  errors : List RelayError
  deriving DecidableEq, Repr

namespace Group

/-- A group that was just joined. -/
def fresh : Group := ⟨false, .kept, []⟩

/-- How many errors wait at most; more are lost. -/
def errorLimit : Nat := 64

end Group

/-- A broker (`FakeBroker`). -/
structure Broker where
  /-- The topics and their numbers of partitions, oldest first. -/
  catalog : List (String × Nat)
  /-- The messages of every partition that was produced to. -/
  logs : List (Partition × List Message)
  faults : Faults
  calls : CallCounts
  /-- The clients that list topics; whether each is open. -/
  clients : List Bool
  groups : List Group
  deriving DecidableEq, Repr

namespace Broker

/-- A broker without topics. -/
def empty : Broker := ⟨[], [], ⟨0, 0, 0, 0⟩, ⟨0, 0, 0, 0, 0⟩, [], []⟩

/-- The names of all topics. -/
def topics (b : Broker) : List String := b.catalog.map Prod.fst

/-- Adds a topic with at least one partition, unless there is one of that name (`create_topic`). -/
def createTopic (b : Broker) (name : String) (partitions : Nat) : Broker :=
  if b.topics.contains name then b
  else { b with catalog := b.catalog ++ [(name, max 1 partitions)] }

/-- Takes a topic out of the catalog (`delete_topic`). Its logs stay. -/
def deleteTopic (b : Broker) (name : String) : Broker :=
  { b with catalog := b.catalog.filter fun t => t.1 ≠ name }

/-- The partitions of a topic. -/
def partitions (b : Broker) (name : String) : List Partition :=
  match b.catalog.lookup name with
  | none => []
  | some n => (List.range n).map fun (i : Nat) => ⟨name, i⟩

/-- The log of a partition. -/
def log (b : Broker) (p : Partition) : List Message := (b.logs.lookup p).getD []

/-- Appends a message to the log of a partition: its offset, and the broker (`produce`). -/
def append (b : Broker) (p : Partition) (payload : List UInt8) : Nat × Broker :=
  let log := b.log p
  let n := log.length
  let m := Message.plain p.topic p.index n payload
  let put (e : Partition × List Message) := if e.1 = p then (p, e.2 ++ [m]) else e
  (n, { b with
    logs := if b.logs.any fun e => e.1 = p then b.logs.map put else b.logs ++ [(p, [m])] })

/-! ## Topic lists -/

/-- Reads the catalog once. -/
def list (b : Broker) : Except RelayError (List String) × Broker :=
  if b.faults.list > 0 then
    (.error (.metadata "injected metadata failure"),
      { b with faults := { b.faults with list := b.faults.list - 1 } })
  else (.ok b.topics, b)

/-- Opens a client that lists topics: its number, and the broker. -/
def openClient (b : Broker) : Nat × Broker :=
  (b.clients.length,
    { b with
      clients := b.clients ++ [true]
      calls := { b.calls with metadataConnects := b.calls.metadataConnects + 1 } })

/-- Closes a client, once. -/
def closeClient (b : Broker) (client : Nat) : Broker :=
  if b.clients.getD client false then
    { b with
      clients := b.clients.set client false
      calls := { b.calls with metadataCloses := b.calls.metadataCloses + 1 } }
  else b

/-- Lists the topics through a client (`list_topics`). -/
def listWith (b : Broker) (client : Nat) : Except RelayError (List String) × Broker :=
  if b.clients.getD client false then b.list else (.error (.metadata "client closed"), b)

/-- The topics that match a pattern (`select`). The client is closed whether or not the list could be
read. -/
def select (b : Broker) (p : Pattern) : Except RelayError (List String) × Broker :=
  let (client, b) := b.openClient
  let (listed, b) := b.listWith client
  (listed.map p.select, b.closeClient client)

/-! ## Groups -/

/-- Joins the group: the number of the membership, and the broker (`connect`). -/
def join (b : Broker) : Except RelayError Nat × Broker :=
  if b.faults.connect > 0 then
    (.error (.connection "injected connection failure"),
      { b with faults := { b.faults with connect := b.faults.connect - 1 } })
  else
    (.ok b.groups.length,
      { b with
        groups := b.groups ++ [.fresh]
        calls := { b.calls with groupConnects := b.calls.groupConnects + 1 } })

/-- Whether a group has been closed. -/
def isClosed (b : Broker) (g : Nat) : Bool := (b.groups[g]?.map Group.closed).getD true

/-- Changes a group. -/
def modifyGroup (b : Broker) (g : Nat) (f : Group → Group) : Broker :=
  { b with groups := b.groups.modify g f }

/-- Leaves a group, once (`close`). -/
def leave (b : Broker) (g : Nat) : Broker :=
  if b.isClosed g then b
  else
    { b.modifyGroup g fun x => { x with closed := true } with
      calls := { b.calls with groupCloses := b.calls.groupCloses + 1 } }

/-- Tells the newest group of an error: whether it was taken, and the broker (`push_group_error`). -/
def groupError (b : Broker) (text : String) : Bool × Broker :=
  match b.groups.getLast? with
  | none => (false, b)
  | some g =>
    if g.stream ≠ .dropped ∧ g.errors.length < Group.errorLimit then
      (true, b.modifyGroup (b.groups.length - 1) fun g =>
        { g with errors := g.errors ++ [.connection text] })
    else (false, b)

/-- Takes the stream of a group's errors: whether it was there, and the broker (`errors`). -/
def takeStream (b : Broker) (g : Nat) : Bool × Broker :=
  match b.groups[g]?.map Group.stream with
  | some .kept => (true, b.modifyGroup g fun x => { x with stream := .taken })
  | _ => (false, b)

/-- Throws away the stream of a group's errors, with what is in it. -/
def dropStream (b : Broker) (g : Nat) : Broker :=
  b.modifyGroup g fun x => { x with stream := .dropped, errors := [] }

/-- The errors that wait in a group, and the broker without them. -/
def readErrors (b : Broker) (g : Nat) : List RelayError × Broker :=
  ((b.groups[g]?.map Group.errors).getD [], b.modifyGroup g fun x => { x with errors := [] })

/-- Counts a consume call: whether it may go on, and the broker (`consume`, its first steps). -/
def beginConsume (b : Broker) : Bool × Broker :=
  let b := { b with calls := { b.calls with consumes := b.calls.consumes + 1 } }
  if b.faults.consume > 0 then
    (false, { b with faults := { b.faults with consume := b.faults.consume - 1 } })
  else (true, b)

/-- Uses up one scripted claim failure, if there is one (`take_one`). -/
def takeClaimFault (b : Broker) : Bool × Broker :=
  if b.faults.claim > 0 then
    (true, { b with faults := { b.faults with claim := b.faults.claim - 1 } })
  else (false, b)

end Broker
end Sluice
