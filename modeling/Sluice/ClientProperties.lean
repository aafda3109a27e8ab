import Sluice.Settings
/-!
# Client properties

The properties that broker clients are opened with: `base` for a client that only lists topics, and
`group` for a member of the consumer group. Properties of the settings come after the base ones and
before those that the relay depends on.
-/
namespace Sluice.ClientProperties

/-- The properties of any client (`base_client_config`). -/
def base (s : Settings) : Keyed String :=
  s.properties.foldl (fun m e => m.insert e.1 e.2)
    (Keyed.ofList [("bootstrap.servers", s.bootstrapServers), ("client.id", s.clientId)])

/-- What the relay depends on: offsets are stored by the relay and committed by the client. -/
def managed (s : Settings) : List (String × String) :=
  [("group.id", s.group),
   ("enable.auto.commit", "true"),
   ("enable.auto.offset.store", "false"),
   ("enable.partition.eof", "false"),
   ("auto.offset.reset", s.offset.reset),
   ("partition.assignment.strategy", s.balance.assignment)] ++
  match s.fetchSize with
  | some n => [("max.partition.fetch.bytes", toString n)]
  | none => []

/-- The properties of a member of the consumer group (`group_client_config`). -/
def group (s : Settings) : Keyed String :=
  (managed s).foldl (fun m e => m.insert e.1 e.2) (base s)

end Sluice.ClientProperties
