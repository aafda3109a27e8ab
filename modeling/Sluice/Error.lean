/-!
# What can go wrong in the relay

One type for every failure the relay reports, by cause. `RelayError.message` is the only place
where a cause becomes text, and `RelayError.severity` the only place where it is weighed.
-/
namespace Sluice

/-- How bad a failure is: it cost one message, one attempt, or the whole run. -/
inductive Severity where
  | warning
  | error
  | fatal
  deriving DecidableEq, Repr

/-- A failure of the relay, by cause (`ConsumerError`). The text is the cause's own description. -/
inductive RelayError where
  /-- The settings are unusable. -/
  | config (text : String)
  /-- The broker could not be reached. -/
  | connection (text : String)
  /-- The list of topics could not be read. -/
  | metadata (text : String)
  /-- Reading from the broker failed. -/
  | consume (text : String)
  /-- A payload holds no records. -/
  | parse (text : String)
  /-- A payload of `actual` bytes is over the limit of `max` bytes. -/
  | tooLarge (actual max : Nat)
  /-- The consumer group has been closed. -/
  | groupClosed
  /-- The caller gave up before the call could finish. -/
  | cancelled
  /-- A session was used out of order. -/
  | session (text : String)
  /-- A queue between two tasks is gone. -/
  | channel (text : String)
  /-- Reading or writing a file failed. -/
  | io (text : String)
  /-- A settings document is not well formed. -/
  | yaml (text : String)
  deriving DecidableEq, Repr

namespace RelayError

/-- The text shown for a failure. -/
def message : RelayError → String
  | .config t => "Configuration error: " ++ t
  | .connection t => "Connection error: " ++ t
  | .metadata t => "Metadata error: " ++ t
  | .consume t => "Consume error: " ++ t
  | .parse t => "Parse error: " ++ t
  | .tooLarge actual max =>
    "message exceeds max_message_len (actual " ++ toString actual ++ ", max " ++ toString max ++ ")"
  | .groupClosed => "consumer group closed"
  | .cancelled => "operation cancelled"
  | .session t => "Session error: " ++ t
  | .channel t => "Channel error: " ++ t
  | .io t => "IO error: " ++ t
  | .yaml t => "YAML error: " ++ t

/-- Unusable settings end the run; a lost message or a cancelled call is only a warning
(`severity`). -/
def severity : RelayError → Severity
  | .config _ | .yaml _ => .fatal
  | .parse _ | .tooLarge .. | .cancelled => .warning
  | _ => .error

end RelayError
end Sluice
