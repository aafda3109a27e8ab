import Sluice.Error
import Sluice.Text.Blank
import Sluice.Text.Quoted
/-!
# Policies by name

Where a new consumer group starts to read, and how its partitions are spread. Names are compared
without regard to case and to the white space around them; an empty one selects the default.
-/
namespace Sluice

/-- Where a consumer group without a committed offset starts (`OffsetPolicy`). -/
inductive OffsetPolicy where
  | oldest
  | newest
  deriving DecidableEq, Repr

namespace OffsetPolicy

/-- The policy of this name. -/
def ofName? (name : String) : Option OffsetPolicy :=
  match name with
  | "oldest" => some .oldest
  | "" => some .oldest
  | "newest" => some .newest
  | _ => none

/-- Reads a policy (`OffsetPolicy.parse`). -/
def parse (value : String) : Except RelayError OffsetPolicy :=
  match ofName? (Text.lowerText (Text.trim value)) with
  | some p => .ok p
  | none => .error (.config ("invalid offset " ++ Text.quoted value))

/-- The client property that stands for a policy (`as_auto_offset_reset`). -/
def reset : OffsetPolicy → String
  | .oldest => "earliest"
  | .newest => "latest"

end OffsetPolicy

/-- How partitions are spread across the members of a group (`BalanceStrategy`). -/
inductive BalanceStrategy where
  | range
  | roundRobin
  | sticky
  deriving DecidableEq, Repr

namespace BalanceStrategy

/-- The strategy of this name. -/
def ofName? (name : String) : Option BalanceStrategy :=
  match name with
  | "range" => some .range
  | "" => some .range
  | "roundrobin" => some .roundRobin
  | "sticky" => some .sticky
  | _ => none

/-- Reads a strategy (`BalanceStrategy.parse`). -/
def parse (value : String) : Except RelayError BalanceStrategy :=
  match ofName? (Text.lowerText (Text.trim value)) with
  | some s => .ok s
  | none => .error (.config ("invalid balance strategy " ++ Text.quoted value))

/-- The client property that stands for a strategy (`as_assignment_strategy`). -/
def assignment : BalanceStrategy → String
  | .range => "range"
  | .roundRobin => "roundrobin"
  | .sticky => "cooperative-sticky"

end BalanceStrategy
end Sluice
