/-!
# Counters

What the relay counts while it runs. Every counter only goes up.
-/
namespace Sluice

/-- The counters of one run (`ConsumerMetrics`). -/
structure Metrics where
  received : Nat
  submitted : Nat
  delivered : Nat
  undelivered : Nat
  oversize : Nat
  parseFailures : Nat
  unknown : Nat
  sessions : Nat
  consumeErrors : Nat
  swaps : Nat
  deriving DecidableEq, Repr

namespace Metrics

/-- Nothing counted yet. -/
def zero : Metrics := ⟨0, 0, 0, 0, 0, 0, 0, 0, 0, 0⟩

/-- What can be counted. -/
inductive Event where
  | received
  | submitted
  | delivered
  | undelivered
  | oversize
  | parseFailure
  | unknown
  | session
  | consumeError
  | swap
  deriving DecidableEq, Repr

/-- Counts one event. -/
def count (m : Metrics) : Event → Metrics
  | .received => { m with received := m.received + 1 }
  | .submitted => { m with submitted := m.submitted + 1 }
  | .delivered => { m with delivered := m.delivered + 1 }
  | .undelivered => { m with undelivered := m.undelivered + 1 }
  | .oversize => { m with oversize := m.oversize + 1 }
  | .parseFailure => { m with parseFailures := m.parseFailures + 1 }
  | .unknown => { m with unknown := m.unknown + 1 }
  | .session => { m with sessions := m.sessions + 1 }
  | .consumeError => { m with consumeErrors := m.consumeErrors + 1 }
  | .swap => { m with swaps := m.swaps + 1 }

end Metrics
end Sluice
