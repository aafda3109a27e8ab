import Sluice.Schedule
import Sluice.Window
/-!
# Waiting for slots

A window together with the calls that wait for one of its slots. Each call carries a token; once
its token is cancelled a call ends without a slot, even if one is free or has been granted to it.
The slots handed out are numbered in that order.
-/
namespace Sluice

/-- How a waiting call stands. -/
inductive Call where
  /-- It has not run yet. -/
  | fresh
  /-- It stands in line. -/
  | queued
  /-- It has ended with the slot of this number. -/
  | slot (n : Nat)
  /-- It has ended because its token was cancelled. -/
  | cancelled
  /-- It was dropped while it waited. -/
  | abandoned
  deriving DecidableEq, Repr

/-- A window and its calls. Calls are numbered from nought in the order they were started. -/
structure Gate where
  window : Window
  /-- The tokens that have been cancelled. -/
  cancelled : List Nat
  /-- Each call's token and state. -/
  calls : List (Nat × Call)
  /-- Of each slot handed out, whether the caller still has it. -/
  slots : List Bool
  /-- The calls that have been woken. -/
  line : List Nat
  deriving DecidableEq, Repr

namespace Gate

/-- A gate over a fresh window. -/
def ofCapacity (n : Nat) : Gate := ⟨Window.ofCapacity n, [], [], [], []⟩

/-- Wakes the call that a slot was granted to. -/
def wakeGranted (g : Gate) (who : Option Nat) : Gate :=
  match who with
  | none => g
  | some i => { g with line := Schedule.wake i g.line }

/-- Sets the state of a call. -/
def setCall (g : Gate) (i : Nat) (c : Call) : Gate :=
  { g with calls := g.calls.modify i fun p => (p.1, c) }

/-- Whether a token has been cancelled. -/
def isCancelled (g : Gate) (token : Nat) : Bool := g.cancelled.contains token

/-- Hands the slot just taken to a call. -/
def finish (g : Gate) (i : Nat) (w : Window) : Gate :=
  { g with window := w, slots := g.slots ++ [true] }.setCall i (.slot g.slots.length)

/-- Takes a call out of the line for good. -/
def depart (g : Gate) (i : Nat) (c : Call) : Gate :=
  let (who, w) := g.window.leave i
  ({ g with window := w }.setCall i c).wakeGranted who

/-- The next move of a call (`acquire`). -/
def step (i : Nat) (g : Gate) : Option Gate :=
  match g.calls[i]? with
  | some (token, .fresh) =>
    if g.isCancelled token then some (g.setCall i .cancelled)
    else
      match g.window.acquire i with
      | (true, w) => some (g.finish i w)
      | (false, w) => some ({ g with window := w }.setCall i .queued)
  | some (token, .queued) =>
    if g.isCancelled token then some (g.depart i .cancelled)
    else (g.window.take i).map (g.finish i)
  | _ => none

/-- The first of the woken calls. -/
def next (g : Gate) : Option (Nat × Gate) :=
  match g.line with
  | [] => none
  | i :: rest => some (i, { g with line := rest })

/-- Lets every woken call run. -/
def settle (g : Gate) : Gate := Schedule.settle step next Schedule.fuel g

/-- Starts a call. -/
def start (g : Gate) (token : Nat) : Gate :=
  { g with calls := g.calls ++ [(token, .fresh)], line := Schedule.wake g.calls.length g.line }

/-- Takes a free slot without waiting (`try_acquire`). -/
def tryAcquire (g : Gate) : Option Nat × Gate :=
  match g.window.tryAcquire with
  | none => (none, g)
  | some w => (some g.slots.length, { g with window := w, slots := g.slots ++ [true] })

/-- Whether the caller has a slot. -/
def has (g : Gate) (slot : Nat) : Bool := g.slots.getD slot false

/-- Takes a slot out of the caller's hands, without giving it back to the window. -/
def handOver (g : Gate) (slot : Nat) : Gate := { g with slots := g.slots.set slot false }

/-- Gives a slot in use back to the window. -/
def giveBack (g : Gate) : Gate :=
  let (who, w) := g.window.release
  { g with window := w }.wakeGranted who

/-- Gives the caller's slot back (`Slot.release`). -/
def release (g : Gate) (slot : Nat) : Gate := (g.handOver slot).giveBack

/-- The calls of a token that stand in line, in the order they came. -/
def queuedOn (g : Gate) (token : Nat) : List Nat :=
  (g.window.granted ++ g.window.waiting).filter fun i => g.calls[i]? == some (token, .queued)

/-- Cancels a token. -/
def cancel (g : Gate) (token : Nat) : Gate :=
  if g.isCancelled token then g
  else
    { g with
      cancelled := token :: g.cancelled
      line := Schedule.wakeAll (g.queuedOn token) g.line }

/-- Drops a call that has not ended. -/
def abandon (g : Gate) (i : Nat) : Gate :=
  match g.calls[i]? with
  | some (_, .fresh) => g.setCall i .abandoned
  | some (_, .queued) => g.depart i .abandoned
  | _ => g

/-- What can be done to a gate from outside. -/
inductive Event where
  | start (token : Nat)
  | tryAcquire
  | release (slot : Nat)
  | cancel (token : Nat)
  | abandon (call : Nat)
  deriving DecidableEq, Repr

/-- One event. A slot that the caller does not have cannot be given back. -/
def apply (g : Gate) : Event → Gate
  | .start token => g.start token
  | .tryAcquire => g.tryAcquire.2
  | .release slot => if g.has slot then g.release slot else g
  | .cancel token => g.cancel token
  | .abandon call => g.abandon call

/-- The gates that a window of capacity `n` can come to, the calls moving in any order. -/
inductive Reachable (n : Nat) : Gate → Prop where
  | start : Reachable n (ofCapacity n)
  | event {g : Gate} (e : Event) : Reachable n g → Reachable n (g.apply e)
  | move {g h : Gate} (i : Nat) : Reachable n g → g.step i = some h → Reachable n h

end Gate
end Sluice
