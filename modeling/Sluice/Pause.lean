/-!
# Pauses

A pause lasts its full length unless it is cancelled first. Cancellation wins only if it comes
strictly earlier than the end.
-/
namespace Sluice.Pause

/-- How a pause ended. -/
structure Outcome where
  completed : Bool
  /-- How long it lasted, in milliseconds. -/
  elapsed : Nat
  deriving DecidableEq, Repr

/-- A pause of `length` milliseconds that is cancelled at a moment after its start, or was cancelled
before it (a negative moment): `sleep_or_cancelled`. -/
def run (length : Nat) (cancelAt : Option Int) : Outcome :=
  match cancelAt with
  | none => ⟨true, length⟩
  | some n =>
    if n < 0 then ⟨false, 0⟩
    else if n < length then ⟨false, n.toNat⟩
    else ⟨true, length⟩

end Sluice.Pause
