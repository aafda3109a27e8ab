/-!
# Powers of two and ten

The bases in which machine words and decimal numbers are measured.
-/
namespace Sluice

/-- Two to the power of `n`. -/
def pow2 (n : Nat) : Nat := Nat.pow 2 n

/-- Ten to the power of `n`. -/
def pow10 (n : Nat) : Nat := Nat.pow 10 n

theorem pow10_pos (n : Nat) : 0 < pow10 n := Nat.pow_pos (by decide)

end Sluice
