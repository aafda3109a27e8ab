/-!
# Entries that wait for a result

A map from the numbers of groups to what waits for their results. Room for all entries of a session
is made at once, when the session is made.

* `get?_store`, `get?_remove`: what is found after an entry was stored or taken out.
-/
namespace Sluice

/-- The entries that wait, by the number of their group; every number at most once. -/
abbrev Pending (α : Type) := List (Nat × α)

namespace Pending
variable {α : Type}

/-- The most entries that room can be made for. -/
def limit : Nat := 31525197391593472

/-- Whether room can be made for so many entries. -/
def fits (n : Nat) : Bool := n ≤ limit

/-- The entry under a number. -/
def get? (p : Pending α) (id : Nat) : Option α := p.lookup id

/-- Takes out the entry under a number. -/
def remove (p : Pending α) (id : Nat) : Pending α := p.filter fun e => e.1 ≠ id

/-- Stores an entry; the one it displaces is returned. -/
def store (p : Pending α) (id : Nat) (e : α) : Option α × Pending α :=
  (p.get? id, p.remove id ++ [(id, e)])

theorem get?_remove (p : Pending α) (id k : Nat) :
    (p.remove id).get? k = if k = id then none else p.get? k := by
  induction p with
  | nil => simp [remove, get?]
  | cons e p ih =>
    obtain ⟨n, a⟩ := e
    simp only [remove, get?] at ih ⊢
    by_cases hn : n = id <;> by_cases hk : k = n <;> grind

theorem get?_store (p : Pending α) (id k : Nat) (e : α) :
    (p.store id e).2.get? k = if k = id then some e else p.get? k := by
  have h := get?_remove p id k
  simp only [store, get?] at h ⊢
  rw [List.lookup_append, h]
  by_cases hk : k = id
  · simp [hk]
  · have hb : (k == id) = false := by simp [hk]
    simp [hk, hb, List.lookup_cons]

end Pending
end Sluice
