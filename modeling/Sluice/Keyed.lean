/-!
# Text keys

Finite maps with text keys, as lists of entries in ascending order of their keys (which for text is
the order of code points, and so of UTF-8 bytes). Every map has exactly one such list.

* `get?_insert`: what is found after an insertion.
* `mem_keys_insert`: which keys a map has after an insertion.
-/
namespace Sluice

/-- The entries of a map with text keys. -/
abbrev Keyed (α : Type) := List (String × α)

namespace Keyed
variable {α : Type}

/-- The value under a key. -/
def get? (key : String) : Keyed α → Option α
  | [] => none
  | (k, v) :: rest => if k = key then some v else get? key rest

/-- Puts a value under a key, in place of what was there. -/
def insert (key : String) (value : α) : Keyed α → Keyed α
  | [] => [(key, value)]
  | (k, v) :: rest =>
    if key = k then (key, value) :: rest
    else if key < k then (key, value) :: (k, v) :: rest
    else (k, v) :: insert key value rest

/-- Drops a key. -/
def erase (key : String) (m : Keyed α) : Keyed α :=
  m.filter fun e => e.1 ≠ key

/-- The map of a list of entries; of two entries with one key the later counts. -/
def ofList (entries : List (String × α)) : Keyed α :=
  entries.foldl (fun m e => insert e.1 e.2 m) []

/-- The keys in ascending order. -/
def keys (m : Keyed α) : List String := m.map Prod.fst

theorem get?_insert (key k : String) (value : α) (m : Keyed α) :
    get? k (insert key value m) = if k = key then some value else get? k m := by
  induction m with
  | nil => by_cases h : k = key <;> grind [insert, get?]
  | cons e m ih =>
    obtain ⟨k', v'⟩ := e
    simp only [insert]
    split
    · grind [get?]
    · split <;> grind [get?]

theorem mem_keys_insert (key k : String) (value : α) (m : Keyed α) :
    k ∈ keys (insert key value m) ↔ k = key ∨ k ∈ keys m := by
  induction m with
  | nil => simp [insert, keys]
  | cons e m ih =>
    obtain ⟨k', v'⟩ := e
    simp only [insert]
    split
    · next h => subst h; simp [keys]
    · split
      · simp [keys]
      · simp only [keys, List.map_cons, List.mem_cons] at ih ⊢
        rw [ih]; grind

end Keyed
end Sluice
