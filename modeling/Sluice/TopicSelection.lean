import Sluice.Settings
/-!
# Topic selection

Which topics of a catalog the relay reads: those that match the pattern of the settings, in the
order of the catalog.
-/
namespace Sluice

/-- The topics of a catalog that match a pattern (`filter_topics`). -/
def Pattern.select (p : Pattern) (catalog : List String) : List String :=
  catalog.filter p.isMatch

theorem Pattern.mem_select {p : Pattern} {catalog : List String} {topic : String} :
    topic ∈ p.select catalog ↔ topic ∈ catalog ∧ p.isMatch topic = true := by
  simp [Pattern.select]

end Sluice
