import Sluice.Payload
import Sluice.Proofs.Json.Values
import Sluice.Proofs.Keyed
/-!
# How an object is divided

The name, the time and the tags are taken out of an object one after the other, and what is left are
the fields. A key that is named twice is taken where it comes first, so what the second place finds
depends on the first. `Divided` says what comes of it without taking anything away: each key of an
object goes to one place.

* `Tells`, `Shown`, `isNested`: the values that tell a time, the values that a tag can have, and those
  it cannot have.
* `takeTags_ok`, `takeTags_error`: what the tag keys take, by induction on them.
* `record_ok`, `record_error_iff`: one object as a whole; `Divided.unique`: there is one such record.
* `toOption_record`, `record_of_repeated`: the order of the tag keys, and keys that are named again.
* `recordsOf_cases`: a list of objects.
* `divides`: all of this, for every layout and every object.
-/
namespace Sluice

namespace Keyed
variable {α : Type}

theorem get?_filter (p : String → Bool) (m : Keyed α) (key : String) :
    get? key (m.filter fun e => p e.1) = if p key then get? key m else none := by
  induction m with
  | nil => simp [get?]
  | cons e m ih =>
    obtain ⟨k, v⟩ := e
    by_cases hp : p k = true
    · rw [List.filter_cons, if_pos hp, get?, get?, ih]
      by_cases hk : k = key
      · rw [if_pos hk, if_pos hk, if_pos (hk ▸ hp)]
      · rw [if_neg hk, if_neg hk]
    · rw [List.filter_cons, if_neg hp, ih]
      by_cases hk : k = key
      · rw [if_neg (hk ▸ hp), if_neg (hk ▸ hp)]
      · rw [get?, if_neg hk]

theorem get?_erase (key other : String) (m : Keyed α) :
    get? other (m.erase key) = if other = key then none else get? other m := by
  unfold erase
  have := get?_filter (fun k => decide (k ≠ key)) m other
  simp only [decide_eq_true_iff, ne_eq, ite_not] at this
  exact this

/-- To drop a key that is not there changes nothing. -/
theorem erase_of_get?_none {key : String} {m : Keyed α} (h : get? key m = none) :
    m.erase key = m := by
  rw [get?_eq_none] at h
  refine List.filter_eq_self.mpr fun e he => decide_eq_true fun heq => h ?_
  rw [← heq]
  exact List.mem_map_of_mem he

end Keyed

namespace Payload
open Json (Value Object)

/-! ## Values -/

/-- The value `v` tells the time `t`. -/
inductive Tells : Value → Instant → Prop
  /-- A date in the exact format. -/
  | date {s : String} {t : Instant} (read : Instant.readStrict s.toList = .ok t) : Tells (.string s) t
  /-- A whole number of milliseconds since 1970, of 64 bits with the sign. -/
  | millis {n : Int} {t : Instant} (fits : n < pow2 63) (read : Instant.ofMillis? n = some t) :
    Tells (.number (.whole n)) t

/-- The text of a tag with the value `v`. -/
inductive Shown : Value → String → Prop
  | text (s : String) : Shown (.string s) s
  | number (n : Json.Number) : Shown (.number n) (String.ofList n.print)
  | yes : Shown (.bool true) "true"
  | no : Shown (.bool false) "false"

/-- Lists and objects. -/
def isNested : Value → Bool
  | .array _ | .object _ => true
  | _ => false

theorem timestamp_ok_iff {v : Value} {t : Instant} : timestamp v = .ok t ↔ Tells v t := by
  constructor
  · intro h
    unfold timestamp at h
    split at h
    · split at h
      · next read =>
        cases h
        exact .date read
      · cases h
    · dsimp only at h
      split at h
      · split at h
        · next fits =>
          split at h
          · next read =>
            cases h
            exact .millis fits read
          · cases h
        · cases h
      · cases h
    · cases h
  · rintro (read | ⟨fits, read⟩)
    · simp only [timestamp, read]
    · simp only [timestamp, if_pos fits, read]

theorem tagText_some_iff {v : Value} {text : String} :
    tagText v = .ok (some text) ↔ Shown v text := by
  constructor
  · intro h
    unfold tagText at h
    split at h
    · cases h
      exact .text _
    · cases h
      exact .number _
    · next b =>
      cases b
      · cases h
        exact .no
      · cases h
        exact .yes
    · cases h
    · cases h
  · rintro (_ | _ | _ | _) <;> rfl

theorem tagText_error_iff {v : Value} : tagText v = .error () ↔ isNested v = true := by
  cases v <;> simp [tagText, isNested]

/-! ## The tag keys -/

/-- An object holds a list or an object under a key. -/
def nestedAt (o : Object) (k : String) : Bool := (o.get? k).any isNested

/-- What is said of a tag key under which a list or an object stands. -/
def nestedMessage (k : String) (v : Value) : String :=
  "tag key '" ++ k ++ "' holds a non-scalar value: " ++ v.toText

theorem nestedAt_eq_false {o : Object} {k : String} :
    nestedAt o k = false ↔ ∀ v, o.get? k = some v → isNested v = false := by
  unfold nestedAt
  cases o.get? k <;> simp

/-- To drop a key without a list or an object changes nothing for the others. -/
theorem nestedAt_erase {o : Object} {k : String} (h : nestedAt o k = false) (other : String) :
    nestedAt (o.erase k) other = nestedAt o other := by
  unfold nestedAt
  rw [Keyed.get?_erase]
  split
  · next same =>
    subst same
    exact h.symm
  · rfl

/-- The step of a tag key without a list or an object: its entry goes, and what the tag shows comes.
No tag has the key of an entry that is left. -/
theorem takeTags_cons {k : String} {o : Object} (scalar : nestedAt o k = false) (ks : List String)
    {r : Record} (apart : ∀ k' ∈ r.tags.keys, o.get? k' = none) : ∃ tags : Keyed String,
      takeTags (k :: ks) r o = takeTags ks { r with tags } (o.erase k) ∧
      (∀ k' ∈ tags.keys, (o.erase k).get? k' = none) ∧ (r.tags.Ascending → tags.Ascending) ∧
      ∀ k' t, tags.get? k' = some t ↔
        r.tags.get? k' = some t ∨ k' = k ∧ ∃ v, o.get? k = some v ∧ Shown v t := by
  have apart' : ∀ k' ∈ r.tags.keys, (o.erase k).get? k' = none := fun k' hk' => by
    rw [Keyed.get?_erase, apart k' hk', ite_self]
  rw [takeTags]
  cases hv : o.get? k with
  | none =>
    refine ⟨r.tags, ?_, apart', id, fun k' t => by simp⟩
    rw [Keyed.erase_of_get?_none hv]
  | some v =>
    have flat : isNested v = false := nestedAt_eq_false.mp scalar v hv
    have absent : r.tags.get? k = none := by
      rw [Keyed.get?_eq_none]
      intro hk
      rw [apart k hk] at hv
      cases hv
    cases ht : tagText v with
    | error =>
      rw [tagText_error_iff.mp ht] at flat
      cases flat
    | ok shown =>
      cases shown with
      | none =>
        have hidden : ∀ t, ¬Shown v t := fun t h => by
          rw [tagText_some_iff.mpr h] at ht
          cases ht
        exact ⟨r.tags, by simp only [ht], apart', id, fun k' t => by simp [hidden]⟩
      | some text =>
        have only : ∀ t, Shown v t ↔ text = t := fun t => by
          rw [← tagText_some_iff, ht, Except.ok.injEq, Option.some.injEq]
        refine ⟨r.tags.insert k text, by simp only [ht, Record.addTag], fun k' hk' => ?_,
          fun h => h.insert k text, fun k' t => ?_⟩
        · rcases (Keyed.mem_keys_insert ..).mp hk' with rfl | hk'
          · rw [Keyed.get?_erase, if_pos rfl]
          · exact apart' k' hk'
        · rw [Keyed.get?_insert]
          by_cases same : k' = k
          · subst same
            simp [absent, only]
          · simp [same]

/-- What the tag keys take, if none of them has a list or an object. -/
theorem takeTags_ok {keys : List String} {r : Record} {o : Object}
    (scalar : ∀ k ∈ keys, nestedAt o k = false) (apart : ∀ k ∈ r.tags.keys, o.get? k = none) :
    ∃ tags : Keyed String,
      takeTags keys r o = .ok ({ r with tags }, o.filter fun e => decide (e.1 ∉ keys)) ∧
      (r.tags.Ascending → tags.Ascending) ∧
      ∀ k t, tags.get? k = some t ↔
        r.tags.get? k = some t ∨ k ∈ keys ∧ ∃ v, o.get? k = some v ∧ Shown v t := by
  induction keys generalizing r o with
  | nil =>
    have whole : o.filter (fun e => decide (e.1 ∉ [])) = o := List.filter_eq_self.mpr (by simp)
    exact ⟨r.tags, by rw [whole]; rfl, id, fun k t => by simp⟩
  | cons k ks ih =>
    have flat : nestedAt o k = false := scalar k List.mem_cons_self
    obtain ⟨tags, step, apart', ascending, shown⟩ := takeTags_cons flat ks apart
    have scalar' : ∀ k' ∈ ks, nestedAt (o.erase k) k' = false := fun k' hk' => by
      rw [nestedAt_erase flat]
      exact scalar k' (List.mem_cons_of_mem k hk')
    obtain ⟨tags', run, ascending', shown'⟩ := ih (r := { r with tags }) scalar' apart'
    refine ⟨tags', ?_, fun h => ascending' (ascending h), fun k' t => ?_⟩
    · rw [step, run, Keyed.erase, List.filter_filter]
      simp [Bool.and_comm]
    · rw [shown', shown, Keyed.get?_erase]
      by_cases same : k' = k <;> simp [same]

/-- The first tag key with a list or an object is reported. -/
theorem takeTags_error {keys : List String} {r : Record} {o : Object}
    (apart : ∀ k ∈ r.tags.keys, o.get? k = none) {k : String} {v : Value}
    (first : keys.find? (nestedAt o) = some k) (found : o.get? k = some v) :
    takeTags keys r o = .error (nestedMessage k v) := by
  induction keys generalizing r o with
  | nil => cases first
  | cons k' ks ih =>
    cases nested : nestedAt o k' with
    | true =>
      rw [List.find?_cons_of_pos nested] at first
      cases first
      rw [nestedAt, found] at nested
      simp only [takeTags, found, tagText_error_iff.mpr nested, nestedMessage]
    | false =>
      rw [List.find?_cons_of_neg (by simp [nested])] at first
      obtain ⟨tags, step, apart', -⟩ := takeTags_cons nested ks apart
      have same : nestedAt (o.erase k') = nestedAt o := funext (nestedAt_erase nested)
      have other : k ≠ k' := fun h => by
        have := List.find?_some first
        rw [h, nested] at this
        cases this
      rw [step]
      exact ih (r := { r with tags }) apart' (same ▸ first)
        (by rw [Keyed.get?_erase, if_neg other, found])

/-! ## One object -/

/-- The value that is taken for the name, which is taken first. -/
def named (l : Layout) (o : Object) : Option Value := l.nameKey.bind o.get?

/-- The name: a text under the name key, or else the one of the layout. -/
def nameOf (l : Layout) (o : Object) : String :=
  match named l o with
  | some (.string s) => s
  | _ => l.name

/-- The value that is taken for the time, unless the name has taken it. -/
def timed (l : Layout) (o : Object) : Option Value :=
  l.timeKey.bind fun k => if l.nameKey = some k then none else o.get? k

/-- The value that is there for the tag `k`, unless the name or the time has taken it. -/
def tagged (l : Layout) (o : Object) (k : String) : Option Value :=
  if l.nameKey ≠ some k ∧ l.timeKey ≠ some k then o.get? k else none

/-- The key of an entry that is no field. -/
def Layout.Names (l : Layout) (k : String) : Prop :=
  l.nameKey = some k ∨ l.timeKey = some k ∨ k ∈ l.tagKeys

instance (l : Layout) (k : String) : Decidable (l.Names k) :=
  inferInstanceAs (Decidable (_ ∨ _ ∨ _))

/-- The record `r` divides the entries of `o`. -/
structure Divided (l : Layout) (o : Object) (r : Record) : Prop where
  name : r.name = nameOf l o
  /-- The time is the one that is told under the time key, or none. -/
  untimed : timed l o = none → r.timestamp = none
  time : ∀ v, timed l o = some v → ∃ t, Tells v t ∧ r.timestamp = some t
  /-- The tags are the texts of the values under the tag keys. -/
  ascending : r.tags.Ascending
  tags : ∀ k text, r.tags.get? k = some text ↔
    k ∈ l.tagKeys ∧ ∃ v, tagged l o k = some v ∧ Shown v text
  /-- The fields are the entries under other keys. -/
  fields : r.fields = o.filter fun e => decide ¬l.Names e.1

/-- The entries that are left when the name and the time have been taken. -/
def untaken (l : Layout) (o : Object) : Object :=
  o.filter fun e => decide (l.nameKey ≠ some e.1 ∧ l.timeKey ≠ some e.1)

/-- What a tag key finds is what is there for its tag. -/
theorem get?_untaken (l : Layout) (o : Object) (k : String) :
    (untaken l o).get? k = tagged l o k := by
  have := Keyed.get?_filter (fun k => decide (l.nameKey ≠ some k ∧ l.timeKey ≠ some k)) o k
  simp only [decide_eq_true_iff] at this
  exact this

theorem take_eq (key : Option String) (o : Object) :
    take key o = (key.bind o.get?, o.filter fun e => decide (key ≠ some e.1)) := by
  cases key with
  | none => exact congrArg (none, ·) (List.filter_eq_self.mpr (by simp)).symm
  | some k => simp [take, Keyed.erase, eq_comm]

/-- The name and the time that are taken, and what is left for the tags. -/
theorem record_eq (l : Layout) (o : Object) : record l o = do
    let time ← match timed l o with
      | some v => (timestamp v).map some
      | none => .ok none
    let (r, rest) ← takeTags l.tagKeys { Record.named (nameOf l o) with timestamp := time } (untaken l o)
    return { r with fields := rest } := by
  have time : (l.timeKey.bind fun k => Keyed.get? k (o.filter fun e => decide (l.nameKey ≠ some e.1))) =
      timed l o := by
    unfold timed
    congr 1
    funext k
    rw [Keyed.get?_filter fun k => decide (l.nameKey ≠ some k)]
    simp
  have rest : ((o.filter fun e => decide (l.nameKey ≠ some e.1)).filter
      fun e => decide (l.timeKey ≠ some e.1)) = untaken l o := by
    rw [List.filter_filter, untaken]
    simp [Bool.and_comm]
  unfold record
  simp only [take_eq, time, rest]
  rfl

/-- The first of the tag keys, in their order, with a list or an object. -/
def firstNested (l : Layout) (o : Object) : Option String :=
  l.tagKeys.find? fun k => (tagged l o k).any isNested

theorem firstNested_eq (l : Layout) (o : Object) :
    firstNested l o = l.tagKeys.find? (nestedAt (untaken l o)) := by
  unfold firstNested nestedAt
  simp only [get?_untaken]

theorem firstNested_eq_none {l : Layout} {o : Object} : firstNested l o = none ↔
    ∀ k ∈ l.tagKeys, ∀ v, tagged l o k = some v → isNested v = false := by
  simp only [firstNested, List.find?_eq_none, Option.any_eq_true]
  grind

/-- If the time fails, so does the record. -/
theorem record_untimely {l : Layout} {o : Object} {v : Value} {e : String}
    (ht : timed l o = some v) (he : timestamp v = .error e) : record l o = .error e := by
  rw [record_eq]
  simp only [ht, he]
  rfl

/-- The time that a record gets. -/
def Timely (l : Layout) (o : Object) (time : Option Instant) : Prop :=
  (timed l o = none ∧ time = none) ∨ ∃ v t, timed l o = some v ∧ Tells v t ∧ time = some t

/-- If the time does not fail, the tags decide. -/
theorem record_timely {l : Layout} {o : Object} {time : Option Instant} (h : Timely l o time) :
    record l o = (takeTags l.tagKeys { Record.named (nameOf l o) with timestamp := time } (untaken l o)).map
        fun x => { x.1 with fields := x.2 } := by
  rw [record_eq]
  obtain ⟨ht, rfl⟩ | ⟨v, t, ht, told, rfl⟩ := h
  · simp only [ht]
    rfl
  · simp only [ht, timestamp_ok_iff.mpr told]
    rfl

theorem record_nested {l : Layout} {o : Object} {time : Option Instant} (h : Timely l o time)
    {k : String} (first : firstNested l o = some k) : ∃ v, tagged l o k = some v ∧
      record l o = .error (nestedMessage k v) := by
  have nested : (tagged l o k).any isNested = true :=
    List.find?_some (p := fun k => (tagged l o k).any isNested) first
  cases hv : tagged l o k with
  | none =>
    rw [hv] at nested
    cases nested
  | some v =>
    have fails := takeTags_error (r := { Record.named (nameOf l o) with timestamp := time }) nofun
      (firstNested_eq l o ▸ first) ((get?_untaken l o k).trans hv)
    exact ⟨v, rfl, by rw [record_timely h, fails]; rfl⟩

theorem record_ok {l : Layout} {o : Object} {time : Option Instant} (h : Timely l o time)
    (first : firstNested l o = none) : ∃ r, record l o = .ok r ∧ Divided l o r := by
  have scalar : ∀ k ∈ l.tagKeys, nestedAt (untaken l o) k = false := fun k hk =>
    nestedAt_eq_false.mpr fun v hv =>
      firstNested_eq_none.mp first k hk v ((get?_untaken l o k).symm.trans hv)
  obtain ⟨tags, run, ascending, shown⟩ :=
    takeTags_ok scalar (r := { Record.named (nameOf l o) with timestamp := time }) nofun
  refine ⟨_, by rw [record_timely h, run]; rfl, ?_⟩
  refine ⟨rfl, fun none_taken => ?_, fun v taken => ?_, ascending Keyed.ascending_nil,
    fun k text => ?_, ?_⟩
  · obtain ⟨-, rfl⟩ | ⟨v, t, ht, -⟩ := h
    · rfl
    · cases none_taken.symm.trans ht
  · obtain ⟨ht, -⟩ | ⟨v', t, ht, told, rfl⟩ := h
    · cases taken.symm.trans ht
    · cases taken.symm.trans ht
      exact ⟨t, told, rfl⟩
  · have none_before : Keyed.get? k (Record.named (nameOf l o)).tags ≠ some text := nofun
    rw [shown, get?_untaken]
    exact or_iff_right none_before
  · show (untaken l o).filter _ = _
    rw [untaken, List.filter_filter]
    refine List.filter_congr fun e _ => ?_
    simp only [Layout.Names]
    grind

/-- There is one record that divides an object. -/
theorem Divided.unique {l : Layout} {o : Object} {r r' : Record} (h : Divided l o r)
    (h' : Divided l o r') : r = r' := by
  have name : r.name = r'.name := h.name.trans h'.name.symm
  have fields : r.fields = r'.fields := h.fields.trans h'.fields.symm
  have time : r.timestamp = r'.timestamp := by
    cases ht : timed l o with
    | none => rw [h.untimed ht, h'.untimed ht]
    | some v =>
      obtain ⟨t, told, hr⟩ := h.time v ht
      obtain ⟨t', told', hr'⟩ := h'.time v ht
      have same := (timestamp_ok_iff.mpr told).symm.trans (timestamp_ok_iff.mpr told')
      rw [hr, hr', Except.ok.inj same]
  have tags : r.tags = r'.tags := by
    refine h.ascending.ext h'.ascending fun e => ?_
    rw [← Keyed.get?_eq_some h.ascending.nodup, ← Keyed.get?_eq_some h'.ascending.nodup, h.tags,
      h'.tags]
  cases r
  cases r'
  simp only at name fields time tags
  rw [name, fields, time, tags]

theorem timely_or (l : Layout) (o : Object) : (∃ time, Timely l o time) ∨
    ∃ v e, timed l o = some v ∧ timestamp v = .error e := by
  cases ht : timed l o with
  | none => exact .inl ⟨none, .inl ⟨ht, rfl⟩⟩
  | some v =>
    cases told : timestamp v with
    | error e => exact .inr ⟨v, e, rfl, told⟩
    | ok t => exact .inl ⟨some t, .inr ⟨v, t, ht, timestamp_ok_iff.mp told, rfl⟩⟩

theorem timely_iff {l : Layout} {o : Object} :
    (∃ time, Timely l o time) ↔ ∀ v, timed l o = some v → ∃ t, Tells v t := by
  constructor
  · rintro ⟨time, ⟨ht, -⟩ | ⟨v, t, ht, told, -⟩⟩ v' taken
    · cases ht.symm.trans taken
    · cases ht.symm.trans taken
      exact ⟨t, told⟩
  · intro h
    obtain timely | ⟨v, e, taken, fault⟩ := timely_or l o
    · exact timely
    · obtain ⟨t, told⟩ := h v taken
      cases (timestamp_ok_iff.mpr told).symm.trans fault

/-- An object makes a record if its time is one and no tag key has a list or an object. -/
theorem record_ok_iff {l : Layout} {o : Object} {r : Record} : record l o = .ok r ↔
    (∃ time, Timely l o time) ∧ firstNested l o = none ∧ Divided l o r := by
  constructor
  · intro h
    obtain ⟨time, ht⟩ | ⟨v, e, taken, fault⟩ := timely_or l o
    · cases first : firstNested l o with
      | some k =>
        obtain ⟨v, -, fails⟩ := record_nested ht first
        cases h.symm.trans fails
      | none =>
        obtain ⟨r', ok, divided⟩ := record_ok ht first
        cases h.symm.trans ok
        exact ⟨⟨time, ht⟩, rfl, divided⟩
    · cases h.symm.trans (record_untimely taken fault)
  · rintro ⟨⟨time, ht⟩, first, divided⟩
    obtain ⟨r', ok, divided'⟩ := record_ok ht first
    rw [ok, divided'.unique divided]

/-- What is said if an object makes no record: the fault of its time, or else the first tag key with
a list or an object. -/
theorem record_error_iff {l : Layout} {o : Object} {e : String} : record l o = .error e ↔
    (∃ v, timed l o = some v ∧ timestamp v = .error e) ∨
      (∃ time, Timely l o time) ∧ ∃ k v, firstNested l o = some k ∧ tagged l o k = some v ∧
        e = nestedMessage k v := by
  constructor
  · intro h
    obtain ⟨time, ht⟩ | ⟨v, e', taken, fault⟩ := timely_or l o
    · cases first : firstNested l o with
      | none =>
        obtain ⟨r, ok, -⟩ := record_ok ht first
        cases h.symm.trans ok
      | some k =>
        obtain ⟨v, found, fails⟩ := record_nested ht first
        cases h.symm.trans fails
        exact .inr ⟨⟨time, ht⟩, k, v, rfl, found, rfl⟩
    · cases h.symm.trans (record_untimely taken fault)
      exact .inl ⟨v, taken, fault⟩
  · rintro (⟨v, taken, fault⟩ | ⟨⟨time, ht⟩, k, v, first, found, rfl⟩)
    · exact record_untimely taken fault
    · obtain ⟨v', found', fails⟩ := record_nested ht first
      cases found.symm.trans found'
      exact fails

/-! ## The order of the tag keys -/

section
variable {l : Layout} {o : Object} {keys : List String}

/-- Which of the tag keys are named matters for a record, and not in what order. -/
theorem Divided.of_same_keys {r : Record} (h : Divided l o r) (same : ∀ k, k ∈ keys ↔ k ∈ l.tagKeys) :
    Divided { l with tagKeys := keys } o r where
  name := h.name
  untimed := h.untimed
  time := h.time
  ascending := h.ascending
  tags k text := (h.tags k text).trans (and_congr_left fun _ => (same k).symm)
  fields := h.fields.trans (List.filter_congr fun e _ => decide_eq_decide.mpr
    (not_congr (or_congr_right (or_congr_right (same e.1).symm))))

theorem record_of_same_keys {r : Record} (h : record l o = .ok r)
    (same : ∀ k, k ∈ keys ↔ k ∈ l.tagKeys) : record { l with tagKeys := keys } o = .ok r := by
  obtain ⟨timely, first, divided⟩ := record_ok_iff.mp h
  refine record_ok_iff.mpr ⟨timely, ?_, divided.of_same_keys same⟩
  exact firstNested_eq_none.mpr fun k hk => firstNested_eq_none.mp first k ((same k).mp hk)

theorem toOption_record (same : ∀ k, k ∈ keys ↔ k ∈ l.tagKeys) :
    (record { l with tagKeys := keys } o).toOption = (record l o).toOption := by
  cases h : record l o with
  | ok r => rw [record_of_same_keys h same]
  | error e =>
    cases h' : record { l with tagKeys := keys } o with
    | error e' => rfl
    | ok r =>
      have back : record l o = .ok r :=
        record_of_same_keys (l := { l with tagKeys := keys }) h' fun k => (same k).symm
      cases h.symm.trans back

/-- An element that comes again is not what a search stops at. -/
theorem find?_repeated {α : Type} {before : List α} {a : α} (h : a ∈ before) (p : α → Bool)
    (after : List α) : (before ++ a :: after).find? p = (before ++ after).find? p := by
  rw [List.find?_append, List.find?_append]
  cases hf : before.find? p with
  | some b => rfl
  | none => rw [List.find?_cons_of_neg (List.find?_eq_none.mp hf a h)]

/-- A tag key that is named again does not matter. -/
theorem record_of_repeated {before after : List String} {k : String}
    (split : l.tagKeys = before ++ k :: after) (hk : k ∈ before) :
    record { l with tagKeys := before ++ after } o = record l o := by
  have same : ∀ k', k' ∈ before ++ after ↔ k' ∈ l.tagKeys := fun k' => by
    rw [split]
    grind
  have first : firstNested { l with tagKeys := before ++ after } o = firstNested l o := by
    unfold firstNested
    rw [split, find?_repeated hk]
    rfl
  cases h : record l o with
  | ok r => exact record_of_same_keys h same
  | error e =>
    rw [record_error_iff] at h ⊢
    rw [first]
    exact h

end

/-! ## Lists of objects -/

/-- A list of objects makes records, one for each, if each of them makes one; the first that makes none
is reported. -/
theorem recordsOf_cases (l : Layout) (os : List Object) :
    (∃ rs, recordsOf l (os.map .object) = .ok rs ∧ os.map (record l) = rs.map .ok) ∨
      ∃ before o after e, recordsOf l (os.map .object) = .error e ∧ os = before ++ o :: after ∧
        (∀ o' ∈ before, ∃ r, record l o' = .ok r) ∧ record l o = .error e := by
  induction os with
  | nil => exact .inl ⟨[], rfl, rfl⟩
  | cons o os ih =>
    rw [List.map_cons, recordsOf]
    cases h : record l o with
    | error e => exact .inr ⟨[], o, os, e, rfl, rfl, nofun, h⟩
    | ok r =>
      obtain ⟨rs, run, each⟩ | ⟨before, o', after, e, run, split, each, fault⟩ := ih
      · exact .inl ⟨r :: rs, by rw [run]; rfl, by rw [List.map_cons, h, each, List.map_cons]⟩
      · refine .inr ⟨o :: before, o', after, e, by rw [run]; rfl, by rw [split]; rfl, ?_, fault⟩
        intro o'' ho
        rcases List.mem_cons.mp ho with rfl | ho
        · exact ⟨r, h⟩
        · exact each o'' ho

/-! ## Payloads -/

theorem parse_object {payload : List UInt8} {o : Object} (read : Json.read payload = .ok (.object o))
    (l : Layout) : parse l payload = ((record l o).map fun r => [r]).mapError RelayError.parse := by
  simp only [parse, read, ofValue]
  cases record l o <;> rfl

theorem parse_objects {payload : List UInt8} {os : List Object}
    (read : Json.read payload = .ok (.array (os.map .object))) (l : Layout) :
    parse l payload = (recordsOf l (os.map .object)).mapError RelayError.parse := by
  simp only [parse, read, ofValue]
  cases recordsOf l (os.map .object) <;> rfl

/-- What becomes of an object under a layout. -/
structure Division (l : Layout) (o : Object) : Prop where
  /-- It makes a record if the value taken for the time is one and no tag takes a list or an object. -/
  makes : (∃ r, record l o = .ok r) ↔ (∀ v, timed l o = some v → ∃ t, Tells v t) ∧
    ∀ k ∈ l.tagKeys, ∀ v, tagged l o k = some v → isNested v = false
  /-- The record divides its entries. -/
  divided : ∀ r, record l o = .ok r → Divided l o r
  /-- Otherwise the time is at fault, or the first tag key with a list or an object. -/
  fails : ∀ e, record l o = .error e ↔ (∃ v, timed l o = some v ∧ timestamp v = .error e) ∨
    (∀ v, timed l o = some v → ∃ t, Tells v t) ∧ ∃ k v, firstNested l o = some k ∧
      tagged l o k = some v ∧ e = nestedMessage k v
  /-- The order of the tag keys does not matter for the record and for whether there is one, -/
  anyOrder : ∀ keys : List String, (∀ k, k ∈ keys ↔ k ∈ l.tagKeys) →
    (record { l with tagKeys := keys } o).toOption = (record l o).toOption
  /-- and a key that is named again does not matter at all. -/
  repeated : ∀ before k after, l.tagKeys = before ++ k :: after → k ∈ before →
    record { l with tagKeys := before ++ after } o = record l o

theorem division (l : Layout) (o : Object) : Division l o where
  makes := by
    rw [← timely_iff, ← firstNested_eq_none]
    constructor
    · rintro ⟨r, h⟩
      obtain ⟨timely, first, -⟩ := record_ok_iff.mp h
      exact ⟨timely, first⟩
    · rintro ⟨⟨time, timely⟩, first⟩
      obtain ⟨r, ok, -⟩ := record_ok timely first
      exact ⟨r, ok⟩
  divided r h := (record_ok_iff.mp h).2.2
  fails e := by rw [← timely_iff]; exact record_error_iff
  anyOrder _ same := toOption_record same
  repeated _ _ _ split hk := record_of_repeated split hk

/-- **Every object is divided without overlap**, whatever the layout, and a list of objects is divided
one by one: all of them make records, or the first that makes none is reported. -/
theorem divides (l : Layout) : (∀ o, Division l o) ∧
    (∀ os : List Object,
      (∃ rs, recordsOf l (os.map .object) = .ok rs ∧ os.map (record l) = rs.map .ok) ∨
      ∃ before o after e, recordsOf l (os.map .object) = .error e ∧ os = before ++ o :: after ∧
        (∀ o' ∈ before, ∃ r, record l o' = .ok r) ∧ record l o = .error e) ∧
    (∀ payload o, Json.read payload = .ok (.object o) →
      parse l payload = ((record l o).map fun r => [r]).mapError RelayError.parse) ∧
    ∀ payload (os : List Object), Json.read payload = .ok (.array (os.map .object)) →
      parse l payload = (recordsOf l (os.map .object)).mapError RelayError.parse :=
  ⟨division l, recordsOf_cases l, fun _ _ read => parse_object read l,
    fun _ _ read => parse_objects read l⟩

/-- A name key that is a tag key as well, and one that is missing; a tag key named twice, and one with
null. -/
example : (record ⟨"m", some "n", ["z", "n", "a", "z", "none"], some "t"⟩
    [("a", .null), ("n", .number (.whole 1)), ("x", .bool true), ("z", .string "here")]).toOption.map
      (fun r => (r.name, r.tags, r.fields.map Prod.fst, r.timestamp)) =
    some ("m", [("z", "here")], ["x"], none) := by decide

/-- The order of the tag keys shows in what is said of an object with two lists. -/
theorem order_shows :
    let payload := Text.Utf8.encodeText "\x7b\"a\":[],\"b\":[]\x7d"
    (∀ k, k ∈ ["b", "a"] ↔ k ∈ ["a", "b"]) ∧
      parse { Layout.standard with tagKeys := ["a", "b"] } payload =
        .error (.parse "tag key 'a' holds a non-scalar value: []") ∧
      parse { Layout.standard with tagKeys := ["b", "a"] } payload =
        .error (.parse "tag key 'b' holds a non-scalar value: []") := by
  have regular : ∀ e ∈ [("a", Value.array []), ("b", .array [])], Json.Regular e.2 := by
    rintro _ (_ | ⟨_, _ | ⟨_, ⟨⟩⟩⟩) <;> exact .array nofun
  have read := Json.read_print (by decide) regular (by decide)
  have printed : Text.Utf8.encode (Value.object [("a", .array []), ("b", .array [])]).print =
      Text.Utf8.encodeText "\x7b\"a\":[],\"b\":[]\x7d" := by decide +kernel
  rw [printed] at read
  refine ⟨fun k => by simp [or_comm], ?_, ?_⟩
  · rw [parse_object read]
    rfl
  · rw [parse_object read]
    rfl

end Payload
end Sluice
