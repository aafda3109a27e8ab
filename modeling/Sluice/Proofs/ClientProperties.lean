import Sluice.ClientProperties
import Sluice.Proofs.Keyed
import Sluice.Proofs.Validation
import Sluice.Settings.Document
/-!
# What settings can do to client properties

A member of the consumer group must not store offsets by itself: the relay does, once a message has
been delivered. The properties that say so are put around those of the settings, some before and some
after them, so that their order alone would let the settings replace one of the first. It is the
check of the settings that keeps the two apart.

* `Draft.Written`, `Draft.Written.ascending`: the drafts there are hold no property twice.
* `reserved_not_allowed`: no property of the relay may be set freely.
* `Exact`: a map with the properties of the relay, those of the draft, and no others.
* `user_properties_cannot_weaken`: the properties of a group member and of any client, for every draft
  that passes the check.
-/
namespace Sluice

namespace Draft

/-- The drafts there are: the standard one, those read from a text, and changes of these. -/
inductive Written : Draft → Prop
  | standard : Written standard
  | read {text : String} {d : Draft} (h : Settings.read text = .ok d) : Written d
  | change {d : Draft} (h : Written d) (c : Change) : Written (d.apply c)

theorem ascending_propertiesOf {doc : Yaml.Document} {n : Yaml.Node} {m : Keyed String}
    (h : Settings.propertiesOf doc n = some m) : m.Ascending := by
  simp only [Settings.propertiesOf, Option.bind_eq_bind, Option.bind_eq_some_iff] at h
  obtain ⟨_, -, entries, -, hm⟩ := h
  cases hm
  exact Keyed.ascending_ofList entries

theorem ascending_ofDocument {doc : Yaml.Document} {d : Draft}
    (h : Settings.ofDocument? doc = some d) : d.properties.Ascending := by
  unfold Settings.ofDocument? at h
  obtain ⟨es, -, h⟩ := Option.bind_eq_some_iff.mp h
  iterate 15 obtain ⟨_, -, h⟩ := Option.bind_eq_some_iff.mp h
  obtain ⟨m, hm, h⟩ := Option.bind_eq_some_iff.mp h
  obtain ⟨_, -, h⟩ := Option.bind_eq_some_iff.mp h
  cases h
  simp only [Settings.Entries.field] at hm
  split at hm
  · cases hm
    exact Keyed.ascending_nil
  · exact ascending_propertiesOf hm
  · cases hm

theorem Written.ascending {d : Draft} (h : d.Written) : d.properties.Ascending := by
  induction h with
  | standard => exact Keyed.ascending_nil
  | @read text d h =>
    rw [Settings.read] at h
    split at h
    · next hd =>
      cases h
      obtain ⟨doc, -, hdoc⟩ := Option.bind_eq_some_iff.mp hd
      exact ascending_ofDocument hdoc
    · cases h
  | change h c ih =>
    cases c with
    | property k v => exact ih.insert k v
    | _ => exact ih

end Draft

namespace ClientProperties

/-- The keys of the properties that the relay sets for any client. -/
def ownKeys : List String := ["bootstrap.servers", "client.id"]

/-- The keys of the properties that the relay sets for a group member. -/
def managedKeys : List String :=
  ["group.id", "enable.auto.commit", "enable.auto.offset.store", "enable.partition.eof",
    "auto.offset.reset", "partition.assignment.strategy", "max.partition.fetch.bytes"]

/-- The keys that are not left to the settings. -/
def reserved : List String := ownKeys ++ managedKeys

/-- No property of the relay may be set freely. -/
theorem reserved_not_allowed : ∀ key ∈ reserved, key ∉ Settings.allowedProperties := by decide

/-- `m` holds what the relay sets for the settings `s`, the properties of the draft `d` they come
from, and nothing else. -/
structure Exact (d : Draft) (s : Settings) (m : Keyed String) : Prop where
  ascending : m.Ascending
  servers : m.get? "bootstrap.servers" = some s.bootstrapServers
  client : m.get? "client.id" = some s.clientId
  group : m.get? "group.id" = some s.group
  commit : m.get? "enable.auto.commit" = some "true"
  store : m.get? "enable.auto.offset.store" = some "false"
  eof : m.get? "enable.partition.eof" = some "false"
  reset : m.get? "auto.offset.reset" = some s.offset.reset
  assignment : m.get? "partition.assignment.strategy" = some s.balance.assignment
  fetch : m.get? "max.partition.fetch.bytes" =
    if 0 < d.fetchSize then some (toString d.fetchSize) else none
  user : ∀ e ∈ d.properties, m.get? e.1 = some e.2
  only : ∀ key ∈ m.keys, key ∈ reserved ∨ key ∈ d.properties.keys

/-- What the relay sets for any client. -/
def own (s : Settings) : List (String × String) :=
  [("bootstrap.servers", s.bootstrapServers), ("client.id", s.clientId)]

theorem base_eq (s : Settings) : base s = Keyed.ofList (own s ++ s.properties) := by
  rw [Keyed.ofList, List.foldl_append]
  rfl

theorem group_eq (s : Settings) : group s = Keyed.ofList (own s ++ s.properties ++ managed s) := by
  rw [Keyed.ofList, List.foldl_append]
  exact congrArg (Keyed.putAll (managed s)) (base_eq s)

theorem keys_managed (s : Settings) : (Keyed.keys (managed s)).Sublist managedKeys := by
  unfold managed
  cases s.fetchSize <;> simp [Keyed.keys, managedKeys]

theorem fetch_mem_managed {s : Settings} {value : String} :
    ("max.partition.fetch.bytes", value) ∈ managed s ↔ s.fetchSize.map toString = some value := by
  unfold managed
  cases s.fetchSize <;> simp [eq_comm]

section
variable {library : Pattern.Library} {d : Draft} {s : Settings}
  (valid : d.validate library = .ok s)
include valid

theorem user_not_reserved {key : String} (hk : key ∈ d.properties.keys) : key ∉ reserved := fun hr =>
  reserved_not_allowed key hr (Draft.allowed_of_valid valid hk)

/-- What the relay sets for a group member alone is set neither for any client nor by the draft. -/
theorem managed_apart {key : String} (hk : key ∈ managedKeys) :
    key ∉ ownKeys ++ d.properties.keys := fun h => by
  rcases List.mem_append.mp h with h | h
  · exact (by decide : ∀ key ∈ ownKeys, key ∉ managedKeys) key h hk
  · exact user_not_reserved valid h (List.mem_append_right _ hk)

variable (distinct : d.properties.keys.Nodup)
include distinct

/-- No key is set twice, whether by the relay or by the draft. -/
theorem keys_distinct : (Keyed.keys (own s ++ d.properties ++ managed s)).Nodup := by
  have relay : (ownKeys ++ Keyed.keys (managed s)).Nodup :=
    ((keys_managed s).append_left ownKeys).nodup (by decide : reserved.Nodup)
  have user : ∀ key ∈ d.properties.keys, key ∉ ownKeys ∧ key ∉ Keyed.keys (managed s) := by
    intro key hk
    have hr : key ∉ reserved := user_not_reserved valid hk
    exact ⟨fun h => hr (List.mem_append_left _ h),
      fun h => hr (List.mem_append_right _ ((keys_managed s).subset h))⟩
  have keys : Keyed.keys (own s ++ d.properties ++ managed s) =
      ownKeys ++ d.properties.keys ++ Keyed.keys (managed s) := by
    simp only [Keyed.keys, List.map_append]
    rfl
  rw [keys]
  grind

theorem mem_group {e : String × String} :
    e ∈ group s ↔ e ∈ own s ∨ e ∈ d.properties ∨ e ∈ managed s := by
  rw [group_eq, (Draft.passed valid).properties, Keyed.mem_ofList (keys_distinct valid distinct),
    List.mem_append, List.mem_append, or_assoc]

theorem base_distinct : (Keyed.keys (own s ++ d.properties)).Nodup :=
  (List.Sublist.map Prod.fst (List.sublist_append_left _ _)).nodup (keys_distinct valid distinct)

theorem mem_base {e : String × String} : e ∈ base s ↔ e ∈ own s ∨ e ∈ d.properties := by
  rw [base_eq, (Draft.passed valid).properties, Keyed.mem_ofList (base_distinct valid distinct),
    List.mem_append]

theorem get?_group {key value : String} : (group s).get? key = some value ↔
    (key, value) ∈ own s ∨ (key, value) ∈ d.properties ∨ (key, value) ∈ managed s := by
  rw [← mem_group valid distinct, group_eq, Keyed.get?_eq_some (Keyed.ascending_ofList _).nodup]

/-- What is found of a property that only group members have is what is set for them. -/
theorem get?_group_managed {key value : String} (hk : key ∈ managedKeys) :
    (group s).get? key = some value ↔ (key, value) ∈ managed s := by
  have apart := managed_apart valid hk
  have not_own : (key, value) ∉ own s := fun h =>
    apart (List.mem_append_left _ (List.mem_map_of_mem (f := Prod.fst) h))
  have not_user : (key, value) ∉ d.properties := fun h =>
    apart (List.mem_append_right _ (List.mem_map_of_mem (f := Prod.fst) h))
  rw [get?_group valid distinct]
  exact ⟨fun h => (h.resolve_left not_own).resolve_left not_user, fun h => .inr (.inr h)⟩

theorem exact_group : Exact d s (group s) where
  ascending := group_eq s ▸ Keyed.ascending_ofList _
  servers := (get?_group valid distinct).mpr (.inl (by simp [own]))
  client := (get?_group valid distinct).mpr (.inl (by simp [own]))
  group := (get?_group valid distinct).mpr (.inr (.inr (by simp [managed])))
  commit := (get?_group valid distinct).mpr (.inr (.inr (by simp [managed])))
  store := (get?_group valid distinct).mpr (.inr (.inr (by simp [managed])))
  eof := (get?_group valid distinct).mpr (.inr (.inr (by simp [managed])))
  reset := (get?_group valid distinct).mpr (.inr (.inr (by simp [managed])))
  assignment := (get?_group valid distinct).mpr (.inr (.inr (by simp [managed])))
  fetch := by
    refine Option.ext fun value => ?_
    rw [get?_group_managed valid distinct (by decide), fetch_mem_managed,
      (Draft.passed valid).fetchSize]
    by_cases h : d.fetchSize = 0
    · simp [h]
    · simp [h, Nat.pos_of_ne_zero h]
  user e he := (get?_group valid distinct).mpr (.inr (.inl he))
  only key hk := by
    obtain ⟨e, he, rfl⟩ := List.mem_map.mp hk
    rcases (mem_group valid distinct).mp he with h | h | h
    · exact .inl (List.mem_append_left _ (List.mem_map_of_mem h))
    · exact .inr (List.mem_map_of_mem h)
    · exact .inl (List.mem_append_right _ ((keys_managed s).subset (List.mem_map_of_mem h)))

/-- A client that only lists topics is opened with a part of what a group member is opened with. -/
theorem base_eq_filter :
    base s = (group s).filter fun e => decide (e.1 ∈ ownKeys ++ d.properties.keys) := by
  have ascending : (group s).Ascending := group_eq s ▸ Keyed.ascending_ofList _
  refine Keyed.Ascending.ext (base_eq s ▸ Keyed.ascending_ofList _) (ascending.filter _) fun e => ?_
  rw [mem_base valid distinct, List.mem_filter, mem_group valid distinct, decide_eq_true_iff,
    List.mem_append]
  constructor
  · rintro (h | h)
    · exact ⟨.inl h, .inl (List.mem_map_of_mem h)⟩
    · exact ⟨.inr (.inl h), .inr (List.mem_map_of_mem h)⟩
  · rintro ⟨h | h | h, hk⟩
    · exact .inl h
    · exact .inr h
    · exact absurd (List.mem_append.mpr hk)
        (managed_apart valid ((keys_managed s).subset (List.mem_map_of_mem h)))

/-- The order in which the properties are gone through does not matter. -/
theorem properties_perm {entries : Keyed String} (perm : entries.Perm d.properties) :
    base { s with properties := entries } = base s ∧
      group { s with properties := entries } = group s := by
  have same : s.properties = d.properties := (Draft.passed valid).properties
  have perm' : (own s ++ s.properties).Perm (own s ++ entries) :=
    (same ▸ perm.symm).append_left (own s)
  rw [base_eq, base_eq, group_eq, group_eq]
  exact ⟨(Keyed.ofList_perm (same ▸ base_distinct valid distinct) perm').symm,
    (Keyed.ofList_perm (same ▸ keys_distinct valid distinct) (perm'.append_right _)).symm⟩

/-- **The properties of the settings cannot weaken delivery.** -/
theorem user_properties_cannot_weaken :
    (∀ key ∈ d.properties.keys, key ∉ reserved) ∧ Exact d s (group s) ∧
      (base s = (group s).filter fun e => decide (e.1 ∈ ownKeys ++ d.properties.keys)) ∧
      ∀ entries : Keyed String, entries.Perm d.properties →
        base { s with properties := entries } = base s ∧
          group { s with properties := entries } = group s :=
  ⟨fun _ hk => user_not_reserved valid hk, exact_group valid distinct, base_eq_filter valid distinct,
    fun _ perm => properties_perm valid distinct perm⟩

end

/-- A draft with two properties of its own. -/
def tuned : Draft :=
  { Draft.standard with
    topics := ["events"]
    refreshInterval := some "5s"
    fetchSize := 64
    properties := [("fetch.min.bytes", "1024"), ("ssl.ca.location", "/ca.pem")] }

theorem tuned_valid : ∃ s, tuned.validate = .ok s := by
  cases h : tuned.validate with
  | ok s => exact ⟨s, rfl⟩
  | error e =>
    have valid : tuned.validate.toOption.isSome = true := by decide +kernel
    rw [h] at valid
    cases valid

theorem tuned_not_weakened : ∃ s, tuned.validate = .ok s ∧ tuned.properties.keys.Nodup ∧
    (∀ key ∈ tuned.properties.keys, key ∉ reserved) ∧ Exact tuned s (group s) ∧
      (base s = (group s).filter fun e => decide (e.1 ∈ ownKeys ++ tuned.properties.keys)) ∧
      ∀ entries : Keyed String, entries.Perm tuned.properties →
        base { s with properties := entries } = base s ∧
          group { s with properties := entries } = group s := by
  obtain ⟨s, valid⟩ := tuned_valid
  have distinct : tuned.properties.keys.Nodup := by decide
  exact ⟨s, valid, distinct, user_properties_cannot_weaken valid distinct⟩

example : tuned.validate.toOption.map group = some [
    ("auto.offset.reset", "earliest"), ("bootstrap.servers", "localhost:9092"),
    ("client.id", "topic-relay"), ("enable.auto.commit", "true"),
    ("enable.auto.offset.store", "false"), ("enable.partition.eof", "false"),
    ("fetch.min.bytes", "1024"), ("group.id", "topic_relay_consumers"),
    ("max.partition.fetch.bytes", "64"), ("partition.assignment.strategy", "range"),
    ("ssl.ca.location", "/ca.pem")] := by decide +kernel

end ClientProperties
end Sluice
