import Sluice.Broker
/-!
# What calls change of a broker

Appending is all that ever changes a log; whatever else is asked of a broker leaves the logs as they
are.

* `log_append`: what every log holds after a message was appended.
* `log_select`, `log_join`, `log_leave`, …: the other calls.
* `select_same`, `faults_select`, `select_eq`: what a look at the topics changes and shows.
* `join_ok_iff`: when a group can be joined.
-/
namespace Sluice.Broker

/-- The message that is appended next to the log of a partition. -/
def appended (b : Broker) (p : Partition) (payload : List UInt8) : Message :=
  .plain p.topic p.index (b.log p).length payload

theorem lookup_entry (logs : List (Partition × List Message)) (p q : Partition)
    (l : List Message) :
    ((p, l) :: logs).lookup q = if q = p then some l else logs.lookup q := by
  rw [List.lookup_cons]
  by_cases h : q = p
  · simp [h]
  · simp [h, beq_eq_false_iff_ne.mpr h]

theorem lookup_map_put (logs : List (Partition × List Message)) (p q : Partition) (m : Message) :
    (logs.map fun e => if e.1 = p then (p, e.2 ++ [m]) else e).lookup q =
      if q = p then (logs.lookup q).map (· ++ [m]) else logs.lookup q := by
  induction logs with
  | nil => simp
  | cons e logs ih =>
    obtain ⟨r, l⟩ := e
    by_cases hr : r = p
    · subst hr
      simp only [List.map_cons, if_true, lookup_entry, ih]
      split <;> simp
    · simp only [List.map_cons, hr, if_false, lookup_entry, ih]
      split
      · next hq =>
        subst hq
        simp [hr]
      · rfl

theorem lookup_isSome (logs : List (Partition × List Message)) (p : Partition) :
    (logs.lookup p).isSome = logs.any fun e => e.1 = p := by
  induction logs with
  | nil => rfl
  | cons e logs ih =>
    obtain ⟨r, l⟩ := e
    rw [lookup_entry, List.any_cons, ← ih]
    by_cases h : p = r
    · simp [h]
    · simp [h, show ¬ r = p from fun e => h e.symm]

/-- Only the log that is appended to changes. -/
theorem log_append (b : Broker) (p q : Partition) (payload : List UInt8) :
    (b.append p payload).2.log q =
      if q = p then b.log q ++ [b.appended p payload] else b.log q := by
  have hs := lookup_isSome b.logs p
  unfold append log appended
  cases h : b.logs.lookup p with
  | some l =>
    rw [h, Option.isSome_some] at hs
    simp only [← hs, if_true, lookup_map_put, log]
    split
    · next hq => simp [hq, h]
    · rfl
  | none =>
    rw [h, Option.isSome_none] at hs
    simp only [← hs, Bool.false_eq_true, if_false, List.lookup_append, lookup_entry, log]
    split
    · next hq => simp [hq, h]
    · simp

/-! ## Calls that change no log -/

@[simp] theorem log_createTopic (b : Broker) (name : String) (n : Nat) :
    (b.createTopic name n).log = b.log := by
  unfold createTopic
  split <;> rfl

@[simp] theorem log_deleteTopic (b : Broker) (name : String) :
    (b.deleteTopic name).log = b.log := rfl

@[simp] theorem log_list (b : Broker) : b.list.2.log = b.log := by
  unfold list
  split <;> rfl

@[simp] theorem log_closeClient (b : Broker) (client : Nat) :
    (b.closeClient client).log = b.log := by
  unfold closeClient
  split <;> rfl

@[simp] theorem log_listWith (b : Broker) (client : Nat) : (b.listWith client).2.log = b.log := by
  unfold listWith
  split
  · exact log_list b
  · rfl

@[simp] theorem log_select (b : Broker) (p : Pattern) : (b.select p).2.log = b.log := by
  unfold select
  simp only [log_closeClient, log_listWith]
  rfl

@[simp] theorem log_join (b : Broker) : b.join.2.log = b.log := by
  unfold join
  split <;> rfl

@[simp] theorem log_leave (b : Broker) (g : Nat) : (b.leave g).log = b.log := by
  unfold leave
  split <;> rfl

@[simp] theorem log_modifyGroup (b : Broker) (g : Nat) (f : Group → Group) :
    (b.modifyGroup g f).log = b.log := rfl

@[simp] theorem log_groupError (b : Broker) (text : String) :
    (b.groupError text).2.log = b.log := by
  unfold groupError
  split
  · rfl
  · split <;> rfl

@[simp] theorem log_takeStream (b : Broker) (g : Nat) : (b.takeStream g).2.log = b.log := by
  unfold takeStream
  split <;> rfl

@[simp] theorem log_dropStream (b : Broker) (g : Nat) : (b.dropStream g).log = b.log := rfl

@[simp] theorem log_beginConsume (b : Broker) : b.beginConsume.2.log = b.log := by
  unfold beginConsume
  dsimp only
  split <;> rfl

/-- A claim fails if a failure of a claim has been injected. -/
theorem takeClaimFault_iff {b : Broker} : b.takeClaimFault.1 = true ↔ 0 < b.faults.claim := by
  unfold takeClaimFault
  split <;> simp_all

@[simp] theorem log_takeClaimFault (b : Broker) : b.takeClaimFault.2.log = b.log := by
  unfold takeClaimFault
  split <;> rfl

/-- A look at the topics opens a client and closes it again. It leaves groups and topics as they
are, and shows the topics of the catalog that match, or fails. -/
theorem select_same (b : Broker) (p : Pattern) :
    (b.select p).2.groups = b.groups ∧ (b.select p).2.catalog = b.catalog ∧
      (b.select p).2.calls = { b.calls with
        metadataConnects := b.calls.metadataConnects + 1
        metadataCloses := b.calls.metadataCloses + 1 } ∧
      ∀ topics, (b.select p).1 = .ok topics → topics = p.select b.topics := by
  unfold select openClient listWith list closeClient
  by_cases h : b.faults.list > 0
  · simp [h, Except.map]
  · simp [h, Except.map, topics, eq_comm]

/-- A look at the topics uses up one failure of a list. -/
theorem faults_select (b : Broker) (p : Pattern) :
    (b.select p).2.faults = { b.faults with list := b.faults.list - 1 } := by
  unfold select openClient listWith list closeClient
  by_cases h : b.faults.list > 0
  · simp [h]
  · have hsame : b.faults.list - 1 = b.faults.list := by omega
    simp [h, hsame]

/-- A look at the topics uses up no failure of a connection. -/
theorem connect_select (b : Broker) (p : Pattern) :
    (b.select p).2.faults.connect = b.faults.connect := by
  rw [faults_select]

/-- The topics can be looked at unless a failure of a list has been injected. -/
theorem select_eq (b : Broker) (p : Pattern) :
    (b.select p).1 = if 0 < b.faults.list then .error (.metadata "injected metadata failure")
      else .ok (p.select b.topics) := by
  unfold select openClient listWith list
  by_cases h : b.faults.list > 0
  · simp [h, Except.map]
  · simp [h, Except.map, topics]

/-- A group can be joined unless a failure of a connection has been injected. -/
theorem join_ok_iff (b : Broker) : (∃ g, b.join.1 = .ok g) ↔ b.faults.connect = 0 := by
  unfold join
  split
  · next h => simp [Nat.ne_of_gt h]
  · next h => simp [Nat.eq_zero_of_not_pos h]

end Sluice.Broker
