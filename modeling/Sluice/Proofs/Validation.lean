import Sluice.Proofs.Text.Blank
import Sluice.Settings
/-!
# What the check of a draft accepts

The check goes through a draft field by field: some are looked at, some are read, some get a default,
and some are taken over as they are. `WellFormed` says which drafts pass, one line for each thing that
can be wrong. `Passed` says what becomes of each field of a draft that passes, and `Settings.Sound` what
is known of the settings then without the draft.

* `duration_ok_iff`, `topicPattern_ok_iff`, `checkProperties_ok_iff`, ...: when the single checks pass.
* `validate_ok_iff`: the check as a whole, with the settings it gives; `wellFormed_iff`: for which
  drafts there are such.
* `fatal_validate`: it fails with nothing but an error of the configuration.
* `validate_accepts`: all of this, for every draft.
-/
namespace Sluice

/-- The names of the policies; the empty one stands for the default. -/
def OffsetPolicy.names : List String := ["oldest", "newest", ""]

/-- The names of the strategies; the empty one stands for the default. -/
def BalanceStrategy.names : List String := ["range", "roundrobin", "sticky", ""]

theorem OffsetPolicy.ofName?_isSome {name : String} :
    (∃ p, ofName? name = some p) ↔ name ∈ names := by
  unfold ofName?
  split <;> simp_all [names]

theorem BalanceStrategy.ofName?_isSome {name : String} :
    (∃ s, ofName? name = some s) ↔ name ∈ names := by
  unfold ofName?
  split <;> simp_all [names]

theorem OffsetPolicy.parse_ok_iff {value : String} {p : OffsetPolicy} :
    parse value = .ok p ↔ ofName? (Text.lowerText (Text.trim value)) = some p := by
  unfold parse
  split
  · next q h => rw [h, Except.ok.injEq, Option.some.injEq]
  · next h => simp [h]

theorem BalanceStrategy.parse_ok_iff {value : String} {s : BalanceStrategy} :
    parse value = .ok s ↔ ofName? (Text.lowerText (Text.trim value)) = some s := by
  unfold parse
  split
  · next q h => rw [h, Except.ok.injEq, Option.some.injEq]
  · next h => simp [h]

theorem Pattern.source_of_parse {library : Library} {source : String} {p : Pattern}
    (h : library.parse source = .ok p) : p.source = source := by
  unfold Library.parse at h
  cases hr : library.read source with
  | error => rw [hr] at h; cases h
  | ok => rw [hr] at h; cases h; rfl

namespace Draft

/-! ## The single checks -/

theorem bind_ok_iff {ε α β : Type} {x : Except ε α} {f : α → Except ε β} {b : β} :
    x >>= f = .ok b ↔ ∃ a, x = .ok a ∧ f a = .ok b := by
  cases x with
  | error => exact ⟨nofun, nofun⟩
  | ok a => exact ⟨fun h => ⟨a, rfl, h⟩, fun ⟨_, hx, hf⟩ => by cases hx; exact hf⟩

theorem require_ok_iff {condition : Bool} {text : String} {u : Unit} :
    require condition text = .ok u ↔ condition = true := by
  cases condition <;> simp [require, fail]

theorem duration_ok_iff {name text : String} {t : Duration} :
    duration name text = .ok t ↔ Duration.parse text = .ok t := by
  unfold duration
  split
  · next h => rw [h, Except.ok.injEq, Except.ok.injEq]
  · next h => simp [h, fail]

theorem requiredInterval_ok_iff {text : Option String} {t : Duration} :
    requiredInterval text = .ok t ↔ ∃ x, text = some x ∧ Duration.parse x = .ok t := by
  cases text with
  | none => simp [requiredInterval, fail]
  | some x => simp [requiredInterval, duration_ok_iff]

theorem topicPattern_ok_iff {library : Pattern.Library} {topics : List String} {p : Pattern} :
    topicPattern library topics = .ok p ↔
      ∃ t, topics.head? = some t ∧ library.parse t = .ok p := by
  cases topics with
  | nil => simp [topicPattern, fail]
  | cons t rest =>
    simp only [topicPattern, List.head?_cons, Option.some.injEq, exists_eq_left']
    split
    · next h => rw [h, Except.ok.injEq, Except.ok.injEq]
    · next h => simp [h, fail]

theorem checkProperties_ok_iff {m : Keyed String} {u : Unit} :
    checkProperties m = .ok u ↔ ∀ key ∈ m.keys, key ∈ Settings.allowedProperties := by
  induction m with
  | nil => exact ⟨nofun, fun _ => rfl⟩
  | cons e m ih =>
    have keys : (∀ key ∈ Keyed.keys (e :: m), key ∈ Settings.allowedProperties) ↔
        e.1 ∈ Settings.allowedProperties ∧ ∀ key ∈ Keyed.keys m, key ∈ Settings.allowedProperties :=
      List.forall_mem_cons
    rw [checkProperties, keys, ← ih]
    split
    · next allowed => exact (and_iff_right (List.contains_iff_mem.mp allowed)).symm
    · next refused =>
      exact ⟨nofun, fun h => absurd (List.contains_iff_mem.mpr h.1) refused⟩

theorem trimmedBrokers_eq (brokers : List String) :
    trimmedBrokers brokers = (brokers.filter fun b => !Text.isBlankText b).map Text.trim := by
  rw [trimmedBrokers, List.filter_map]
  refine congrArg (List.map Text.trim) (List.filter_congr fun b _ => ?_)
  rw [Bool.eq_iff_iff, Function.comp, decide_eq_true_iff, Ne, Text.trim_eq_empty_iff]
  simp

theorem mem_trimmedBrokers {brokers : List String} {b : String} :
    b ∈ trimmedBrokers brokers ↔
      ∃ raw ∈ brokers, Text.isBlankText raw = false ∧ Text.trim raw = b := by
  simp [trimmedBrokers_eq, and_assoc]

theorem someBroker_iff {brokers : List String} :
    trimmedBrokers brokers ≠ [] ↔ ∃ b ∈ brokers, Text.isBlankText b = false := by
  simp [trimmedBrokers_eq]

theorem trimmed_of_mem {brokers : List String} {b : String} (h : b ∈ trimmedBrokers brokers) :
    b ≠ "" ∧ Text.Trimmed b.toList := by
  obtain ⟨raw, -, shown, rfl⟩ := mem_trimmedBrokers.mp h
  exact ⟨mt Text.trim_eq_empty_iff.mp (Bool.eq_false_iff.mp shown), Text.trimmed_trim raw⟩

/-! ## Defaults -/

theorem shown_group (group : String) :
    Text.isBlankText (if Text.isBlankText group then defaultGroup else group) = false := by
  split
  · decide
  · next h => exact Bool.eq_false_iff.mpr h

theorem one_le_count (n : Nat) : 1 ≤ if n = 0 then defaultMaxUndelivered else n := by
  split
  · decide
  · omega

theorem processing_ne_zero (t : Duration) :
    (if t = .zero then Settings.defaultMaxProcessingTime else t) ≠ .zero := by
  split
  · decide
  · assumption

theorem fetchSize_ne_zero (n : Nat) : (if n = 0 then none else some n) ≠ some 0 := by
  split <;> simp [*]

/-! ## The check as a whole -/

/-- The drafts that pass when a library reads the patterns. -/
structure WellFormed (library : Pattern.Library) (d : Draft) : Prop where
  /-- Some broker is more than white space. -/
  brokers : ∃ b ∈ d.brokers, Text.isBlankText b = false
  /-- There is a first pattern, and to the library it is one. -/
  pattern : ∃ t, d.topics.head? = some t ∧ ∃ p, library.parse t = .ok p
  processing : ∃ t, Duration.parse d.maxProcessingTime = .ok t
  reconnect : ∃ t, Duration.parse d.reconnectDelay = .ok t
  metadata : ∃ t, Duration.parse d.metadataTimeout = .ok t ∧ t ≠ .zero
  /-- A refresh interval is given. -/
  refresh : ∃ text t, d.refreshInterval = some text ∧ Duration.parse text = .ok t ∧ t ≠ .zero
  offset : Text.lowerText (Text.trim d.offset) ∈ OffsetPolicy.names
  balance : Text.lowerText (Text.trim d.balance) ∈ BalanceStrategy.names
  channel : 0 < d.channelSize
  properties : ∀ key ∈ d.properties.keys, key ∈ Settings.allowedProperties

/-- What a draft that passes becomes. -/
structure Passed (library : Pattern.Library) (d : Draft) (s : Settings) : Prop where
  /-- The brokers that are more than white space, trimmed, in their order. -/
  brokers : s.brokers = (d.brokers.filter fun b => !Text.isBlankText b).map Text.trim
  group : s.group = if Text.isBlankText d.group then defaultGroup else d.group
  /-- The first pattern, as the library reads it. -/
  pattern : d.topics.head? = some s.pattern.source ∧
    library.parse s.pattern.source = .ok s.pattern
  topicTag : s.topicTag = d.topicTag.filter fun t => t ≠ ""
  maxUndelivered :
    s.maxUndelivered = if d.maxUndelivered = 0 then defaultMaxUndelivered else d.maxUndelivered
  maxMessageLen : s.maxMessageLen = d.maxMessageLen
  processing : ∃ t, Duration.parse d.maxProcessingTime = .ok t ∧
    s.maxProcessingTime = if t = .zero then Settings.defaultMaxProcessingTime else t
  offset : OffsetPolicy.ofName? (Text.lowerText (Text.trim d.offset)) = some s.offset
  balance : BalanceStrategy.ofName? (Text.lowerText (Text.trim d.balance)) = some s.balance
  refresh : d.refreshInterval.map Duration.parse = some (.ok s.refreshInterval)
  fetchSize : s.fetchSize = if d.fetchSize = 0 then none else some d.fetchSize
  reconnect : Duration.parse d.reconnectDelay = .ok s.reconnectDelay
  channelSize : s.channelSize = d.channelSize
  clientId : s.clientId = d.clientId
  metadata : Duration.parse d.metadataTimeout = .ok s.metadataTimeout
  properties : s.properties = d.properties
  layout : s.layout = d.layout

end Draft

/-- What holds of settings that have been checked, whatever the draft. -/
structure Settings.Sound (s : Settings) : Prop where
  someBroker : s.brokers ≠ []
  brokers : ∀ b ∈ s.brokers, b ≠ "" ∧ Text.Trimmed b.toList
  group : Text.isBlankText s.group = false
  topicTag : s.topicTag ≠ some ""
  maxUndelivered : 1 ≤ s.maxUndelivered
  processing : s.maxProcessingTime ≠ .zero
  refresh : s.refreshInterval ≠ .zero
  fetchSize : s.fetchSize ≠ some 0
  channelSize : 1 ≤ s.channelSize
  metadata : s.metadataTimeout ≠ .zero
  properties : ∀ key ∈ s.properties.keys, key ∈ Settings.allowedProperties

namespace Draft
variable {library : Pattern.Library} {d : Draft} {s : Settings}

/-- The check as a whole: what the settings are, and which of them would not do. -/
theorem validate_ok_iff : d.validate library = .ok s ↔ d.Passed library s ∧ s.Sound := by
  simp only [validate, bind_ok_iff, require_ok_iff, duration_ok_iff, requiredInterval_ok_iff,
    topicPattern_ok_iff, checkProperties_ok_iff, OffsetPolicy.parse_ok_iff,
    BalanceStrategy.parse_ok_iff]
  constructor
  · rintro ⟨_, some_broker, pattern, ⟨t, first, parsed⟩, processing, hprocessing, offset, hoffset,
      balance, hbalance, refresh, ⟨text, given, hrefresh⟩, _, refreshing, reconnect, hreconnect,
      metadata, hmetadata, _, patient, _, channel, _, allowed, result⟩
    cases result
    cases Pattern.source_of_parse parsed
    refine ⟨{
      brokers := trimmedBrokers_eq _
      group := rfl
      pattern := ⟨first, parsed⟩
      topicTag := rfl
      maxUndelivered := rfl
      maxMessageLen := rfl
      processing := ⟨processing, hprocessing, rfl⟩
      offset := hoffset
      balance := hbalance
      refresh := by rw [given, Option.map_some, hrefresh]
      fetchSize := rfl
      reconnect := hreconnect
      channelSize := rfl
      clientId := rfl
      metadata := hmetadata
      properties := rfl
      layout := rfl }, {
      someBroker := by simpa using some_broker
      brokers := fun b hb => trimmed_of_mem hb
      group := shown_group d.group
      topicTag := by simp [Option.filter_eq_some_iff]
      maxUndelivered := one_le_count d.maxUndelivered
      processing := processing_ne_zero processing
      refresh := of_decide_eq_true refreshing
      fetchSize := fetchSize_ne_zero d.fetchSize
      channelSize := Nat.pos_of_ne_zero (of_decide_eq_true channel)
      metadata := of_decide_eq_true patient
      properties := allowed }⟩
  · rintro ⟨p, s⟩
    obtain ⟨t, hprocessing, processing⟩ := p.processing
    obtain ⟨text, given, hrefresh⟩ := Option.map_eq_some_iff.mp p.refresh
    have brokers := p.brokers.trans (trimmedBrokers_eq _).symm
    refine ⟨(), by simpa [← brokers] using s.someBroker, _, ⟨_, p.pattern⟩, t, hprocessing, _, p.offset,
      _, p.balance, _, ⟨text, given, hrefresh⟩, (), decide_eq_true s.refresh, _, p.reconnect, _,
      p.metadata, (), decide_eq_true s.metadata, (), decide_eq_true ?_, (), p.properties ▸ s.properties,
      ?_⟩
    · exact Nat.ne_of_gt (p.channelSize ▸ s.channelSize)
    · rw [← brokers, ← p.group, ← p.topicTag, ← p.maxUndelivered, ← p.maxMessageLen, ← processing,
        ← p.fetchSize, ← p.channelSize, ← p.clientId, ← p.properties, ← p.layout]
      rfl

theorem passed (valid : d.validate library = .ok s) : d.Passed library s :=
  (validate_ok_iff.mp valid).1

theorem sound (valid : d.validate library = .ok s) : s.Sound := (validate_ok_iff.mp valid).2

theorem allowed_of_valid (valid : d.validate library = .ok s) {key : String}
    (hk : key ∈ d.properties.keys) : key ∈ Settings.allowedProperties :=
  (sound valid).properties key ((passed valid).properties ▸ hk)

theorem wellFormed_iff : (∃ s, d.validate library = .ok s) ↔ d.WellFormed library := by
  constructor
  · rintro ⟨s, h⟩
    have p := passed h
    have sound := sound h
    obtain ⟨text, given, refresh⟩ := Option.map_eq_some_iff.mp p.refresh
    exact {
      brokers := someBroker_iff.mp ((trimmedBrokers_eq _).trans p.brokers.symm ▸ sound.someBroker)
      pattern := ⟨_, p.pattern.1, _, p.pattern.2⟩
      processing := p.processing.imp fun _ h => h.1
      reconnect := ⟨_, p.reconnect⟩
      metadata := ⟨_, p.metadata, sound.metadata⟩
      refresh := ⟨text, _, given, refresh, sound.refresh⟩
      offset := OffsetPolicy.ofName?_isSome.mp ⟨_, p.offset⟩
      balance := BalanceStrategy.ofName?_isSome.mp ⟨_, p.balance⟩
      channel := p.channelSize ▸ sound.channelSize
      properties := p.properties ▸ sound.properties }
  · intro w
    obtain ⟨t, first, p, hp⟩ := w.pattern
    obtain ⟨processing, hprocessing⟩ := w.processing
    obtain ⟨reconnect, hreconnect⟩ := w.reconnect
    obtain ⟨metadata, hmetadata, patient⟩ := w.metadata
    obtain ⟨text, refresh, given, hrefresh, refreshing⟩ := w.refresh
    obtain ⟨offset, hoffset⟩ := OffsetPolicy.ofName?_isSome.mpr w.offset
    obtain ⟨balance, hbalance⟩ := BalanceStrategy.ofName?_isSome.mpr w.balance
    simp only [validate, bind_ok_iff, require_ok_iff, duration_ok_iff, requiredInterval_ok_iff,
      topicPattern_ok_iff, checkProperties_ok_iff, OffsetPolicy.parse_ok_iff,
      BalanceStrategy.parse_ok_iff]
    exact ⟨_, (), by simpa using someBroker_iff.mpr w.brokers, p, ⟨t, first, hp⟩, _, hprocessing, _,
      hoffset, _, hbalance, _, ⟨text, given, hrefresh⟩, (), decide_eq_true refreshing, _, hreconnect, _,
      hmetadata, (), decide_eq_true patient, (), decide_eq_true (Nat.ne_of_gt w.channel), (),
      w.properties, rfl⟩

/-! ## Failures -/

/-- Fails with nothing but an error of the configuration. -/
def Fatal {α : Type} (x : Except RelayError α) : Prop :=
  ∀ e, x = .error e → ∃ text, e = .config text

theorem fatal_ok {α : Type} (a : α) : Fatal (.ok a) := nofun

theorem fatal_fail {α : Type} (text : String) : Fatal (fail text : Except RelayError α) := by
  rintro _ ⟨⟩
  exact ⟨text, rfl⟩

theorem Fatal.bind {α β : Type} {x : Except RelayError α} {f : α → Except RelayError β}
    (hx : Fatal x) (hf : ∀ a, Fatal (f a)) : Fatal (x >>= f) := by
  cases x with
  | error e =>
    rintro _ ⟨⟩
    exact hx e rfl
  | ok a => exact hf a

theorem fatal_require (condition : Bool) (text : String) : Fatal (require condition text) := by
  unfold require
  split
  · exact fatal_ok _
  · exact fatal_fail _

theorem fatal_duration (name text : String) : Fatal (duration name text) := by
  unfold duration
  split
  · exact fatal_ok _
  · exact fatal_fail _

theorem fatal_requiredInterval (text : Option String) : Fatal (requiredInterval text) := by
  cases text with
  | none => exact fatal_fail _
  | some text => exact fatal_duration "topics_refresh_interval" text

theorem fatal_topicPattern (library : Pattern.Library) (topics : List String) :
    Fatal (topicPattern library topics) := by
  unfold topicPattern
  split
  · exact fatal_fail _
  · split
    · exact fatal_ok _
    · exact fatal_fail _

theorem fatal_checkProperties (m : Keyed String) : Fatal (checkProperties m) := by
  induction m with
  | nil => exact fatal_ok _
  | cons e m ih =>
    rw [checkProperties]
    split
    · exact ih
    · exact fatal_fail _

theorem fatal_offset (value : String) : Fatal (OffsetPolicy.parse value) := by
  unfold OffsetPolicy.parse
  split
  · exact fatal_ok _
  · exact fatal_fail _

theorem fatal_balance (value : String) : Fatal (BalanceStrategy.parse value) := by
  unfold BalanceStrategy.parse
  split
  · exact fatal_ok _
  · exact fatal_fail _

theorem fatal_validate (library : Pattern.Library) (d : Draft) : Fatal (d.validate library) :=
  .bind (fatal_require _ _) fun _ => .bind (fatal_topicPattern _ _) fun _ =>
  .bind (fatal_duration _ _) fun _ => .bind (fatal_offset _) fun _ =>
  .bind (fatal_balance _) fun _ => .bind (fatal_requiredInterval _) fun _ =>
  .bind (fatal_require _ _) fun _ => .bind (fatal_duration _ _) fun _ =>
  .bind (fatal_duration _ _) fun _ => .bind (fatal_require _ _) fun _ =>
  .bind (fatal_require _ _) fun _ => .bind (fatal_checkProperties _) fun _ => fatal_ok _

/-- Only the first pattern is looked at. -/
theorem validate_topics (library : Pattern.Library) (d : Draft) (topics : List String)
    (first : topics.head? = d.topics.head?) :
    validate { d with topics } library = d.validate library := by
  have same : topicPattern library topics = topicPattern library d.topics := by
    cases topics <;> cases hd : d.topics <;> simp_all [topicPattern]
  simp only [validate, same]

/-- **The check accepts exactly the drafts that are well formed**, whatever the library takes for a
pattern. It fails with nothing but an error of the configuration, and gives settings whose fields are
those of the draft, or their defaults where those would not do. What patterns follow the first one
does not matter. -/
theorem validate_accepts (library : Pattern.Library) (d : Draft) :
    ((∃ s, d.validate library = .ok s) ↔ d.WellFormed library) ∧
      (∀ e, d.validate library = .error e → ∃ text, e = .config text) ∧
      (∀ s, d.validate library = .ok s → d.Passed library s ∧ s.Sound) ∧
      ∀ t rest rest', validate { d with topics := t :: rest } library =
        validate { d with topics := t :: rest' } library :=
  ⟨wellFormed_iff, fatal_validate library d, fun _ => validate_ok_iff.mp,
    fun t rest rest' => validate_topics library { d with topics := t :: rest' } (t :: rest) rfl⟩

/-- A draft with white space around its names, and fields that stand for defaults. -/
def ragged : Draft :=
  { standard with
    brokers := [" b:1", "\t", "a:2\n"]
    group := " "
    topics := ["^events", "("]
    topicTag := some ""
    maxUndelivered := 0
    maxProcessingTime := "0"
    offset := " NewEst "
    balance := "STIC\u212AY"
    refreshInterval := some "1m" }

example : (ragged.validate.toOption.map fun s =>
    (s.brokers, s.group, s.topicTag, s.maxUndelivered)) =
    some (["b:1", "a:2"], "topic_relay_consumers", none, 1000) := by decide +kernel

end Draft
end Sluice
