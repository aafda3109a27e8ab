import Sluice.Duration
/-!
# The grammar of durations

A duration is written as segments, each a number and the name of a unit, with nothing between them, or
as a bare nought. The scan reads a run of one kind of character after the other, and no unit's name
holds a character of a number, so each run is a number or a name of the grammar or none is.

* `sum_segment`: one turn of the scan reads one segment; `sum_segments`: all turns.
* `segments_of_sum`: nothing else is read to the end; `formal_of_sum`: all else is a fault of form.
* `parse_grammar`: exactly the texts of the grammar are read, as a duration or as one out of range.
-/
namespace Sluice.Duration

/-! ## The grammar -/

/-- The names of the units. -/
def TimeUnit.names : List (List Char × TimeUnit) := [
  (['n', 's'], .nano), (['u', 's'], .micro), (['\u00b5', 's'], .micro), (['m', 's'], .milli),
  (['s'], .second), (['m'], .minute), (['h'], .hour)]

/-- A number of units. -/
structure Segment where
  number : List Char
  name : List Char
  unit : TimeUnit
  /-- A number has digits and points. -/
  numerals : ∀ c ∈ number, c.isDigit ∨ c = '.'
  digit : ∃ c ∈ number, c.isDigit
  point : number.count '.' ≤ 1
  named : (name, unit) ∈ TimeUnit.names

/-- A segment as it is written. -/
def Segment.text (g : Segment) : List Char := g.number ++ g.name

/-- The sum so far plus a segment. -/
def Segment.addTo (total : Option Binary64) (g : Segment) : Option Binary64 :=
  accumulate total (digitsValue g.number, digitsIn (g.number.dropWhile (· != '.'))) g.unit

/-- The texts of the grammar. -/
def Written (s : List Char) : Prop :=
  s = ['0'] ∨ ∃ gs : List Segment, gs ≠ [] ∧ s = gs.flatMap Segment.text

/-- The text is of no such form, and not only too large a duration. -/
def Fault.IsFormal (f : Fault) : Prop := ∀ text, f ≠ .outOfRange text

/-! ## Numbers and names -/

theorem isNumeral_iff {c : Char} : isNumeral c = true ↔ c.isDigit ∨ c = '.' := by
  simp [isNumeral]

theorem numeral?_eq_some_iff {s : List Char} {value : Nat × Nat} :
    numeral? s = some value ↔ s.count '.' ≤ 1 ∧ (∃ c ∈ s, c.isDigit) ∧
      (digitsValue s, digitsIn (s.dropWhile (· != '.'))) = value := by
  simp [numeral?, digitsIn, List.countP_pos_iff, and_assoc]

theorem TimeUnit.ofName?_eq_some_iff {name : List Char} {u : TimeUnit} :
    ofName? name = some u ↔ (name, u) ∈ names := by
  unfold ofName?
  split <;> simp_all [names, eq_comm]

/-- The name of a unit is not empty, and holds no character of a number. -/
theorem TimeUnit.not_numeral {name : List Char} {u : TimeUnit} (h : (name, u) ∈ names) :
    name ≠ [] ∧ ∀ c ∈ name, isNumeral c = false := by
  have all : (names.all fun e => !e.1.isEmpty && e.1.all fun c => !isNumeral c) = true := rfl
  simpa using List.all_eq_true.mp all _ h

namespace Segment

theorem isNumeral_of_mem (g : Segment) {c : Char} (h : c ∈ g.number) : isNumeral c = true :=
  isNumeral_iff.mpr (g.numerals c h)

theorem number_ne_nil (g : Segment) : g.number ≠ [] := by
  obtain ⟨c, hc, -⟩ := g.digit
  exact List.ne_nil_of_mem hc

/-- What follows a segment begins a number, if it is another. -/
theorem head_segments (gs : List Segment) :
    ∀ c ∈ (gs.flatMap text).head?, isNumeral c = true := by
  cases gs with
  | nil => exact nofun
  | cons g gs =>
    intro c hc
    obtain ⟨d, ds, hd⟩ := List.exists_cons_of_ne_nil g.number_ne_nil
    have first : d = c := by simpa [text, hd] using hc
    exact first ▸ g.isNumeral_of_mem (hd ▸ List.mem_cons_self)

end Segment

/-! ## The scan -/

/-- A run of characters of one kind ends where one of the other kind follows. -/
theorem run_spec {p : Char → Bool} (run rest : List Char) (h : ∀ c ∈ run, p c = true)
    (stop : ∀ c ∈ rest.head?, p c = false) :
    (run ++ rest).takeWhile p = run ∧ (run ++ rest).dropWhile p = rest := by
  rw [List.takeWhile_append_of_pos h, List.dropWhile_append_of_pos h]
  cases rest with
  | nil => simp
  | cons c rest =>
    have other : p c = false := stop c rfl
    simp [other]

/-- One turn of the scan reads one segment. -/
theorem sum_segment (text : String) (total : Option Binary64) (g : Segment) {rest : List Char}
    (h : ∀ c ∈ rest.head?, isNumeral c = true) :
    sum text total (g.text ++ rest) = sum text (g.addTo total) rest := by
  obtain ⟨c, cs, hn⟩ := List.exists_cons_of_ne_nil g.number_ne_nil
  obtain ⟨name_ne_nil, name_other⟩ := TimeUnit.not_numeral g.named
  have number : ∀ d ∈ c :: cs, isNumeral d = true := fun _ hd => g.isNumeral_of_mem (hn ▸ hd)
  -- the number ends where the name begins, and the name where the rest does
  obtain ⟨take_number, drop_number⟩ := run_spec (p := isNumeral) cs (g.name ++ rest)
    (fun d hd => number d (List.mem_cons_of_mem c hd)) (fun d hd => by
      obtain ⟨e, es, he⟩ := List.exists_cons_of_ne_nil name_ne_nil
      have first : e = d := by simpa [he] using hd
      exact first ▸ name_other e (he ▸ List.mem_cons_self))
  obtain ⟨take_name, drop_name⟩ := run_spec (p := fun c => !isNumeral c) g.name rest
    (fun d hd => by rw [name_other d hd]; rfl) (fun d hd => by rw [h d hd]; rfl)
  have value : numeral? (c :: cs) =
      some (digitsValue g.number, digitsIn (g.number.dropWhile (· != '.'))) := by
    rw [← hn]
    exact numeral?_eq_some_iff.mpr ⟨g.point, g.digit, rfl⟩
  have unit : TimeUnit.ofName? g.name = some g.unit := TimeUnit.ofName?_eq_some_iff.mpr g.named
  rw [Segment.text, hn, List.append_assoc, List.cons_append, sum]
  simp only [number c List.mem_cons_self, take_number, drop_number, take_name, drop_name, value, unit,
    Bool.not_true, Bool.false_eq_true, if_false, List.isEmpty_iff, name_ne_nil]
  rfl

/-- The scan reads all segments. -/
theorem sum_segments (text : String) (gs : List Segment) (total : Option Binary64) :
    sum text total (gs.flatMap Segment.text) = .ok (gs.foldl Segment.addTo total) := by
  induction gs generalizing total with
  | nil => rw [List.flatMap_nil, sum, List.foldl_nil]
  | cons g gs ih =>
    rw [List.flatMap_cons, sum_segment text total g (Segment.head_segments gs), ih, List.foldl_cons]

/-- What is read to the end are segments. -/
theorem segments_of_sum {text : String} {total t : Option Binary64} {s : List Char}
    (h : sum text total s = .ok t) : ∃ gs : List Segment, s = gs.flatMap Segment.text := by
  fun_induction sum text total s with
  | case1 => exact ⟨[], rfl⟩
  | case2 | case3 | case4 | case5 => cases h
  | case6 total c cs first value hv rest name _ unit hu ih =>
    obtain ⟨point, digit, -⟩ := numeral?_eq_some_iff.mp hv
    have number : ∀ d ∈ c :: cs.takeWhile isNumeral, d.isDigit ∨ d = '.' := by
      intro d hd
      rcases List.mem_cons.mp hd with rfl | hd
      · exact isNumeral_iff.mp (by simpa using first)
      · exact isNumeral_iff.mp (List.all_eq_true.mp List.all_takeWhile d hd)
    obtain ⟨gs, hgs⟩ := ih h
    refine ⟨⟨_, name, unit, number, digit, point, TimeUnit.ofName?_eq_some_iff.mp hu⟩ :: gs, ?_⟩
    rw [List.flatMap_cons, ← hgs, Segment.text, List.append_assoc, List.takeWhile_append_dropWhile,
      List.cons_append, List.takeWhile_append_dropWhile]

/-- The scan itself never finds a duration too large. -/
theorem formal_of_sum {text : String} {total : Option Binary64} {s : List Char} {f : Fault}
    (h : sum text total s = .error f) : f.IsFormal := by
  fun_induction sum text total s with
  | case1 => cases h
  | case2 | case3 | case4 | case5 => cases h; exact nofun
  | case6 _ _ _ _ _ _ _ _ _ _ _ ih => exact ih h

/-! ## The whole text -/

theorem ofSum_cases (text : String) (total : Option Binary64) :
    (∃ d, ofSum text total = .ok d) ∨ ofSum text total = .error (.outOfRange text) := by
  unfold ofSum
  split
  · exact .inr rfl
  · split
    · exact .inr rfl
    · exact .inl ⟨_, rfl⟩

/-- A text that is neither empty nor a bare nought is scanned. -/
theorem parse_eq_sum {input : String} (h : (Text.trim input).toList ≠ [])
    (h0 : (Text.trim input).toList ≠ ['0']) : parse input =
      (sum (Text.trim input) (some .zero) (Text.trim input).toList).bind
        (ofSum (Text.trim input)) := by
  simp only [parse]

theorem Segment.length_text (g : Segment) : 2 ≤ g.text.length := by
  have number := List.length_pos_iff.mpr g.number_ne_nil
  have name := List.length_pos_iff.mpr (TimeUnit.not_numeral g.named).1
  rw [text, List.length_append]
  omega

/-- A text of segments is worth their sum. -/
theorem parse_segments {input : String} {g : Segment} {gs : List Segment}
    (h : (Text.trim input).toList = (g :: gs).flatMap Segment.text) :
    parse input = ofSum (Text.trim input) ((g :: gs).foldl Segment.addTo (some .zero)) := by
  have long : 2 ≤ (Text.trim input).toList.length := by
    rw [h, List.flatMap_cons, List.length_append]
    exact Nat.le_add_right_of_le g.length_text
  rw [parse_eq_sum (fun he => by simp [he] at long) (fun he => by simp [he] at long), h,
    sum_segments]
  rfl

/-- A text of the grammar gives a duration, or one that is out of range. -/
theorem parse_of_written {input : String} (h : Written (Text.trim input).toList) :
    (∃ d, parse input = .ok d) ∨ parse input = .error (.outOfRange (Text.trim input)) := by
  obtain h | ⟨gs, hne, h⟩ := h
  · exact .inl ⟨zero, by simp only [parse, h]⟩
  · obtain ⟨g, gs, rfl⟩ := List.exists_cons_of_ne_nil hne
    rw [parse_segments h]
    exact ofSum_cases _ _

/-- Any other text has a fault of form. -/
theorem parse_of_not_written {input : String} (h : ¬ Written (Text.trim input).toList) :
    ∃ f, parse input = .error f ∧ f.IsFormal := by
  by_cases he : (Text.trim input).toList = []
  · exact ⟨.empty, by simp only [parse, he], nofun⟩
  rw [parse_eq_sum he fun h0 => h (.inl h0)]
  cases hs : sum (Text.trim input) (some .zero) (Text.trim input).toList with
  | error f => exact ⟨f, rfl, formal_of_sum hs⟩
  | ok t =>
    obtain ⟨gs, hgs⟩ := segments_of_sum hs
    exact absurd (.inr ⟨gs, fun hne => he (by rw [hgs, hne]; rfl), hgs⟩) h

/-- **Exactly the texts of the grammar are read.** Every input has an outcome, since each segment that
is read leaves less of the text. It is a fault of form if what is left without the white space at
its ends is neither a bare nought nor one or more segments; and for those it is a duration, or that
the duration is out of range. -/
theorem parse_grammar (input : String) :
    ((∃ f, parse input = .error f ∧ f.IsFormal) ↔ ¬ Written (Text.trim input).toList) ∧
      ((∃ d, parse input = .ok d) ∨ parse input = .error (.outOfRange (Text.trim input)) ↔
        Written (Text.trim input).toList) := by
  have apart : (∃ f, parse input = .error f ∧ f.IsFormal) →
      ¬ ((∃ d, parse input = .ok d) ∨ parse input = .error (.outOfRange (Text.trim input))) := by
    rintro ⟨f, hf, hs⟩ (⟨d, hd⟩ | ho)
    · rw [hf] at hd
      cases hd
    · rw [hf] at ho
      exact hs _ (Except.error.inj ho)
  exact ⟨⟨fun h hw => apart h (parse_of_written hw), parse_of_not_written⟩,
    fun h => Classical.not_not.mp fun hw => apart (parse_of_not_written hw) h, parse_of_written⟩

end Sluice.Duration
