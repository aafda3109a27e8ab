import Sluice.Proofs.Json.Numbers
import Sluice.Proofs.Json.Strings
import Sluice.Proofs.Keyed
/-!
# Printed values are read back

A value is read back from what was printed of it when its numbers are whole, its objects are maps (with
their keys in ascending order) and it does not nest too deep. What follows it has to be a comma or a
closing bracket, as it is everywhere inside a list or an object.

* `Value.nesting`: how many brackets a value opens within one another.
* `Regular`: the values that have one printed form.
* `items_print`, `entries_print`: the rest of a list and of an object are read back, if the values are.
* `value_print`, `read_print`: a printed value is read as the value.
-/
namespace Sluice.Json

open Text.Utf8 (encode encode_cons encode_append encode_nil)

mutual

/-- How many brackets a value opens within one another. -/
def Value.nesting : Value → Nat
  | .array items => nestingItems items + 1
  | .object entries => nestingEntries entries + 1
  | _ => 0

/-- How many brackets the items of a list open within one another. -/
def nestingItems : List Value → Nat
  | [] => 0
  | v :: vs => max v.nesting (nestingItems vs)

/-- How many brackets the values of an object open within one another. -/
def nestingEntries : List (String × Value) → Nat
  | [] => 0
  | (_, v) :: es => max v.nesting (nestingEntries es)

end

/-- Values with whole numbers only, whose objects are maps. -/
inductive Regular : Value → Prop
  | null : Regular .null
  | bool (b : Bool) : Regular (.bool b)
  | number {n : Number} (inRange : n.InRange) : Regular (.number n)
  | string (s : String) : Regular (.string s)
  | array {items : List Value} (regular : ∀ v ∈ items, Regular v) : Regular (.array items)
  | object {entries : Object} (ascending : entries.Ascending)
      (regular : ∀ e ∈ entries, Regular e.2) : Regular (.object entries)

/-! ## Between the values -/

theorem skipSpace_cons {x : UInt8} (h : isSpace x = false) (before : Nat) (rest : List UInt8) :
    skipSpace ⟨before, x :: rest⟩ = ⟨before, x :: rest⟩ := by
  simp [skipSpace, h]

/-- What stands before an item: nothing before the first, else a comma. -/
def lead (first : Bool) : List UInt8 := if first then [] else [44]

theorem nextItem_end (first : Bool) (before : Nat) (rest : List UInt8) :
    nextItem first ⟨before, 93 :: rest⟩ = .ok (false, ⟨before, 93 :: rest⟩) := rfl

theorem nextItem_lead (first : Bool) {x : UInt8} (space : isSpace x = false) (bracket : x ≠ 93)
    (before : Nat) (rest : List UInt8) : ∃ b,
      nextItem first ⟨before, lead first ++ x :: rest⟩ = .ok (true, ⟨b, x :: rest⟩) := by
  cases first with
  | true =>
    refine ⟨before, ?_⟩
    rw [nextItem]
    simp [lead, skipSpace_cons space, bracket]
  | false =>
    refine ⟨before + 1, ?_⟩
    have comma : isSpace 44 = false := rfl
    rw [nextItem]
    simp [lead, skipSpace_cons comma, Cursor.skip, skipSpace_cons space, bracket]

theorem nextKey_end (first : Bool) (before : Nat) (rest : List UInt8) :
    nextKey first ⟨before, 125 :: rest⟩ = .ok (false, ⟨before, 125 :: rest⟩) := rfl

theorem nextKey_lead (first : Bool) (before : Nat) (rest : List UInt8) : ∃ b,
    nextKey first ⟨before, lead first ++ 34 :: rest⟩ = .ok (true, ⟨b, 34 :: rest⟩) := by
  cases first with
  | true => exact ⟨before, rfl⟩
  | false => exact ⟨before + 1, rfl⟩

theorem colon_cons (before : Nat) (rest : List UInt8) :
    colon ⟨before, 58 :: rest⟩ = .ok ⟨before + 1, rest⟩ := rfl

theorem printNat_head (n : Nat) : ∃ x tail, encode (printNat n) = x :: tail ∧ isDigit x = true := by
  obtain ⟨c, cs, h⟩ := List.exists_cons_of_ne_nil (Nat.toDigits_ne_nil (n := n) (b := 10))
  obtain ⟨x, hx, digit, -⟩ := encodeChar_digit (c := c)
    (Nat.isDigit_of_mem_toDigits (by decide) (by decide) (h ▸ List.mem_cons_self))
  exact ⟨x, encode cs, by rw [printNat, h, encode_cons, hx, List.singleton_append], digit⟩

theorem not_space_of_isDigit {x : UInt8} (h : isDigit x = true) : isSpace x = false ∧ x ≠ 93 := by
  simp only [isDigit, Bool.and_eq_true, decide_eq_true_iff, UInt8.le_iff_toNat_le,
    UInt8.reduceToNat] at h
  simp only [isSpace, Bool.or_eq_false_iff, beq_eq_false_iff_ne, ne_eq, ← UInt8.toNat_inj,
    UInt8.reduceToNat]
  omega

/-- A printed value begins with a byte that is neither a space nor a closing bracket. -/
theorem print_head {v : Value} (h : Regular v) : ∃ x tail,
    encode v.print = x :: tail ∧ isSpace x = false ∧ x ≠ 93 := by
  cases h with
  | null => exact ⟨_, _, rfl, rfl, by decide⟩
  | bool b => cases b <;> exact ⟨_, _, rfl, rfl, by decide⟩
  | @number n inRange =>
    cases n with
    | float => exact inRange.elim
    | whole n =>
      cases n with
      | ofNat n =>
        obtain ⟨x, tail, h, digit⟩ := printNat_head n
        exact ⟨x, tail, h, not_space_of_isDigit digit⟩
      | negSucc n => exact ⟨45, encode (printNat (n + 1)), rfl, rfl, by decide⟩
  | string s => exact ⟨34, stringBytes s, by rw [Value.print, encode_printString], rfl, by decide⟩
  | array regular => exact ⟨_, _, by rw [Value.print, encode_cons]; rfl, rfl, by decide⟩
  | object ascending regular => exact ⟨_, _, by rw [Value.print, encode_cons]; rfl, rfl, by decide⟩

/-- A value is read back with enough fuel, where it does not nest too deep. -/
def ReadsBack (v : Value) : Prop :=
  ∀ fuel depth before rest, 2 * (encode v.print).length ≤ fuel → v.nesting < depth → Delimited rest →
    ∃ b, value fuel depth ⟨before, encode v.print ++ rest⟩ = .ok (v, ⟨b, rest⟩)

/-! ## Lists -/

/-- The bytes of the items of a list, up to its closing bracket. -/
def itemsBytes (first : Bool) : List Value → List UInt8
  | [] => [93]
  | v :: vs => lead first ++ (encode v.print ++ itemsBytes false vs)

theorem encode_printItems (vs : List Value) : encode (printItems vs) = itemsBytes true vs := by
  have more (v : Value) : ∀ vs, encode (printItems (v :: vs)) =
      encode v.print ++ itemsBytes false vs := by
    intro vs
    induction vs generalizing v with
    | nil =>
      rw [printItems, encode_append]
      rfl
    | cons w ws ih =>
      rw [printItems.eq_3 v (w :: ws) (by simp), encode_append, encode_cons, ih]
      rfl
  cases vs with
  | nil => rfl
  | cons v vs => exact more v vs

theorem delimited_itemsBytes (vs : List Value) (rest : List UInt8) :
    Delimited (itemsBytes false vs ++ rest) := by
  cases vs with
  | nil => exact ⟨93, rest, rfl, .inr (.inl rfl)⟩
  | cons v vs => exact ⟨44, encode v.print ++ itemsBytes false vs ++ rest, rfl, .inl rfl⟩

theorem itemsBytes_pos (first : Bool) (vs : List Value) : 0 < (itemsBytes first vs).length := by
  induction vs generalizing first with
  | nil => exact Nat.one_pos
  | cons v vs ih =>
    have := ih false
    simp only [itemsBytes, List.length_append]
    omega

theorem exists_succ {n fuel : Nat} (pos : 0 < n) (enough : 2 * n ≤ fuel) : ∃ f, fuel = f + 1 :=
  ⟨fuel - 1, by omega⟩

/-- The rest of a list is read back, if its items are. -/
theorem items_print {vs : List Value} (regular : ∀ v ∈ vs, Regular v) (back : ∀ v ∈ vs, ReadsBack v)
    (fuel depth : Nat) (first : Bool) (done : List Value) (before : Nat) (rest : List UInt8)
    (enough : 2 * (itemsBytes first vs).length ≤ fuel) (shallow : nestingItems vs < depth) :
    ∃ b, items fuel depth first done ⟨before, itemsBytes first vs ++ rest⟩ =
      .ok (.array (done.reverse ++ vs), ⟨b, rest⟩) := by
  induction vs generalizing fuel first done before with
  | nil =>
    obtain ⟨fuel, rfl⟩ := exists_succ (itemsBytes_pos first []) enough
    refine ⟨before + 1, ?_⟩
    show items (fuel + 1) depth first done ⟨before, 93 :: rest⟩ = _
    rw [items, nextItem_end, List.append_nil]
    rfl
  | cons v vs ih =>
    obtain ⟨fuel, rfl⟩ := exists_succ (itemsBytes_pos first (v :: vs)) enough
    have more_pos := itemsBytes_pos false vs
    obtain ⟨x, tail, head, space, bracket⟩ := print_head (regular v List.mem_cons_self)
    have value_pos : 0 < (encode v.print).length := by simp [head]
    rw [itemsBytes, List.length_append, List.length_append] at enough
    rw [nestingItems] at shallow
    obtain ⟨b, next⟩ := nextItem_lead first space bracket before (tail ++ (itemsBytes false vs ++ rest))
    obtain ⟨b', read⟩ := back v List.mem_cons_self fuel depth b
      (itemsBytes false vs ++ rest) (by omega) (by omega) (delimited_itemsBytes vs rest)
    obtain ⟨b'', more⟩ := ih (fun w hw => regular w (List.mem_cons_of_mem v hw))
      (fun w hw => back w (List.mem_cons_of_mem v hw)) fuel false (v :: done) b' (by omega) (by omega)
    refine ⟨b'', ?_⟩
    rw [head, List.cons_append] at read
    rw [itemsBytes, items, List.append_assoc, List.append_assoc, head, List.cons_append, next]
    simp only [read, more, List.reverse_cons, List.append_assoc, List.singleton_append]

/-! ## Objects -/

/-- The bytes of the entries of an object, up to its closing brace. -/
def entriesBytes (first : Bool) : List (String × Value) → List UInt8
  | [] => [125]
  | (k, v) :: es =>
    lead first ++ 34 :: (stringBytes k ++ 58 :: (encode v.print ++ entriesBytes false es))

theorem encode_printEntries (es : List (String × Value)) :
    encode (printEntries es) = entriesBytes true es := by
  have more (k : String) (v : Value) : ∀ es, encode (printEntries ((k, v) :: es)) =
      34 :: (stringBytes k ++ 58 :: (encode v.print ++ entriesBytes false es)) := by
    intro es
    induction es generalizing k v with
    | nil =>
      rw [printEntries, encode_append, encode_append, encode_printString, encode_cons]
      simp [entriesBytes]
      rfl
    | cons e es ih =>
      rw [printEntries.eq_3 k v (e :: es) (by simp), encode_append, encode_append, encode_cons,
        encode_cons, ih, encode_printString]
      simp [entriesBytes]
      rfl
  cases es with
  | nil => rfl
  | cons e es => exact more e.1 e.2 es

theorem delimited_entriesBytes (es : List (String × Value)) (rest : List UInt8) :
    Delimited (entriesBytes false es ++ rest) := by
  cases es with
  | nil => exact ⟨125, rest, rfl, .inr (.inr rfl)⟩
  | cons e es => exact ⟨44, _, by rw [entriesBytes, List.append_assoc]; rfl, .inl rfl⟩

theorem entriesBytes_pos (first : Bool) (es : List (String × Value)) :
    0 < (entriesBytes first es).length := by
  cases es with
  | nil => exact Nat.one_pos
  | cons e es => rw [entriesBytes, List.length_append, List.length_cons]; omega

/-- The rest of an object is read back, if its values are. -/
theorem entries_print {es : List (String × Value)} (back : ∀ e ∈ es, ReadsBack e.2)
    (fuel depth : Nat) (first : Bool) (done : Object) (ascending : Keyed.Ascending (done ++ es))
    (before : Nat) (rest : List UInt8)
    (enough : 2 * (entriesBytes first es).length ≤ fuel) (shallow : nestingEntries es < depth) :
    ∃ b, entries fuel depth first done ⟨before, entriesBytes first es ++ rest⟩ =
      .ok (.object (done ++ es), ⟨b, rest⟩) := by
  induction es generalizing fuel first done before with
  | nil =>
    obtain ⟨fuel, rfl⟩ := exists_succ (entriesBytes_pos first []) enough
    refine ⟨before + 1, ?_⟩
    show entries (fuel + 1) depth first done ⟨before, 125 :: rest⟩ = _
    rw [entries, nextKey_end, List.append_nil]
    rfl
  | cons e es ih =>
    obtain ⟨k, v⟩ := e
    obtain ⟨fuel, rfl⟩ := exists_succ (entriesBytes_pos first ((k, v) :: es)) enough
    have more_pos := entriesBytes_pos false es
    have above : ∀ e ∈ done, e.1 < k := fun e he =>
      (List.pairwise_append.mp ascending).2.2 e he (k, v) List.mem_cons_self
    rw [entriesBytes, List.length_append, List.length_cons, List.length_append, List.length_cons,
      List.length_append] at enough
    rw [nestingEntries] at shallow
    obtain ⟨b, next⟩ := nextKey_lead first before
      (stringBytes k ++ 58 :: (encode v.print ++ (entriesBytes false es ++ rest)))
    obtain ⟨b', key⟩ := string_print k (b + 1) (58 :: (encode v.print ++ (entriesBytes false es ++ rest)))
    obtain ⟨c, read⟩ := back (k, v) List.mem_cons_self fuel depth (b' + 1)
      (entriesBytes false es ++ rest) (by simp only; omega) (by simp only; omega)
      (delimited_entriesBytes es rest)
    obtain ⟨c', more⟩ := ih (fun e he => back e (List.mem_cons_of_mem _ he)) fuel false
      (done ++ [(k, v)]) (by rwa [List.append_assoc]) c (by omega) (by omega)
    refine ⟨c', ?_⟩
    simp only [entriesBytes, List.append_assoc, List.cons_append, entries, next, Cursor.skip,
      List.drop_succ_cons, List.drop_zero, key, colon_cons, read, Keyed.insert_last v above, more,
      List.nil_append]

/-! ## Values -/

theorem value_digit {x : UInt8} (digit : isDigit x = true) (fuel depth before : Nat)
    (tail : List UInt8) : value (fuel + 1) depth ⟨before, x :: tail⟩ =
      (match number false ⟨before, x :: tail⟩ with
        | .ok (n, c) => .ok (.number n, c)
        | .error e => .error e) := by
  rw [value, skipSpace_cons (not_space_of_isDigit digit).1]
  simp only
  split
  case h_8 => exact if_pos digit
  all_goals exact absurd digit (by decide)

theorem whole_print {n : Int} (inRange : (Number.whole n).InRange) : ReadsBack (.number (.whole n)) := by
  intro fuel depth before rest enough shallow delimited
  have max : maxU64 = 2 ^ 64 - 1 := rfl
  have range : -2 ^ 63 ≤ n ∧ n < 2 ^ 64 := inRange
  cases n with
  | ofNat n =>
    obtain ⟨x, tail, head, digit⟩ := printNat_head n
    have fits : (n : Int) < 2 ^ 64 := range.2
    obtain ⟨b, read⟩ := number_print false (n := n) (by omega) before delimited
    obtain ⟨fuel, rfl⟩ := exists_succ (n := (encode (printNat n)).length) (by simp [head]) enough
    refine ⟨b, ?_⟩
    show value (fuel + 1) depth ⟨before, encode (printNat n) ++ rest⟩ = _
    rw [head, List.cons_append] at read ⊢
    rw [value_digit digit, read]
    rfl
  | negSucc n =>
    obtain ⟨b, read⟩ := number_print true (n := n + 1) (by omega) (before + 1) delimited
    obtain ⟨fuel, rfl⟩ := exists_succ (n := (encode (printNat (n + 1))).length + 1) (by omega) enough
    refine ⟨b, ?_⟩
    show value (fuel + 1) depth ⟨before, 45 :: (encode (printNat (n + 1)) ++ rest)⟩ = _
    rw [value, skipSpace_cons rfl]
    simp only [Cursor.skip, List.drop_succ_cons, List.drop_zero, read, wholeNumber_negSucc inRange]

/-- An object is read back, if its values are; what follows does not matter. -/
theorem object_print {es : Object} (ascending : es.Ascending) (back : ∀ e ∈ es, ReadsBack e.2)
    (fuel depth before : Nat) (rest : List UInt8)
    (enough : 2 * (encode (Value.object es).print).length ≤ fuel)
    (shallow : (Value.object es).nesting < depth) : ∃ b,
      value fuel depth ⟨before, encode (Value.object es).print ++ rest⟩ = .ok (.object es, ⟨b, rest⟩) := by
  have bytes : encode (Value.object es).print = 123 :: entriesBytes true es := by
    rw [Value.print, encode_cons, encode_printEntries]
    rfl
  rw [bytes] at enough ⊢
  rw [List.length_cons] at enough
  rw [Value.nesting] at shallow
  obtain ⟨fuel, rfl⟩ := exists_succ (Nat.succ_pos _) enough
  obtain ⟨b, read⟩ := entries_print back fuel (depth - 1) true [] ascending (before + 1) rest
    (by omega) (by omega)
  refine ⟨b, ?_⟩
  have deep : ¬depth ≤ 1 := by omega
  rw [value, List.cons_append, skipSpace_cons rfl]
  simp only [Cursor.skip, List.drop_succ_cons, List.drop_zero, if_neg deep, read, List.nil_append]

/-- A printed value is read as the value. -/
theorem value_print {v : Value} (regular : Regular v) : ReadsBack v := by
  induction regular with
  | null =>
    intro fuel depth before rest enough shallow delimited
    obtain ⟨fuel, rfl⟩ := exists_succ (n := 4) (by decide) enough
    exact ⟨before + 4, rfl⟩
  | bool b =>
    intro fuel depth before rest enough shallow delimited
    cases b with
    | true =>
      obtain ⟨fuel, rfl⟩ := exists_succ (n := 4) (by decide) enough
      exact ⟨before + 4, rfl⟩
    | false =>
      obtain ⟨fuel, rfl⟩ := exists_succ (n := 5) (by decide) enough
      exact ⟨before + 5, rfl⟩
  | @number n inRange =>
    cases n with
    | whole n => exact whole_print inRange
    | float => exact inRange.elim
  | string s =>
    intro fuel depth before rest enough shallow delimited
    rw [Value.print, encode_printString] at enough ⊢
    obtain ⟨fuel, rfl⟩ := exists_succ (Nat.succ_pos _) enough
    obtain ⟨b, read⟩ := string_print s (before + 1) rest
    refine ⟨b, ?_⟩
    rw [value, List.cons_append, skipSpace_cons rfl]
    simp only [Cursor.skip, List.drop_succ_cons, List.drop_zero, read]
  | @array vs regular ih =>
    intro fuel depth before rest enough shallow delimited
    have bytes : encode (Value.array vs).print = 91 :: itemsBytes true vs := by
      rw [Value.print, encode_cons, encode_printItems]
      rfl
    rw [bytes] at enough ⊢
    rw [List.length_cons] at enough
    rw [Value.nesting] at shallow
    obtain ⟨fuel, rfl⟩ := exists_succ (Nat.succ_pos _) enough
    obtain ⟨b, read⟩ := items_print regular ih fuel (depth - 1) true [] (before + 1) rest (by omega)
      (by omega)
    refine ⟨b, ?_⟩
    have deep : ¬depth ≤ 1 := by omega
    rw [value, List.cons_append, skipSpace_cons rfl]
    simp only [Cursor.skip, List.drop_succ_cons, List.drop_zero, if_neg deep, read, List.reverse_nil,
      List.nil_append]
  | object ascending regular ih =>
    intro fuel depth before rest enough shallow delimited
    exact object_print ascending ih fuel depth before rest enough shallow

/-- A text that holds a printed object is read as the object. -/
theorem read_print {es : Object} (ascending : es.Ascending) (regular : ∀ e ∈ es, Regular e.2)
    (shallow : (Value.object es).nesting < depthLimit) :
    read (encode (Value.object es).print) = .ok (.object es) := by
  obtain ⟨b, h⟩ := object_print ascending (fun e he => value_print (regular e he))
    (2 * (encode (Value.object es).print).length + 2) depthLimit 0 [] (by omega) shallow
  rw [List.append_nil] at h
  rw [read, Cursor.start, h]
  rfl

end Sluice.Json
