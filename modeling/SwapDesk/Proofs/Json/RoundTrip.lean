import SwapDesk.Proofs.Json.Number
import SwapDesk.Proofs.Json.Quoted

/-!
# JSON text reads back

The compact text of a value without doubles is read as the document that the value is, with all
fields in their order. The fuel of the reader is enough because each step takes a character.
-/

namespace SwapDesk.Json

/-- Every number in the value is an integer of 64 bits. -/
inductive IsExact : Json → Prop
  | null : IsExact .null
  | bool (b : Bool) : IsExact (.bool b)
  | number {n : Number} : n.IsExact → IsExact (.number n)
  | string (s : String) : IsExact (.string s)
  | array {items : List Json} : (∀ item ∈ items, IsExact item) → IsExact (.array items)
  | object {fields : List (String × Json)} :
      (∀ field ∈ fields, IsExact field.2) → IsExact (.object fields)

@[simp]
theorem isExact_string (s : String) : (string s).IsExact := .string s

@[simp]
theorem isExact_bool (b : Bool) : (bool b).IsExact := .bool b

theorem isExact_natural {n : Nat} : (natural n).IsExact ↔ n ≤ greatestNatural := by
  constructor
  · rintro ⟨⟩
    next h =>
      have hhigh := h.2
      omega
  · intro h
    refine .number ⟨?_, ?_⟩ <;> omega

@[simp]
theorem isExact_array {items : List Json} :
    (array items).IsExact ↔ ∀ item ∈ items, item.IsExact :=
  ⟨fun | .array h => h, .array⟩

@[simp]
theorem isExact_object {fields : List (String × Json)} :
    (object fields).IsExact ↔ ∀ field ∈ fields, field.2.IsExact :=
  ⟨fun | .object h => h, .object⟩

theorem writtenItems_eq_map (items : List Json) : writtenItems items = items.map written := by
  induction items with
  | nil => rfl
  | cons item items ih => rw [writtenItems, ih, List.map_cons]

theorem writtenFields_eq_map (fields : List (String × Json)) :
    writtenFields fields = fields.map fun field => (field.1, field.2.written) := by
  induction fields with
  | nil => rfl
  | cons field fields ih => rw [writtenFields, ih, List.map_cons]

namespace Grammar

variable {s t u rest : List Char}

/-! ## Blanks -/

/-- The text starts with a character that is no blank and ends no array. -/
def Starts (s : List Char) : Prop :=
  ∃ c t, s = c :: t ∧ isSpace c = false ∧ c ≠ ']'

theorem skipSpace_cons {c : Char} (hc : isSpace c = false) (t : List Char) :
    skipSpace (c :: t) = c :: t :=
  List.dropWhile_cons_of_neg (by rw [hc]; exact Bool.false_ne_true)

theorem Starts.skipSpace (hs : Starts s) (rest : List Char) :
    skipSpace (s ++ rest) = s ++ rest := by
  obtain ⟨c, t, rfl, hc, -⟩ := hs
  exact skipSpace_cons hc (t ++ rest)

theorem starts_chars {v : Json} (hv : v.IsExact) : Starts v.chars := by
  cases hv with
  | null => exact ⟨_, _, rfl, rfl, by decide⟩
  | bool b => cases b <;> exact ⟨_, _, rfl, rfl, by decide⟩
  | number hn =>
    obtain ⟨c, t, ht, hc⟩ := hn.chars_eq_cons
    refine ⟨c, t, ht, ?_, ?_⟩
    · rw [← Bool.not_eq_true]
      intro hspace
      simp only [isSpace, Bool.or_eq_true, decide_eq_true_eq] at hspace
      obtain ((rfl | rfl) | rfl) | rfl := hspace <;> revert hc <;> decide
    · rintro rfl
      revert hc
      decide
  | string s => exact ⟨_, _, rfl, rfl, by decide⟩
  | @array items _ => cases items <;> exact ⟨_, _, rfl, rfl, by decide⟩
  | @object fields _ => cases fields <;> exact ⟨_, _, rfl, rfl, by decide⟩

/-! ## Steps of the reader -/

private theorem document?_string (fuel : Nat) (s : String) (rest : List Char) :
    document? (fuel + 1) (quote s ++ rest) = some (.string s, rest) := by
  rw [quote, List.cons_append, List.append_assoc, document?, List.singleton_append,
    stringRest?_flatMap_escape]
  rfl

private theorem document?_number {fuel : Nat} {n : Number} (hn : n.IsExact)
    (hrest : EndsNumber rest) :
    document? (fuel + 1) (n.chars ++ rest) = some (.number n, rest) := by
  have hread := number?_chars hn hrest
  obtain ⟨c, t, ht, hc⟩ := hn.chars_eq_cons
  have hother : ∀ d u, n.chars ++ rest = d :: u → d.isDigit ∨ d = '-' := by
    intro d u hu
    rw [ht] at hu
    injection hu with hd
    rwa [← hd]
  have hnot : ∀ {d : Char}, ¬ (d.isDigit ∨ d = '-') → ∀ u, n.chars ++ rest ≠ d :: u :=
    fun hd u hu => hd (hother _ u hu)
  rw [document?.eq_8 _ _ (fun _ => hnot (by decide) _) (fun _ => hnot (by decide) _)
    (fun _ => hnot (by decide) _) (hnot (by decide)) (hnot (by decide)) (hnot (by decide)), hread]
  rfl

private theorem document?_array {fuel : Nat} {items : List Written} (hs : Starts s)
    (hitems : items? fuel (s ++ t) = some (items, rest)) :
    document? (fuel + 1) ('[' :: (s ++ t)) = some (.array items, rest) := by
  rw [document?, hs.skipSpace]
  obtain ⟨c, u, rfl, -, hc⟩ := hs
  rw [List.cons_append] at hitems ⊢
  split
  · next heq =>
    injection heq with heq
    exact absurd heq hc
  · rw [hitems]
    rfl

private theorem document?_object {fuel : Nat} {key : String}
    {fields : List (Option String × Written)}
    (hfields : fields? fuel (quote key ++ t) = some (fields, rest)) :
    document? (fuel + 1) ('{' :: (quote key ++ t)) = some (objectOf fields, rest) := by
  rw [quote, List.cons_append] at hfields ⊢
  rw [document?, skipSpace_cons rfl]
  change (fields? fuel _ >>= _) = _
  rw [hfields]
  rfl

private theorem items?_last {fuel : Nat} {item : Written}
    (hitem : document? fuel s = some (item, ']' :: rest)) :
    items? (fuel + 1) s = some ([item], rest) := by
  have hclose : skipSpace (']' :: rest) = ']' :: rest := skipSpace_cons rfl rest
  simp only [items?, hitem, hclose, Option.bind_eq_bind, Option.bind_some]

private theorem items?_more {fuel : Nat} {item : Written} {items : List Written} (ht : Starts t)
    (hitem : document? fuel s = some (item, ',' :: (t ++ u)))
    (hitems : items? fuel (t ++ u) = some (items, rest)) :
    items? (fuel + 1) s = some (item :: items, rest) := by
  have hcomma : skipSpace (',' :: (t ++ u)) = ',' :: (t ++ u) := skipSpace_cons rfl _
  simp only [items?, hitem, hcomma, ht.skipSpace, hitems, Option.bind_eq_bind, Option.bind_some]

/-- What is read once the value of a field has been read: the end of the object or more fields. -/
def closeField? (fuel : Nat) (key : String) (field : Written) (t : List Char) :
    Option (List (Option String × Written) × List Char) :=
  match skipSpace t with
  | '}' :: rest => some ([(some key, field)], rest)
  | ',' :: rest => do
    let (fields, rest) ← fields? fuel (skipSpace rest)
    some ((some key, field) :: fields, rest)
  | _ => none

private theorem fields?_value {fuel : Nat} {key : String} {field : Written} (hs : Starts s)
    (hfield : document? fuel (s ++ t) = some (field, u)) :
    fields? (fuel + 1) (quote key ++ ':' :: (s ++ t)) = closeField? fuel key field u := by
  have hcolon : skipSpace (':' :: (s ++ t)) = ':' :: (s ++ t) := skipSpace_cons rfl _
  rw [quote, List.cons_append, List.append_assoc, fields?, List.singleton_append,
    stringRest?_flatMap_escape]
  simp only [hcolon, hs.skipSpace, hfield, Option.bind_eq_bind, Option.bind_some]
  rfl

private theorem fields?_last {fuel : Nat} {key : String} {field : Written} (hs : Starts s)
    (hfield : document? fuel (s ++ t) = some (field, '}' :: rest)) :
    fields? (fuel + 1) (quote key ++ ':' :: (s ++ t)) = some ([(some key, field)], rest) := by
  rw [fields?_value hs hfield, closeField?, skipSpace_cons rfl]
  rfl

private theorem fields?_more {fuel : Nat} {key next : String} {field : Written}
    {fields : List (Option String × Written)} (hs : Starts s)
    (hfield : document? fuel (s ++ t) = some (field, ',' :: (quote next ++ u)))
    (hfields : fields? fuel (quote next ++ u) = some (fields, rest)) :
    fields? (fuel + 1) (quote key ++ ':' :: (s ++ t)) =
      some ((some key, field) :: fields, rest) := by
  have hnext : skipSpace (quote next ++ u) = quote next ++ u := skipSpace_cons rfl _
  rw [fields?_value hs hfield, closeField?, skipSpace_cons rfl]
  simp only [hnext, hfields, Option.bind_eq_bind, Option.bind_some]

/-! ## Whole values -/

/-- The text of the value is read as the value, whatever stands behind it, with a step of fuel for
each character. -/
def ReadsBack (v : Json) : Prop :=
  ∀ fuel rest, v.chars.length ≤ fuel → EndsNumber rest →
    document? fuel (v.chars ++ rest) = some (v.written, rest)

private theorem items?_chars {item : Json} {items : List Json}
    (hitems : ∀ i ∈ item :: items, Starts i.chars ∧ ReadsBack i) {fuel : Nat}
    (hfuel : (item.chars ++ moreItems items).length ≤ fuel) (rest : List Char) :
    items? fuel (item.chars ++ (moreItems items ++ rest)) =
      some ((item :: items).map written, rest) := by
  -- Each item takes a step of fuel, which the comma in front of it pays for.
  induction items generalizing item fuel with
  | nil =>
    have hitem := (hitems item (List.mem_cons_self ..)).2
    rw [moreItems, List.length_append, List.length_singleton] at hfuel
    obtain ⟨fuel, rfl⟩ := Nat.exists_eq_succ_of_ne_zero (n := fuel) (by omega)
    exact items?_last (hitem fuel _ (by omega) (endsNumber_cons (by decide)))
  | cons next items ih =>
    rw [List.forall_mem_cons] at hitems
    rw [moreItems, List.length_append, List.length_cons] at hfuel
    obtain ⟨fuel, rfl⟩ := Nat.exists_eq_succ_of_ne_zero (n := fuel) (by omega)
    have hnext := @ih next hitems.2 fuel (by omega)
    have hitem := hitems.1.2 fuel (moreItems (next :: items) ++ rest) (by omega)
      (endsNumber_cons (by decide))
    rw [moreItems, List.cons_append, List.append_assoc] at hitem ⊢
    exact items?_more (hitems.2 next (List.mem_cons_self ..)).1 hitem hnext

private theorem fields?_chars {field : String × Json} {fields : List (String × Json)}
    (hfields : ∀ f ∈ field :: fields, Starts f.2.chars ∧ ReadsBack f.2) {fuel : Nat}
    (hfuel : (quote field.1 ++ ':' :: (field.2.chars ++ moreFields fields)).length ≤ fuel)
    (rest : List Char) :
    fields? fuel (quote field.1 ++ ':' :: (field.2.chars ++ (moreFields fields ++ rest))) =
      some ((field :: fields).map fun f => (some f.1, f.2.written), rest) := by
  induction fields generalizing field fuel with
  | nil =>
    obtain ⟨hstarts, hfield⟩ := hfields field (List.mem_cons_self ..)
    rw [moreFields, List.length_append, List.length_cons, List.length_append,
      List.length_singleton] at hfuel
    obtain ⟨fuel, rfl⟩ := Nat.exists_eq_succ_of_ne_zero (n := fuel) (by omega)
    exact fields?_last hstarts (hfield fuel _ (by omega) (endsNumber_cons (by decide)))
  | cons next fields ih =>
    rw [List.forall_mem_cons] at hfields
    rw [moreFields, List.length_append, List.length_cons, List.length_append,
      List.length_cons] at hfuel
    obtain ⟨fuel, rfl⟩ := Nat.exists_eq_succ_of_ne_zero (n := fuel) (by omega)
    have hnext := @ih next hfields.2 fuel (by omega)
    have hfield := hfields.1.2 fuel (moreFields (next :: fields) ++ rest) (by omega)
      (endsNumber_cons (by decide))
    rw [moreFields, List.cons_append, List.append_assoc, List.cons_append,
      List.append_assoc] at hfield ⊢
    exact fields?_more hfields.1.1 hfield hnext

private theorem objectOf_written (fields : List (String × Json)) :
    objectOf (fields.map fun f => (some f.1, f.2.written)) = .object (writtenFields fields) := by
  have hall : (fields.map fun f => (some f.1, f.2.written)).mapM
      (fun f : Option String × Written => f.1.map fun key => (key, f.2)) =
        some (fields.map fun f => (f.1, f.2.written)) := by
    induction fields with
    | nil => rfl
    | cons field fields ih =>
      rw [List.map_cons, List.mapM_cons, ih]
      rfl
  rw [writtenFields_eq_map]
  simp only [objectOf, hall]

private theorem readsBack_of_succ {v : Json} (hv : v.IsExact)
    (h : ∀ fuel rest, v.chars.length ≤ fuel + 1 → EndsNumber rest →
      document? (fuel + 1) (v.chars ++ rest) = some (v.written, rest)) : ReadsBack v := by
  intro fuel rest hfuel
  obtain ⟨c, t, ht, -⟩ := starts_chars hv
  have hpos : 0 < v.chars.length := by rw [ht]; exact Nat.zero_lt_succ _
  obtain ⟨fuel, rfl⟩ := Nat.exists_eq_succ_of_ne_zero (n := fuel) (by omega)
  exact h fuel rest hfuel

/-- The text of a value without doubles is read as the value. -/
theorem readsBack {v : Json} (hv : v.IsExact) : ReadsBack v := by
  -- The brackets around the parts of an array or object pay for the step into it.
  induction hv with
  | null => exact readsBack_of_succ .null fun _ _ _ _ => rfl
  | bool b => cases b <;> exact readsBack_of_succ (.bool _) fun _ _ _ _ => rfl
  | number hn => exact readsBack_of_succ (.number hn) fun _ _ _ hrest => document?_number hn hrest
  | string s =>
    exact readsBack_of_succ (.string s) fun fuel rest _ _ => document?_string fuel s rest
  | @array items hitems ih =>
    apply readsBack_of_succ (.array hitems)
    intro fuel rest hfuel _
    cases items with
    | nil => rfl
    | cons item items =>
      have hread := items?_chars (fun i hi => ⟨starts_chars (hitems i hi), ih i hi⟩)
        (Nat.le_of_succ_le_succ hfuel) rest
      rw [chars, written, writtenItems_eq_map, List.cons_append, List.append_assoc]
      exact document?_array (starts_chars (hitems item (List.mem_cons_self ..))) hread
  | @object fields hfields ih =>
    apply readsBack_of_succ (.object hfields)
    intro fuel rest hfuel _
    cases fields with
    | nil => rfl
    | cons field fields =>
      have hread := fields?_chars (fun f hf => ⟨starts_chars (hfields f hf), ih f hf⟩)
        (Nat.le_of_succ_le_succ hfuel) rest
      rw [chars, written, ← objectOf_written, List.cons_append, List.append_assoc,
        List.cons_append, List.append_assoc]
      exact document?_object hread

end Grammar

theorem Written.parse?_render {v : Json} (hv : v.IsExact) : parse? v.render = some v.written := by
  have hread := Grammar.readsBack hv (2 * v.chars.length + 2) [] (by omega) endsNumber_nil
  have hspace := (Grammar.starts_chars hv).skipSpace []
  rw [List.append_nil] at hread hspace
  rw [parse?, render, String.toList_ofList, hspace]
  simp only [hread, Option.bind_eq_bind, Option.bind_some]
  rfl

end SwapDesk.Json
