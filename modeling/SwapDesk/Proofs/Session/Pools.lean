import Mathlib.Data.List.Perm.Basic
import Mathlib.Data.List.Perm.Subperm
import SwapDesk.Proofs.Json.RoundTrip
import SwapDesk.Proofs.Session.Amounts

/-!
# Pools in replies

A pool in a reply is a list of its amounts, or an object in which each of them has its name. There
the order does not matter, and other fields do not count.
-/

namespace SwapDesk

theorem bind_eq_ok_iff {ε α β : Type} {result : Except ε α} {next : α → Except ε β} {b : β} :
    (result >>= next) = .ok b ↔ ∃ a, result = .ok a ∧ next a = .ok b := by
  cases result <;> simp [bind, Except.bind]

private theorem mapM_eq_ok_iff {ε α β : Type} {f : α → Except ε β} {xs : List α} {ys : List β} :
    xs.mapM f = .ok ys ↔ List.Forall₂ (fun x y => f x = .ok y) xs ys := by
  induction xs generalizing ys with
  | nil => cases ys <;> simp [pure, Except.pure]
  | cons x xs ih =>
    rw [List.mapM_cons]
    simp only [bind_eq_ok_iff, ih]
    constructor
    · rintro ⟨y, hy, rest, hrest, ⟨⟩⟩
      exact .cons hy hrest
    · rintro (_ | ⟨hy, hrest⟩)
      exact ⟨_, hy, _, hrest, rfl⟩

namespace Pool

variable {pool : Pool}

def parts (pool : Pool) : List (String × Amount) :=
  [("ynear", pool.near), ("tokens", pool.tokens), ("total_shares", pool.shares)]

private theorem perm_parts_iff {amounts : List (String × Amount)} :
    amounts.Perm pool.parts ↔ amounts.length = 3 ∧
      fieldNames.map (fun name => amounts.lookup name) =
        [some pool.near, some pool.tokens, some pool.shares] := by
  have hnames : (pool.parts.map (·.1)).Nodup := by
    change fieldNames.Nodup
    decide
  have hlookups : fieldNames.map (fun name => amounts.lookup name) =
      [some pool.near, some pool.tokens, some pool.shares] ↔
        ∀ part ∈ pool.parts, amounts.lookup part.1 = some part.2 := by
    simp [fieldNames, parts]
  rw [hlookups]
  constructor
  · intro h
    refine ⟨h.length_eq, fun part hpart => ?_⟩
    exact Json.lookup_of_nodup ((h.map _).nodup_iff.mpr hnames) (h.mem_iff.mpr hpart)
  · rintro ⟨hlength, hfound⟩
    have hsubset : pool.parts ⊆ amounts := by
      intro part hpart
      obtain ⟨before, after, hamounts, -⟩ := List.lookup_eq_some_iff.mp (hfound part hpart)
      rw [hamounts]
      simp
    exact (((List.Nodup.of_map _ hnames).subperm hsubset).perm_of_length_le hlength.le).symm

open Json (Written)

private theorem ofWritten_array_iff {items : List Written} :
    ofWritten (.array items) = .ok pool ↔
      items.mapM Written.amount = .ok [pool.near, pool.tokens, pool.shares] := by
  rw [ofWritten, bind_eq_ok_iff]
  constructor
  · rintro ⟨amounts, hread, h⟩
    split at h
    · split at h
      · next hlength =>
        cases h
        rwa [List.take_of_length_le hlength.le] at hread
      · contradiction
    · contradiction
  · intro hread
    have hlength : items.length = 3 := (mapM_eq_ok_iff.mp hread).length_eq
    rw [List.take_of_length_le hlength.le]
    exact ⟨_, hread, if_pos hlength⟩

private theorem ofWritten_object_iff {fields : List (String × Written)} :
    ofWritten (.object fields) = .ok pool ↔ ∃ amounts,
      (fields.filter fun field => fieldNames.contains field.1).mapM
        (fun (name, field) => return (name, ← field.amount)) = .ok amounts ∧
      amounts.Perm pool.parts := by
  rw [ofWritten, bind_eq_ok_iff]
  refine exists_congr fun amounts => and_congr_right fun _ => ?_
  rw [perm_parts_iff]
  constructor
  · intro h
    split at h
    · next hlength hfound =>
      cases h
      exact ⟨hlength, hfound⟩
    · contradiction
  · rintro ⟨hlength, hfound⟩
    rw [hlength, hfound]
    rfl

end Pool

/-! ## Values -/

namespace Json

/-- The value is a text that counts the amount. -/
def Spells (v : Json) (a : Amount) : Prop := ∃ s, v = .string s ∧ a.Counts s

private theorem amount_written_iff {v : Json} {a : Amount} :
    v.written.amount = .ok a ↔ v.Spells a := by
  have hstring : ∀ s, v.written = .string s ↔ v = .string s := by
    intro s
    cases v <;> simp [written]
  simp only [Amount.amount_eq_ok_iff, hstring, Amount.ofText_eq_ok_iff_counts, Spells]

/-- The value is a pool: a list of its amounts, or an object in which each of the names has one
field, with its amount. -/
inductive Describes : Json → Pool → Prop
  | listed {items : List Json} {pool : Pool} :
      List.Forall₂ Spells items [pool.near, pool.tokens, pool.shares] →
      Describes (.array items) pool
  | named {fields stated : List (String × Json)} {pool : Pool} :
      (fields.filter fun field => Pool.fieldNames.contains field.1).Perm stated →
      List.Forall₂ (fun field part => field.1 = part.1 ∧ field.2.Spells part.2) stated pool.parts →
      Describes (.object fields) pool

theorem ofWritten_written_iff {v : Json} {pool : Pool} :
    Pool.ofWritten v.written = .ok pool ↔ v.Describes pool := by
  cases v with
  | array items =>
    rw [written, Pool.ofWritten_array_iff, writtenItems_eq_map, mapM_eq_ok_iff,
      List.forall₂_map_left_iff]
    simp only [amount_written_iff]
    constructor
    · exact .listed
    · rintro ⟨hlisted⟩
      exact hlisted
  | object fields =>
    have hfield : ∀ (field : String × Json) (part : String × Amount),
        (do return (field.1, ← field.2.written.amount) : Decoded (String × Amount)) = .ok part ↔
          field.1 = part.1 ∧ field.2.Spells part.2 := by
      rintro field ⟨name, a⟩
      rw [bind_eq_ok_iff, ← amount_written_iff]
      constructor
      · rintro ⟨_, hread, ⟨⟩⟩
        exact ⟨rfl, hread⟩
      · rintro ⟨rfl, hread⟩
        exact ⟨_, hread, rfl⟩
    -- The fields may be put in order before they are read as well as afterwards.
    have hcomm := congrFun (congrFun (List.forall₂_comp_perm_eq_perm_comp_forall₂
      (r := fun (field : String × Json) (part : String × Amount) =>
        field.1 = part.1 ∧ field.2.Spells part.2))
      (fields.filter fun field => Pool.fieldNames.contains field.1)) pool.parts
    rw [written, Pool.ofWritten_object_iff, writtenFields_eq_map, List.filter_map]
    simp only [mapM_eq_ok_iff, List.forall₂_map_left_iff, hfield]
    refine (iff_of_eq hcomm).trans ⟨?_, ?_⟩
    · rintro ⟨stated, hperm, hstated⟩
      exact .named hperm hstated
    · rintro (_ | ⟨hperm, hstated⟩)
      exact ⟨_, hperm, hstated⟩
  | _ => constructor <;> rintro ⟨⟩

/-- What a value tells of a pool: there is none, or it is described. -/
inductive Tells : Json → Option Pool → Prop
  | absent : Tells .null none
  | present {v : Json} {pool : Pool} : v.Describes pool → Tells v (some pool)

theorem nullable_written_iff {v : Json} {found : Option Pool} :
    v.written.nullable Pool.ofWritten = .ok found ↔ v.Tells found := by
  by_cases hnull : v = .null
  · subst hnull
    constructor
    · rintro ⟨⟩
      exact .absent
    · rintro (_ | ⟨⟨⟩⟩)
      rfl
  · have hwritten : v.written ≠ .null := by cases v <;> simp [written] at hnull ⊢
    rw [Written.nullable.eq_2 Pool.ofWritten _ hwritten]
    constructor
    · intro h
      cases hread : Pool.ofWritten v.written with
      | error e =>
        rw [hread] at h
        contradiction
      | ok pool =>
        rw [hread] at h
        cases h
        exact .present (ofWritten_written_iff.mp hread)
    · rintro (_ | hpool)
      · contradiction
      · rw [ofWritten_written_iff.mpr hpool]
        rfl

end Json

theorem Session.readPool_eq_ok_iff {method : String} {v : Json} {found : Option Pool} :
    readPool method v = .ok found ↔ v.Tells found := by
  rw [← Json.nullable_written_iff, readPool]
  rcases v.written.nullable Pool.ofWritten with (_ | _) | _ <;> simp

end SwapDesk
