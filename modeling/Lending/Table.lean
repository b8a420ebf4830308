/-
Finite tables kept in ascending order of their keys.

A key type is `Ranked` by an injection into the natural numbers. A table is a list of entries whose ranks strictly
ascend, so a key occurs at most once, the listing order is the key order, and two tables that answer every look-up alike
are equal (`ext_get?`).
-/

namespace Lending

/-- keys in the order of their ranks -/
class Ranked (κ : Type) where
  rank : κ → Nat
  rank_inj {a b : κ} : rank a = rank b → a = b

open Ranked (rank rank_inj)

variable {κ α : Type} [Ranked κ]

/-! ## Entries in ascending order -/

namespace Entries

/-- the value at a key -/
def find? (k : κ) : List (κ × α) → Option α
  | [] => none
  | (l, v) :: rest => if rank k = rank l then some v else find? k rest

/-- the entries with one more in its place, or in the place of the entry at the same key -/
def put (k : κ) (v : α) : List (κ × α) → List (κ × α)
  | [] => [(k, v)]
  | (l, w) :: rest =>
    if rank k < rank l then (k, v) :: (l, w) :: rest
    else if rank k = rank l then (k, v) :: rest
    else (l, w) :: put k v rest

/-- the ranks strictly ascend -/
def Ascending (entries : List (κ × α)) : Prop := entries.Pairwise fun a b => rank a.1 < rank b.1

theorem mem_put {k : κ} {v : α} {e : κ × α} {entries : List (κ × α)} (h : e ∈ put k v entries) :
    e = (k, v) ∨ e ∈ entries := by
  induction entries with
  | nil => exact .inl (List.mem_singleton.1 h)
  | cons x rest ih =>
    obtain ⟨l, w⟩ := x
    unfold put at h
    split at h
    · exact (List.mem_cons.1 h)
    · split at h
      · exact (List.mem_cons.1 h).imp_right (List.mem_cons_of_mem _)
      · rcases List.mem_cons.1 h with h | h
        · exact .inr (h ▸ List.mem_cons_self)
        · exact (ih h).imp_right (List.mem_cons_of_mem _)

theorem ascending_put (k : κ) (v : α) {entries : List (κ × α)} (h : Ascending entries) :
    Ascending (put k v entries) := by
  induction entries with
  | nil => exact List.pairwise_singleton _ _
  | cons x rest ih =>
    obtain ⟨l, w⟩ := x
    have hx := List.pairwise_cons.1 h
    unfold put
    split
    · next hlt =>
      refine List.pairwise_cons.2 ⟨fun e he => ?_, h⟩
      rcases List.mem_cons.1 he with rfl | he
      · exact hlt
      · exact Nat.lt_trans hlt (hx.1 e he)
    · split
      · next heq => exact List.pairwise_cons.2 ⟨fun e he => heq ▸ hx.1 e he, hx.2⟩
      · next hlt hne =>
        refine List.pairwise_cons.2 ⟨fun e he => ?_, ih hx.2⟩
        rcases mem_put he with rfl | he
        · exact Nat.lt_of_le_of_ne (Nat.not_lt.1 hlt) (Ne.symm hne)
        · exact hx.1 e he

theorem find?_put_self (k : κ) (v : α) (entries : List (κ × α)) : find? k (put k v entries) = some v := by
  induction entries with
  | nil => exact if_pos rfl
  | cons x rest ih =>
    obtain ⟨l, w⟩ := x
    unfold put
    split
    · exact if_pos rfl
    · split
      · exact if_pos rfl
      · next hne => unfold find?; rw [if_neg hne, ih]

theorem find?_put_ne {k l : κ} (v : α) (entries : List (κ × α)) (h : l ≠ k) :
    find? l (put k v entries) = find? l entries := by
  have hr : rank l ≠ rank k := fun e => h (rank_inj e)
  induction entries with
  | nil => exact if_neg hr
  | cons x rest ih =>
    obtain ⟨m, w⟩ := x
    unfold put
    split
    · rw [find?, if_neg hr]
    · split
      · next heq => rw [find?, find?, if_neg hr, if_neg (heq ▸ hr)]
      · rw [find?, find?, ih]

theorem find?_eq_none {k : κ} {entries : List (κ × α)} (h : ∀ e ∈ entries, rank k < rank e.1) :
    find? k entries = none := by
  induction entries with
  | nil => rfl
  | cons x rest ih =>
    obtain ⟨l, w⟩ := x
    have hl : rank k < rank l := h _ List.mem_cons_self
    rw [find?, if_neg (Nat.ne_of_lt hl)]
    exact ih fun e he => h e (List.mem_cons_of_mem _ he)

/-- ascending entries are determined by what they answer -/
theorem eq_of_find?_eq {xs ys : List (κ × α)} (hx : Ascending xs) (hy : Ascending ys)
    (h : ∀ k, find? k xs = find? k ys) : xs = ys := by
  induction xs generalizing ys with
  | nil =>
    cases ys with
    | nil => rfl
    | cons y ys => have := h y.1; rw [find?, find?, if_pos rfl] at this; cases this
  | cons x xs ih =>
    obtain ⟨k, v⟩ := x
    have hx' := List.pairwise_cons.1 hx
    have hk : find? k ((k, v) :: xs) = some v := if_pos rfl
    cases ys with
    | nil => rw [h k] at hk; cases hk
    | cons y ys =>
      obtain ⟨l, w⟩ := y
      have hy' := List.pairwise_cons.1 hy
      have hl : find? l ((l, w) :: ys) = some w := if_pos rfl
      rcases Nat.lt_trichotomy (rank k) (rank l) with hlt | heq | hgt
      · rw [h k, find?_eq_none] at hk
        · cases hk
        · intro e he
          rcases List.mem_cons.1 he with rfl | he
          · exact hlt
          · exact Nat.lt_trans hlt (hy'.1 e he)
      · obtain rfl := rank_inj heq
        rw [h k, hl] at hk
        cases hk
        congr 1
        refine ih hx'.2 hy'.2 fun m => ?_
        by_cases hm : rank m = rank k
        · obtain rfl := rank_inj hm
          rw [find?_eq_none hx'.1, find?_eq_none hy'.1]
        · have := h m
          rwa [find?, find?, if_neg hm, if_neg hm] at this
      · rw [← h l, find?_eq_none] at hl
        · cases hl
        · intro e he
          rcases List.mem_cons.1 he with rfl | he
          · exact hgt
          · exact Nat.lt_trans hgt (hx'.1 e he)

end Entries

/-! ## Tables -/

/-- a table from keys to values -/
structure Table (κ α : Type) [Ranked κ] where
  entries : List (κ × α)
  ascending : Entries.Ascending entries

namespace Table

/-- the table without entries -/
def empty : Table κ α := ⟨[], List.Pairwise.nil⟩

instance : Inhabited (Table κ α) := ⟨empty⟩

/-- the value at a key -/
def get? (table : Table κ α) (k : κ) : Option α := Entries.find? k table.entries

/-- the table with the value at a key set -/
def insert (table : Table κ α) (k : κ) (v : α) : Table κ α :=
  ⟨Entries.put k v table.entries, Entries.ascending_put k v table.ascending⟩

/-- the values, in the order of their keys -/
def values (table : Table κ α) : List α := table.entries.map (·.2)

/-- the key has a value -/
def Has (table : Table κ α) (k : κ) : Prop := (table.get? k).isSome = true

instance (table : Table κ α) (k : κ) : Decidable (table.Has k) := inferInstanceAs (Decidable (_ = _))

@[simp] theorem get?_empty (k : κ) : (empty : Table κ α).get? k = none := rfl

@[simp] theorem get?_insert_self (table : Table κ α) (k : κ) (v : α) : (table.insert k v).get? k = some v :=
  Entries.find?_put_self k v table.entries

theorem get?_insert_ne (table : Table κ α) {k l : κ} (v : α) (h : l ≠ k) :
    (table.insert k v).get? l = table.get? l :=
  Entries.find?_put_ne v table.entries h

/-- a table is determined by what it answers -/
theorem ext_get? {s t : Table κ α} (h : ∀ k, s.get? k = t.get? k) : s = t := by
  obtain ⟨xs, hx⟩ := s
  obtain ⟨ys, hy⟩ := t
  obtain rfl : xs = ys := Entries.eq_of_find?_eq hx hy h
  rfl

end Table

end Lending
