/-
Unsigned 256-bit integers, the type of every amount, index, rate and price.

The type holds a natural number with the proof that it fits. Arithmetic is named by what it does outside the range:
`fit`, `add` and `mul` refuse a result that does not fit, `sub` and `subOr` refuse one below zero, `monus` stops at
zero, and `wrapAdd` and `wrapSub` go around. There is no `+`, `-` or `*` on the type, so no operation can wrap or clamp
unnoticed. Each definition is followed by the lemma that says when it succeeds, in `Nat`.

Powers are written `Nat.pow`: `^` stands for another instance where Mathlib is imported.
-/
import Lending.Fault

namespace Lending

/-- a natural number below `2 ^ 256` -/
structure UInt256 where
  toNat : Nat
  toNat_lt : toNat < Nat.pow 2 256
  deriving DecidableEq

namespace UInt256

@[ext] theorem ext {a b : UInt256} (h : a.toNat = b.toNat) : a = b := by
  cases a; cases b; cases h; rfl

theorem toNat_inj {a b : UInt256} : a.toNat = b.toNat ↔ a = b := ⟨ext, fun h => h ▸ rfl⟩

/-- the remainder of `n` modulo `2 ^ 256` -/
def ofNat (n : Nat) : UInt256 := ⟨n % Nat.pow 2 256, Nat.mod_lt _ (Nat.two_pow_pos 256)⟩

theorem toNat_ofNat {n : Nat} (h : n < Nat.pow 2 256) : (ofNat n).toNat = n := Nat.mod_eq_of_lt h

instance (n : Nat) : OfNat UInt256 n := ⟨ofNat n⟩
instance : Inhabited UInt256 := ⟨0⟩
instance : Repr UInt256 := ⟨fun a _ => repr a.toNat⟩
instance : LE UInt256 := ⟨fun a b => a.toNat ≤ b.toNat⟩
instance : LT UInt256 := ⟨fun a b => a.toNat < b.toNat⟩
instance (a b : UInt256) : Decidable (a ≤ b) := inferInstanceAs (Decidable (a.toNat ≤ b.toNat))
instance (a b : UInt256) : Decidable (a < b) := inferInstanceAs (Decidable (a.toNat < b.toNat))
instance : Min UInt256 := ⟨fun a b => if a ≤ b then a else b⟩

theorem le_iff {a b : UInt256} : a ≤ b ↔ a.toNat ≤ b.toNat := Iff.rfl

theorem lt_iff {a b : UInt256} : a < b ↔ a.toNat < b.toNat := Iff.rfl

@[simp] theorem toNat_zero : (0 : UInt256).toNat = 0 := rfl

theorem eq_zero_iff {a : UInt256} : a = 0 ↔ a.toNat = 0 := ⟨fun h => h ▸ rfl, fun h => ext h⟩

/-- what makes up a whole together with all of it is nothing -/
theorem eq_zero_of_add_eq {a b : UInt256} (h : a.toNat + b.toNat = b.toNat) : a = 0 := eq_zero_iff.2 (by omega)

theorem toNat_pos {a : UInt256} (h : a ≠ 0) : 0 < a.toNat := Nat.pos_of_ne_zero (mt eq_zero_iff.2 h)

theorem toNat_min (a b : UInt256) : (min a b).toNat = min a.toNat b.toNat := by
  show (if a ≤ b then a else b).toNat = _
  split <;> rename_i h <;> rw [le_iff] at h <;> omega

/-- the largest value; an amount equal to it asks for the whole of a balance or debt -/
def maxValue : UInt256 := ⟨Nat.pow 2 256 - 1, by decide⟩

theorem le_maxValue (a : UInt256) : a ≤ maxValue := Nat.le_sub_one_of_lt a.toNat_lt

theorem min_maxValue (a : UInt256) : min maxValue a = a := by
  apply ext
  rw [toNat_min]
  exact Nat.min_eq_right (le_iff.1 (le_maxValue a))

/-! ## Results that fit -/

/-- the value `n`, refused when it does not fit -/
def fit (n : Nat) : Checked UInt256 :=
  if h : n < Nat.pow 2 256 then .ok ⟨n, h⟩ else .error .overflow

theorem fit_eq_ok {n : Nat} {a : UInt256} : fit n = .ok a ↔ a.toNat = n := by
  unfold fit
  split
  · next h => exact ⟨fun e => by cases e; rfl, fun e => congrArg Except.ok (ext e.symm)⟩
  · next h => exact ⟨nofun, fun e => absurd (e ▸ a.toNat_lt) h⟩

theorem fit_eq_error {n : Nat} {f : Fault} : fit n = .error f ↔ Nat.pow 2 256 ≤ n ∧ f = .overflow := by
  unfold fit
  split
  · next h => exact ⟨nofun, fun e => absurd h (Nat.not_lt.2 e.1)⟩
  · next h => exact ⟨fun e => by cases e; exact ⟨Nat.not_lt.1 h, rfl⟩, fun e => by rw [e.2]⟩

/-- the sum, refused when it does not fit -/
def add (a b : UInt256) : Checked UInt256 := fit (a.toNat + b.toNat)

/-- the product, refused when it does not fit -/
def mul (a b : UInt256) : Checked UInt256 := fit (a.toNat * b.toNat)

/-- the product of a list from left to right, refused as soon as a partial product does not fit -/
def product (factors : List UInt256) : Checked UInt256 := factors.foldlM mul 1

/-- the difference, refused with `fault` when it is negative -/
def subOr (fault : Fault) (a b : UInt256) : Checked UInt256 :=
  if b ≤ a then .ok ⟨a.toNat - b.toNat, Nat.lt_of_le_of_lt (Nat.sub_le _ _) a.toNat_lt⟩ else .error fault

/-- the difference of two values the books say are ordered: a negative one breaks an invariant -/
def sub (a b : UInt256) : Checked UInt256 := subOr .invariantViolation a b

theorem add_eq_ok {a b c : UInt256} : a.add b = .ok c ↔ c.toNat = a.toNat + b.toNat := fit_eq_ok

theorem mul_eq_ok {a b c : UInt256} : a.mul b = .ok c ↔ c.toNat = a.toNat * b.toNat := fit_eq_ok

theorem subOr_eq_ok {f : Fault} {a b c : UInt256} :
    subOr f a b = .ok c ↔ b.toNat ≤ a.toNat ∧ c.toNat = a.toNat - b.toNat := by
  unfold subOr
  split
  · next h => exact ⟨fun e => by cases e; exact ⟨h, rfl⟩, fun e => congrArg Except.ok (ext e.2.symm)⟩
  · next h => exact ⟨nofun, fun e => absurd e.1 h⟩

theorem subOr_eq_error {f g : Fault} {a b : UInt256} :
    subOr f a b = .error g ↔ a.toNat < b.toNat ∧ g = f := by
  unfold subOr
  split
  · next h => exact ⟨nofun, fun e => absurd h (Nat.not_le.2 e.1)⟩
  · next h => exact ⟨fun e => by cases e; exact ⟨Nat.not_le.1 h, rfl⟩, fun e => by rw [e.2]⟩

theorem sub_eq_ok {a b c : UInt256} : a.sub b = .ok c ↔ b.toNat ≤ a.toNat ∧ c.toNat = a.toNat - b.toNat :=
  subOr_eq_ok

/-! ## Results that are always there -/

/-- the difference, or zero when it would be negative -/
def monus (a b : UInt256) : UInt256 :=
  ⟨a.toNat - b.toNat, Nat.lt_of_le_of_lt (Nat.sub_le _ _) a.toNat_lt⟩

/-- the quotient rounded down -/
def divNat (a : UInt256) (n : Nat) : UInt256 :=
  ⟨a.toNat / n, Nat.lt_of_le_of_lt (Nat.div_le_self _ _) a.toNat_lt⟩

/-- the sum modulo `2 ^ 256` -/
def wrapAdd (a b : UInt256) : UInt256 := ofNat (a.toNat + b.toNat)

/-- the difference modulo `2 ^ 256` -/
def wrapSub (a b : UInt256) : UInt256 := ofNat (a.toNat + Nat.pow 2 256 - b.toNat)

/-- the distance between two values -/
def absDiff (a b : UInt256) : UInt256 := if a ≤ b then b.monus a else a.monus b

@[simp] theorem toNat_monus (a b : UInt256) : (a.monus b).toNat = a.toNat - b.toNat := rfl

@[simp] theorem toNat_divNat (a : UInt256) (n : Nat) : (a.divNat n).toNat = a.toNat / n := rfl

theorem toNat_wrapSub_of_le {a b : UInt256} (h : b ≤ a) : (a.wrapSub b).toNat = a.toNat - b.toNat := by
  have ha : a.toNat < 2 ^ 256 := a.toNat_lt
  rw [le_iff] at h
  show (a.toNat + 2 ^ 256 - b.toNat) % 2 ^ 256 = _
  omega

theorem toNat_absDiff (a b : UInt256) : (a.absDiff b).toNat = (a.toNat - b.toNat) + (b.toNat - a.toNat) := by
  unfold absDiff
  split <;> rename_i h <;> rw [le_iff] at h <;> simp only [toNat_monus] <;> omega

end UInt256

end Lending
