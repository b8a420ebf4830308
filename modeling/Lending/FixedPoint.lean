/-
Fixed-point arithmetic on three scales: wads (18 decimals), rays (27 decimals) and basis points.

All three scales share two operations, `mulHalfUp` and `divHalfUp`: the exact product or quotient rounded to the nearest
integer, a tie upwards. Adding half of the divisor before a division that rounds down does the rounding, and the
numerator that holds this half must fit in 256 bits. The named operations fix the scale.
-/
import Lending.UInt256

namespace Lending

/-- one, with 18 decimals -/
def wad : Nat := Nat.pow 10 18

/-- one, with 27 decimals -/
def ray : Nat := Nat.pow 10 27

/-- rays per wad -/
def raysPerWad : Nat := Nat.pow 10 9

/-- one hundred percent, in basis points -/
def hundredPercent : Nat := 10000

namespace UInt256

/-- the product of `a` and `b` on the scale whose one is `one`, rounded to the nearest with ties upwards -/
def mulHalfUp (one : Nat) (a : UInt256) (b : Nat) : Checked UInt256 := do
  let numerator ← fit (a.toNat * b + one / 2)
  return numerator.divNat one

/-- the quotient of `a` by `b` on the scale whose one is `one`, rounded to the nearest with ties upwards -/
def divHalfUp (one : Nat) (a : UInt256) (b : Nat) : Checked UInt256 := do
  require (b ≠ 0) .divisionByZero
  let numerator ← fit (a.toNat * one + b / 2)
  return numerator.divNat b

theorem mulHalfUp_eq_ok {one b : Nat} {a c : UInt256} :
    mulHalfUp one a b = .ok c ↔
      a.toNat * b + one / 2 < Nat.pow 2 256 ∧ c.toNat = (a.toNat * b + one / 2) / one := by
  unfold mulHalfUp
  rw [bind_eq_ok]
  constructor
  · rintro ⟨n, hn, hc⟩
    rw [fit_eq_ok] at hn
    cases hc
    exact ⟨hn ▸ n.toNat_lt, by rw [toNat_divNat, hn]⟩
  · rintro ⟨hlt, hc⟩
    exact ⟨⟨_, hlt⟩, fit_eq_ok.2 rfl, congrArg Except.ok (ext hc.symm)⟩

theorem divHalfUp_eq_ok {one b : Nat} {a c : UInt256} :
    divHalfUp one a b = .ok c ↔
      b ≠ 0 ∧ a.toNat * one + b / 2 < Nat.pow 2 256 ∧ c.toNat = (a.toNat * one + b / 2) / b := by
  unfold divHalfUp
  rw [bind_eq_ok]
  constructor
  · rintro ⟨u, hu, h⟩
    obtain ⟨n, hn, hc⟩ := bind_eq_ok.1 h
    rw [fit_eq_ok] at hn
    cases hc
    exact ⟨require_eq_ok.1 hu, hn ▸ n.toNat_lt, by rw [toNat_divNat, hn]⟩
  · rintro ⟨hb, hlt, hc⟩
    exact ⟨(), require_eq_ok.2 hb, bind_eq_ok.2
      ⟨⟨_, hlt⟩, fit_eq_ok.2 rfl, congrArg Except.ok (ext hc.symm)⟩⟩

/-! ## The three scales -/

/-- one, as a ray -/
def oneRay : UInt256 := ⟨ray, by decide⟩

@[simp] theorem toNat_oneRay : oneRay.toNat = ray := rfl

/-- the product of two wads -/
def wadMul (a b : UInt256) : Checked UInt256 := mulHalfUp wad a b.toNat

/-- the quotient of two wads -/
def wadDiv (a b : UInt256) : Checked UInt256 := divHalfUp wad a b.toNat

/-- the product of two rays -/
def rayMul (a b : UInt256) : Checked UInt256 := mulHalfUp ray a b.toNat

/-- the quotient of two rays -/
def rayDiv (a b : UInt256) : Checked UInt256 := divHalfUp ray a b.toNat

/-- the share of `a` given by `share` basis points -/
def percentMul (a : UInt256) (share : Nat) : Checked UInt256 := mulHalfUp hundredPercent a share

/-- the value of which `a` is the share given by `share` basis points -/
def percentDiv (a : UInt256) (share : Nat) : Checked UInt256 := divHalfUp hundredPercent a share

/-- the same number with nine more decimals -/
def wadToRay (a : UInt256) : Checked UInt256 := fit (a.toNat * raysPerWad)

/-- the same number with nine decimals less, rounded to the nearest with ties upwards; the result always fits, because
rounding adds at most one to a quotient that is far below the largest value -/
def rayToWad (a : UInt256) : UInt256 :=
  ⟨(a.toNat + raysPerWad / 2) / raysPerWad, by
    have h : a.toNat < 2 ^ 256 := a.toNat_lt
    show (a.toNat + 10 ^ 9 / 2) / 10 ^ 9 < 2 ^ 256
    omega⟩

end UInt256

end Lending
