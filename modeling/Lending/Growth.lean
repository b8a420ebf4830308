/-
How a balance grows with time at an annual rate.

A growth factor is a ray: simple interest for suppliers (`linearGrowth`), interest compounded every second for borrowers
(`compoundedGrowth`). The second is the first four terms of the binomial expansion of `(1 + r / year) ^ n`. An index is
the product of all growth factors so far; a stable debt grows from its principal by one factor.

Times are seconds, and a time before the last update is refused before anything else is looked at.
-/
import Lending.FixedPoint

namespace Lending

/-- the seconds of a year of 365 days -/
def secondsPerYear : Nat := 31536000

/-- the growth factor of simple interest at `rate` from `since` to `now` -/
def linearGrowth (rate : UInt256) (since now : Nat) : Checked UInt256 := do
  require (since ≤ now) .badRequest
  let interest ← UInt256.fit (rate.toNat * (now - since))
  UInt256.fit (ray + interest.toNat / secondsPerYear)

/-- the first four terms of the expansion of interest at `rate` compounded over `n` seconds: the powers of the rate are
divided by the powers of the year before the binomial coefficients multiply them, which fixes the rounding of each
term; `n - 2` is zero below two seconds, so the last term starts at three -/
def compoundedTerms (rate : UInt256) (n : Nat) : Checked UInt256 := do
  let square ← rate.rayMul rate
  let square := square.divNat (secondsPerYear * secondsPerYear)
  let cube ← square.rayMul rate
  let cube := cube.divNat secondsPerYear
  let second ← UInt256.fit (n * (n - 1) * square.toNat)
  let third ← UInt256.fit (n * (n - 1) * (n - 2) * cube.toNat)
  let first ← UInt256.fit (rate.toNat * n)
  UInt256.fit (ray + first.toNat / secondsPerYear + second.toNat / 2 + third.toNat / 6)

/-- the growth factor of interest at `rate` compounded every second from `since` to `now` -/
def compoundedGrowth (rate : UInt256) (since now : Nat) : Checked UInt256 := do
  require (since ≤ now) .badRequest
  if now = since then return UInt256.oneRay else compoundedTerms rate (now - since)

/-- the supply index at `now`, given its value at `since` and the supply rate in force from then on -/
def supplyIndexAt (rate index : UInt256) (since now : Nat) : Checked UInt256 := do
  require (since ≤ now) .badRequest
  if rate = 0 then return index
  else
    let growth ← linearGrowth rate since now
    growth.rayMul index

/-- the variable debt index at `now`, given its value at `since` and the variable rate in force from then on -/
def debtIndexAt (rate index : UInt256) (since now : Nat) : Checked UInt256 := do
  require (since ≤ now) .badRequest
  if rate = 0 then return index
  else
    let growth ← compoundedGrowth rate since now
    growth.rayMul index

/-- what a stable debt of `principal` at `since` has grown to at `now`; no debt stays no debt at any time -/
def stableDebtAt (principal rate : UInt256) (since now : Nat) : Checked UInt256 :=
  if principal = 0 then return 0
  else do
    let growth ← compoundedGrowth rate since now
    principal.rayMul growth

end Lending
