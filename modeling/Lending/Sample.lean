/-
Sample settings, markets and positions of plausible size, for trying actions out.
-/
import Lending.Account.Basic
import Lending.Config

namespace Lending.Sample

/-- `n` percent, as a ray -/
def percent (n : Nat) : UInt256 := UInt256.ofNat (ray * n / 100)

/-- `n` whole tokens of an asset with 18 decimals -/
def tokens (n : Nat) : UInt256 := UInt256.ofNat (n * wad)

/-- a curve that bends at 45% usage, from 7% to 307% above its base -/
def curve : RateCurve where
  optimalUsage := percent 45
  baseVariable := 0
  variableSlope1 := percent 7
  variableSlope2 := percent 300
  stableSlope1 := percent 7
  stableSlope2 := percent 300
  stableOffset := percent 2
  stableExcessOffset := percent 5
  optimalStableShare := percent 20

/-- market settings with a bonus of 5%, a tenth of which goes to the treasury -/
def reserveConfig : ReserveConfig where
  curve := curve
  liquidationBonus := 10500
  liquidationProtocolFee := 1000
  unbackedMintCap := 1000000

/-- pool settings with a flash loan premium of nine basis points -/
def poolConfig : PoolConfig where
  treasury := Address.repeated 0xFE
  flashPremium := 9
  flashPremiumToTreasury := 3000
  backingFeeToTreasury := 1000

/-- a market just listed, with a reserve factor of 10% -/
def newReserve : Reserve :=
  .opened { asset := Address.repeated 0x01, symbol := "TST", decimals := 18, reserveFactor := 1000 } 0

/-- that market with 1000 tokens supplied -/
def suppliedReserve : Reserve :=
  { newReserve with
    available := tokens 1000
    totalLiquidity := tokens 1000
    scaledSupply := tokens 1000
    rates := { newReserve.rates with stableRate := percent 9 } }

/-- that market with 300 of the tokens borrowed at the variable rate -/
def borrowedReserve : Checked Reserve := do
  let scaled ← suppliedReserve.scaleDebt (tokens 300)
  let reserve ← suppliedReserve.mintVariableDebt scaled
  reserve.refresh curve 0 (tokens 300)

/-- a position with nothing but a million tokens in the wallet -/
def position (asset : Address) : Position := .empty (Address.repeated 0x0A) asset (tokens 1000000)

end Lending.Sample
