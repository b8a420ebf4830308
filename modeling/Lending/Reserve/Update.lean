/-
What actions do to a reserve that is accrued to the moment: move liquidity and refresh the rates, mint and burn debt of
either kind, mint and burn supply, and distribute lump sums.

Three of these updates run in `Stages`, each of which happens as a whole or not at all. `Stages.run` is the update that
happens as a whole or not at all itself; `Stages.attempt` keeps what the stages before a refusal have done.
-/
import Lending.Fees
import Lending.Reserve.Basic

namespace Lending.Reserve

/-! ## Updates in stages -/

/-- an update as a list of stages -/
abbrev Stages : Type := List (Reserve → Checked Reserve)

/-- the reserve after all stages, or the first refusal -/
def Stages.run (stages : Stages) (reserve : Reserve) : Checked Reserve :=
  stages.foldlM (fun reserve stage => stage reserve) reserve

/-- the reserve after the last stage that was not refused, and whether all went through -/
def Stages.attempt : Stages → Reserve → Reserve × Checked Unit
  | [], reserve => (reserve, .ok ())
  | stage :: rest, reserve =>
    match stage reserve with
    | .ok next => attempt rest next
    | .error fault => (reserve, .error fault)

/-- an attempt goes through exactly when the whole update does, and then ends in the same reserve -/
theorem Stages.attempt_eq_ok_iff (stages : Stages) (reserve next : Reserve) :
    stages.attempt reserve = (next, .ok ()) ↔ stages.run reserve = .ok next := by
  induction stages generalizing reserve with
  | nil => simp [attempt, run, pure, Except.pure]
  | cons stage rest ih =>
    unfold attempt run
    rw [List.foldlM_cons]
    cases h : stage reserve with
    | ok r => exact ih r
    | error f => simp [bind, Except.bind]

/-! ## Liquidity and rates -/

/-- adds underlying and takes some out -/
def moveLiquidity (added taken : UInt256) (reserve : Reserve) : Checked Reserve := do
  let held ← reserve.available.add added
  let available ← held.sub taken
  return { reserve with available }

/-- recounts the whole liquidity -/
def recountLiquidity (reserve : Reserve) : Checked Reserve := do
  let totalLiquidity ← reserve.available.add reserve.unbacked
  return { reserve with totalLiquidity }

/-- revalues the variable debt at the debt index -/
def revalueVariableDebt (reserve : Reserve) : Checked Reserve := do
  let totalVariableDebt ← reserve.scaledVariableDebt.rayMul reserve.debtIndex
  return { reserve with totalVariableDebt }

/-- evaluates the rate curve at the balances -/
def reprice (curve : RateCurve) (reserve : Reserve) : Checked Reserve := do
  let rates ← curve.rates reserve.balances
  return { reserve with rates }

/-- the stages of a refresh -/
def refreshStages (curve : RateCurve) (added taken : UInt256) : Stages :=
  [moveLiquidity added taken, recountLiquidity, revalueVariableDebt, reprice curve]

/-- moves liquidity and brings everything that depends on it up to date -/
def refresh (curve : RateCurve) (added taken : UInt256) (reserve : Reserve) : Checked Reserve :=
  (refreshStages curve added taken).run reserve

/-- a refresh goes through exactly when its four stages do, one after the other -/
theorem refresh_eq_ok {curve : RateCurve} {added taken : UInt256} {reserve next : Reserve} :
    reserve.refresh curve added taken = .ok next ↔
      ∃ moved counted revalued, reserve.moveLiquidity added taken = .ok moved ∧ moved.recountLiquidity = .ok counted ∧
        counted.revalueVariableDebt = .ok revalued ∧ revalued.reprice curve = .ok next := by
  unfold refresh Stages.run refreshStages
  simp only [List.foldlM_cons, List.foldlM_nil, bind_pure, bind_eq_ok]
  constructor
  · rintro ⟨a, ha, b, hb, c, hc, hd⟩
    exact ⟨a, b, c, ha, hb, hc, hd⟩
  · rintro ⟨a, b, c, ha, hb, hc, hd⟩
    exact ⟨a, ha, b, hb, c, hc, hd⟩

/-! ## Variable debt -/

/-- the stages of taking on `scaled` variable debt -/
def mintVariableStages (scaled : UInt256) : Stages :=
  [fun reserve => do
    let scaledVariableDebt ← reserve.scaledVariableDebt.add scaled
    return { reserve with scaledVariableDebt },
   revalueVariableDebt]

/-- takes on `scaled` variable debt -/
def mintVariableDebt (scaled : UInt256) (reserve : Reserve) : Checked Reserve :=
  (mintVariableStages scaled).run reserve

/-- the attempt to take on variable debt worth `amount`, with the scaled debt taken on -/
def attemptMintVariable (amount : UInt256) (reserve : Reserve) : Reserve × Checked UInt256 :=
  match reserve.scaleDebt amount with
  | .ok scaled => ((mintVariableStages scaled).attempt reserve).map id (·.map fun _ => scaled)
  | .error fault => (reserve, .error fault)

/-- the stages of giving up `scaled` variable debt; the rounding between the total and the users' parts ends at zero -/
def burnVariableStages (scaled : UInt256) : Stages :=
  [fun reserve => .ok { reserve with scaledVariableDebt := reserve.scaledVariableDebt.monus scaled },
   revalueVariableDebt]

/-- gives up `scaled` variable debt -/
def burnVariableDebt (scaled : UInt256) (reserve : Reserve) : Checked Reserve :=
  (burnVariableStages scaled).run reserve

/-! ## Stable debt -/

/-- takes on `amount` of stable debt at `rate`, blended into the average -/
def mintStableDebt (amount rate : UInt256) (now : Nat) (reserve : Reserve) : Checked Reserve := do
  let averageStableRate ← blendedRate reserve.totalStableDebt reserve.averageStableRate amount rate
  let debt ← reserve.totalStableDebt.add amount
  return { reserve with
    averageStableRate, totalStableDebt := debt, principalStableDebt := debt, stableDebtUpdated := now }

/-- gives up `amount` of stable debt carried at `rate`, taken out of the average -/
def burnStableDebt (amount rate : UInt256) (now : Nat) (reserve : Reserve) : Checked Reserve := do
  let rest ← AveragedDebt.remove ⟨reserve.totalStableDebt, reserve.averageStableRate⟩ amount rate
  return { reserve with
    averageStableRate := rest.rate, totalStableDebt := rest.debt, principalStableDebt := rest.debt
    stableDebtUpdated := now }

/-! ## Supply -/

/-- mints `scaled` supply to users -/
def mintSupply (scaled : UInt256) (reserve : Reserve) : Checked Reserve := do
  let scaledSupply ← reserve.scaledSupply.add scaled
  return { reserve with scaledSupply }

/-- burns `scaled` supply of users -/
def burnSupply (scaled : UInt256) (reserve : Reserve) : Checked Reserve := do
  let scaledSupply ← reserve.scaledSupply.sub scaled
  return { reserve with scaledSupply }

/-- mints `amount` of supply that nothing backs yet -/
def mintUnbacked (amount : UInt256) (reserve : Reserve) : Checked Reserve := do
  let unbacked ← reserve.unbacked.add amount
  return { reserve with unbacked }

/-- backs `amount` of the unbacked supply -/
def burnUnbacked (amount : UInt256) (reserve : Reserve) : Checked Reserve := do
  let unbacked ← reserve.unbacked.sub amount
  return { reserve with unbacked }

/-! ## Lump sums -/

/-- hands `amount` to all suppliers in proportion by raising the liquidity index; someone must be there to receive it -/
def distribute (amount : UInt256) (reserve : Reserve) : Checked Reserve :=
  if amount = 0 then return reserve
  else do
    let supply ← reserve.totalSupply
    let part ← amount.wadToRay
    let whole ← supply.wadToRay
    let ratio ← part.rayDiv whole
    let growth ← ratio.add UInt256.oneRay
    let liquidityIndex ← growth.rayMul reserve.liquidityIndex
    return { reserve with liquidityIndex }

/-- credits `amount` to the treasury as scaled supply -/
def creditTreasury (amount : UInt256) (reserve : Reserve) : Checked Reserve := do
  let scaled ← reserve.scaleSupply amount
  let treasuryScaled ← reserve.treasuryScaled.add scaled
  return { reserve with treasuryScaled }

/-- distributes the suppliers' part of a fee and then credits the treasury with its part -/
def collect (fee : SplitFee) (reserve : Reserve) : Checked Reserve := do
  let reserve ← reserve.distribute fee.toSuppliers
  reserve.creditTreasury fee.toTreasury

end Lending.Reserve
