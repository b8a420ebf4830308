/-
What no run of a pool can make or lose.

Results:
- `scaledSupply_eq_sum`: in every reachable pool, the scaled supply of a market is the sum of its users' scaled
  supplies;
- `held_apply`: a request that goes through leaves all underlying of an asset, in the hands of its market and in the
  wallets, at the same amount, whatever is rounded, capped or clamped inside it.
-/
import Lending.Proofs.Run

namespace Lending.Pool

/-! ## Sums of amounts -/

theorem partsOf_supply (asset : Address) (pool : Pool) :
    pool.partsOf .supply asset = ((pool.positionsIn asset).map fun p => p.scaledSupply.toNat).sum :=
  (cast_sum_map _ _).symm

theorem partsOf_cash (asset : Address) (pool : Pool) :
    pool.partsOf .cash asset = -((pool.positionsIn asset).map fun p => p.wallet.toNat).sum := by
  rw [cast_sum_map, List.sum_neg, List.map_map]
  rfl

/-! ## Supply -/

/-- without a gap, the supply of a market is what its positions hold -/
theorem scaledSupply_of_gap {pool : Pool} {asset : Address} (hgap : pool.gap .supply asset = 0) {reserve : Reserve}
    (hr : pool.reserves.get? asset = some reserve) :
    reserve.scaledSupply.toNat = ((pool.positionsIn asset).map fun p => p.scaledSupply.toNat).sum := by
  simp only [gap, totalOf, partsOf_supply, hr, Option.map_some, Option.getD_some] at hgap
  simp only [Tally.supply] at hgap
  omega

/-- **The scaled supply of a market is the sum of its users' scaled supplies.** -/
theorem scaledSupply_eq_sum {pool : Pool} (h : Reachable pool) {asset : Address} {reserve : Reserve}
    (hr : pool.reserves.get? asset = some reserve) :
    reserve.scaledSupply.toNat = ((pool.positionsIn asset).map fun p => p.scaledSupply.toNat).sum :=
  scaledSupply_of_gap (h.supplyGap asset) hr

/-- after a transfer to oneself and a liquidation of either kind, the treasury's fee included -/
theorem scaledSupply_eq_sum_liquidations :
    ∃ pool, runFrom Sample.poolConfig Sample.liquidations = .ok pool ∧
      ((pool.positionsIn Sample.collateral).map fun p => p.scaledSupply.toNat).sum = 79100000000000000000 := by
  obtain ⟨pool, hrun, reserve, hr, hs⟩ : ∃ pool, runFrom Sample.poolConfig Sample.liquidations = .ok pool ∧
      ∃ reserve ∈ pool.reserves.get? Sample.collateral, reserve.scaledSupply.toNat = 79100000000000000000 := by
    decide +kernel
  have hreach : Reachable pool := Reaches.of_runFrom (fun _ _ => trivial) hrun
  refine ⟨pool, hrun, ?_⟩
  rw [← scaledSupply_eq_sum hreach hr, hs]

/-- a market's supply covers that of each of its positions -/
theorem Reaches.scaledSupply_le {allowed : Event → Prop} {pool : Pool} (h : Reaches allowed pool) {asset : Address}
    {reserve : Reserve} (hr : pool.reserves.get? asset = some reserve) {owner : Address} {p : Position}
    (hq : pool.positionOf owner asset = .ok p) : p.scaledSupply.toNat ≤ reserve.scaledSupply.toNat := by
  have hle := h.wellFormed.part_le (fun q => Int.natCast_nonneg q.scaledSupply.toNat) (h.supplyGap asset) hr hq
  exact Int.ofNat_le.1 hle

/-! ## Underlying -/

/-- all underlying of an asset that its market and the wallets hold -/
def held (asset : Address) (pool : Pool) : Nat :=
  ((pool.reserves.get? asset).map fun r => r.available.toNat).getD 0 +
    ((pool.positionsIn asset).map fun p => p.wallet.toNat).sum

theorem held_eq_gap (asset : Address) (pool : Pool) : (pool.held asset : ℤ) = pool.gap .cash asset := by
  unfold held gap totalOf
  rw [partsOf_cash]
  cases pool.reserves.get? asset with
  | none => simp
  | some r => simp [Tally.cash]

/-- **A request that goes through makes and loses no underlying.** -/
theorem held_apply {pool next : Pool} (hr : Reachable pool) {request : Request} (h : pool.apply request = .ok next)
    (asset : Address) : next.held asset = pool.held asset := by
  have hgap := (act_effect hr.wellFormed h).gap hr.wellFormed (.inr rfl) asset
  rw [← held_eq_gap, ← held_eq_gap] at hgap
  exact_mod_cast hgap

/-- a liquidation that is paid out in underlying moves it in two markets at once -/
theorem held_liquidation :
    ∃ pool next, runFrom Sample.poolConfig Sample.borrowed = .ok pool ∧
      pool.apply ⟨3000, Sample.liquidation false⟩ = .ok next ∧
      next.held Sample.debt = 1100 * wad ∧ next.held Sample.collateral = 100 * wad := by
  obtain ⟨pool, hrun, ⟨next, hn, _⟩, hdebt, hcollateral⟩ :
      ∃ pool, runFrom Sample.poolConfig Sample.borrowed = .ok pool ∧
        (∃ next, pool.apply ⟨3000, Sample.liquidation false⟩ = .ok next ∧ True) ∧
        pool.held Sample.debt = 1100 * wad ∧ pool.held Sample.collateral = 100 * wad := by
    decide +kernel
  have hreach : Reachable pool := Reaches.of_runFrom (fun _ _ => trivial) hrun
  refine ⟨pool, next, hrun, hn, ?_, ?_⟩
  · rw [held_apply hreach hn, hdebt]
  · rw [held_apply hreach hn, hcollateral]

end Lending.Pool
