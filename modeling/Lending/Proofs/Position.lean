/-
What each operation does to a position, and why it can be refused.

As for reserves, every operation has one lemma that gives the whole position after it. `scaledPart_le` and
`scaledDebtPart_le` are the reason that no partial repayment or withdrawal takes more scaled balance than there is: at
an index of at least one, an amount that is not the whole balance lies strictly below it.
-/
import Lending.Position
import Lending.Proofs.Reserve

namespace Lending.Position

open UInt256

/-! ## Accruing -/

theorem accrue_eq_ok {p q : Position} {r : Reserve} {now : Nat} (h : p.accrue r now = .ok q) :
    r.asset = p.asset ∧ ∃ supply variableDebt stableDebt : UInt256,
      q = { p with supply, variableDebt, stableDebt, liquidityRate := r.rates.liquidityRate } ∧
      p.scaledSupply.rayMul r.liquidityIndex = .ok supply ∧
      p.scaledVariableDebt.rayMul r.debtIndex = .ok variableDebt ∧
      stableDebtAt p.principalStableDebt p.stableRate p.stableUpdated now = .ok stableDebt := by
  simp only [accrue, bind_eq_ok, require_eq_ok] at h
  obtain ⟨_, hasset, supply, hs, variableDebt, hv, stableDebt, hd, h⟩ := h
  cases h
  exact ⟨hasset, supply, variableDebt, stableDebt, rfl, hs, hv, hd⟩

/-! ## Supply -/

theorem addSupply_spec {p q : Position} {scaled : UInt256} (h : p.addSupply scaled = .ok q) :
    ∃ (scaledSupply : UInt256) (collateral : Bool), q = { p with scaledSupply, collateral } ∧
      scaledSupply.toNat = p.scaledSupply.toNat + scaled.toNat ∧
      collateral = (decide (p.scaledSupply = 0 ∧ scaled ≠ 0) || p.collateral) := by
  obtain ⟨sum, hsum, h⟩ := bind_eq_ok.1 h
  cases h
  exact ⟨sum, _, rfl, add_eq_ok.1 hsum, rfl⟩

theorem removeSupply_spec {p q : Position} {scaled : UInt256} (h : p.removeSupply scaled = .ok q) :
    ∃ (scaledSupply : UInt256) (collateral : Bool), q = { p with scaledSupply, collateral } ∧
      scaledSupply.toNat + scaled.toNat = p.scaledSupply.toNat ∧
      collateral = (decide (scaledSupply ≠ 0) && p.collateral) := by
  obtain ⟨rest, hrest, h⟩ := bind_eq_ok.1 h
  cases h
  have := sub_eq_ok.1 hrest
  exact ⟨rest, _, rfl, by omega, rfl⟩

theorem creditSupply_spec {p q : Position} {scaled : UInt256} (h : p.creditSupply scaled = .ok q) :
    ∃ scaledSupply : UInt256, q = { p with scaledSupply } ∧
      scaledSupply.toNat = p.scaledSupply.toNat + scaled.toNat := by
  obtain ⟨sum, hsum, h⟩ := bind_eq_ok.1 h
  cases h
  exact ⟨sum, rfl, add_eq_ok.1 hsum⟩

theorem setCollateral_spec {p q : Position} {enabled : Bool} (h : p.setCollateral enabled = .ok q) :
    q = { p with collateral := enabled } ∧ (enabled = true → p.scaledSupply ≠ 0) := by
  obtain ⟨_, hr, h⟩ := bind_eq_ok.1 h
  cases h
  exact ⟨rfl, require_eq_ok.1 hr⟩

/-- the scaled part of an amount that the balance covers is covered by the scaled balance -/
theorem scaledPart_le {p : Position} {r : Reserve} {amount scaled : UInt256} (hi : ray ≤ r.liquidityIndex.toNat)
    (hs : p.scaledSupply.rayMul r.liquidityIndex = .ok p.supply) (hle : amount.toNat ≤ p.supply.toNat)
    (h : p.scaledPart amount r = .ok scaled) : scaled.toNat ≤ p.scaledSupply.toNat := by
  unfold scaledPart at h
  split at h
  · cases h
    exact le_rfl
  · next hne =>
    have hlt : amount.toNat < p.supply.toNat := Nat.lt_of_le_of_ne hle fun e => hne (ext e)
    rw [toNat_rayMul hs] at hlt
    rw [toNat_rayDiv h]
    exact halfUp_part_le ray_pos hi hlt

/-! ## Debt -/

theorem addVariableDebt_spec {p q : Position} {scaled : UInt256} (h : p.addVariableDebt scaled = .ok q) :
    ∃ scaledVariableDebt : UInt256, q = { p with scaledVariableDebt } ∧
      scaledVariableDebt.toNat = p.scaledVariableDebt.toNat + scaled.toNat := by
  obtain ⟨sum, hsum, h⟩ := bind_eq_ok.1 h
  cases h
  exact ⟨sum, rfl, add_eq_ok.1 hsum⟩

theorem removeVariableDebt_spec {p q : Position} {scaled : UInt256} (h : p.removeVariableDebt scaled = .ok q) :
    ∃ scaledVariableDebt : UInt256, q = { p with scaledVariableDebt } ∧
      scaledVariableDebt.toNat + scaled.toNat = p.scaledVariableDebt.toNat := by
  obtain ⟨rest, hrest, h⟩ := bind_eq_ok.1 h
  cases h
  have := sub_eq_ok.1 hrest
  exact ⟨rest, rfl, by omega⟩

/-- the scaled part of an amount that the debt covers is covered by the scaled debt -/
theorem scaledDebtPart_le {p : Position} {r : Reserve} {amount scaled : UInt256} (hi : ray ≤ r.debtIndex.toNat)
    (hs : p.scaledVariableDebt.rayMul r.debtIndex = .ok p.variableDebt) (hle : amount.toNat ≤ p.variableDebt.toNat)
    (h : p.scaledDebtPart amount r = .ok scaled) : scaled.toNat ≤ p.scaledVariableDebt.toNat := by
  unfold scaledDebtPart at h
  split at h
  · cases h
    exact le_rfl
  · next hne =>
    have hlt : amount.toNat < p.variableDebt.toNat := Nat.lt_of_le_of_ne hle fun e => hne (ext e)
    rw [toNat_rayMul hs] at hlt
    rw [toNat_rayDiv h]
    exact halfUp_part_le ray_pos hi hlt

theorem addStableDebt_spec {p q : Position} {amount rate : UInt256} {now : Nat}
    (h : p.addStableDebt amount rate now = .ok q) :
    ∃ stableRate debt : UInt256,
      q = { p with stableRate, principalStableDebt := debt, stableDebt := debt, stableUpdated := now } ∧
      debt.toNat = p.stableDebt.toNat + amount.toNat := by
  simp only [addStableDebt, bind_eq_ok, add_eq_ok] at h
  obtain ⟨stableRate, _, debt, hdebt, h⟩ := h
  cases h
  exact ⟨stableRate, debt, rfl, hdebt⟩

/-- a cleared debt has no rate and no time, any other keeps its rate and takes the time of the change -/
theorem removeStableDebt_spec {p q : Position} {amount : UInt256} {now : Nat}
    (h : p.removeStableDebt amount now = .ok q) :
    ∃ (debt stableRate : UInt256) (stableUpdated : Nat),
      q = { p with principalStableDebt := debt, stableDebt := debt, stableRate, stableUpdated } ∧
      debt.toNat + amount.toNat = p.stableDebt.toNat ∧
      (if debt = 0 then stableRate = 0 ∧ stableUpdated = 0 else stableRate = p.stableRate ∧ stableUpdated = now) := by
  obtain ⟨debt, hdebt, h⟩ := bind_eq_ok.1 h
  have hsub := sub_eq_ok.1 hdebt
  split at h
  · next h0 =>
    cases h
    subst h0
    exact ⟨0, 0, 0, rfl, by omega, by rw [if_pos rfl]; exact ⟨rfl, rfl⟩⟩
  · next h0 =>
    cases h
    exact ⟨debt, p.stableRate, now, rfl, by omega, by rw [if_neg h0]; exact ⟨rfl, rfl⟩⟩

/-! ## Wallet -/

theorem spend_spec {p q : Position} {amount : UInt256} (h : p.spend amount = .ok q) :
    ∃ wallet : UInt256, q = { p with wallet } ∧ wallet.toNat + amount.toNat = p.wallet.toNat := by
  obtain ⟨rest, hrest, h⟩ := bind_eq_ok.1 h
  cases h
  have := subOr_eq_ok.1 hrest
  exact ⟨rest, rfl, by omega⟩

theorem receive_spec {p q : Position} {amount : UInt256} (h : p.receive amount = .ok q) :
    ∃ wallet : UInt256, q = { p with wallet } ∧ wallet.toNat = p.wallet.toNat + amount.toNat := by
  obtain ⟨sum, hsum, h⟩ := bind_eq_ok.1 h
  cases h
  exact ⟨sum, rfl, add_eq_ok.1 hsum⟩

/-! ## Refusals -/

variable {S : Fault → Prop}

/-- a position is refused in another market than its own, or at a time before its stable debt -/
theorem failsOnly_accrue (ho : S .overflow) {p : Position} {r : Reserve} {now : Nat}
    (hb : ¬ (r.asset = p.asset ∧ p.stableUpdated ≤ now) → S .badRequest) : FailsOnly S (p.accrue r now) := by
  refine (failsOnly_require fun hother => hb fun h => hother h.1).bind fun _ _ => ?_
  refine (failsOnly_rayMul ho _ _).bind fun _ _ => (failsOnly_rayMul ho _ _).bind fun _ _ => ?_
  exact (failsOnly_stableDebtAt ho (fun hlate => hb fun h => hlate h.2) _ _).bind fun _ _ => failsOnly_pure _

theorem failsOnly_totalDebt (ho : S .overflow) (p : Position) : FailsOnly S p.totalDebt := failsOnly_add ho _ _

theorem failsOnly_scaledPart (ho : S .overflow) {r : Reserve} (hi : r.liquidityIndex.toNat ≠ 0) (amount : UInt256)
    (p : Position) : FailsOnly S (p.scaledPart amount r) :=
  failsOnly_ite (fun _ => failsOnly_pure _) fun _ => Reserve.failsOnly_scaleSupply ho hi amount

theorem failsOnly_addSupply (ho : S .overflow) (scaled : UInt256) (p : Position) : FailsOnly S (p.addSupply scaled) :=
  (failsOnly_add ho _ _).bind fun _ _ => failsOnly_pure _

theorem failsOnly_removeSupply {p : Position} {scaled : UInt256} (h : scaled.toNat ≤ p.scaledSupply.toNat) :
    FailsOnly S (p.removeSupply scaled) :=
  (failsOnly_sub h).bind fun _ _ => failsOnly_pure _

theorem failsOnly_creditSupply (ho : S .overflow) (scaled : UInt256) (p : Position) :
    FailsOnly S (p.creditSupply scaled) :=
  (failsOnly_add ho _ _).bind fun _ _ => failsOnly_pure _

theorem failsOnly_setCollateral (hb : S .badRequest) (enabled : Bool) (p : Position) :
    FailsOnly S (p.setCollateral enabled) :=
  (failsOnly_require fun _ => hb).bind fun _ _ => failsOnly_pure _

theorem failsOnly_scaledDebtPart (ho : S .overflow) {r : Reserve} (hi : r.debtIndex.toNat ≠ 0) (amount : UInt256)
    (p : Position) : FailsOnly S (p.scaledDebtPart amount r) :=
  failsOnly_ite (fun _ => failsOnly_pure _) fun _ => Reserve.failsOnly_scaleDebt ho hi amount

theorem failsOnly_addVariableDebt (ho : S .overflow) (scaled : UInt256) (p : Position) :
    FailsOnly S (p.addVariableDebt scaled) :=
  (failsOnly_add ho _ _).bind fun _ _ => failsOnly_pure _

theorem failsOnly_removeVariableDebt {p : Position} {scaled : UInt256}
    (h : scaled.toNat ≤ p.scaledVariableDebt.toNat) : FailsOnly S (p.removeVariableDebt scaled) :=
  (failsOnly_sub h).bind fun _ _ => failsOnly_pure _

theorem failsOnly_addStableDebt (ho : S .overflow) (amount rate : UInt256) (now : Nat) (p : Position) :
    FailsOnly S (p.addStableDebt amount rate now) :=
  (failsOnly_blendedRate ho _ _ _ _).bind fun _ _ => (failsOnly_add ho _ _).bind fun _ _ => failsOnly_pure _

theorem failsOnly_removeStableDebt {p : Position} {amount : UInt256} (h : amount.toNat ≤ p.stableDebt.toNat)
    (now : Nat) : FailsOnly S (p.removeStableDebt amount now) :=
  (failsOnly_sub h).bind fun _ _ => failsOnly_ite (fun _ => failsOnly_pure _) fun _ => failsOnly_pure _

/-- a wallet pays whatever it holds -/
theorem failsOnly_spend {amount : UInt256} {p : Position} (hb : ¬ amount ≤ p.wallet → S .badRequest) :
    FailsOnly S (p.spend amount) :=
  (failsOnly_subOr fun hlt => hb fun hle => Nat.not_le.2 hlt (le_iff.1 hle)).bind fun _ _ => failsOnly_pure _

theorem failsOnly_receive (ho : S .overflow) (amount : UInt256) (p : Position) : FailsOnly S (p.receive amount) :=
  (failsOnly_add ho _ _).bind fun _ _ => failsOnly_pure _

end Lending.Position
