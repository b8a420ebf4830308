/-
Why a request can be refused.

`Cause pool now action f` has one constructor for each reason why `action` can be refused with `f` at `now`: the numbers
do not fit, the request asks for what cannot be done, it names a market that is not listed, it mints unbacked supply, it
pays a fee to suppliers that do not exist, or it prices the collateral of a liquidation at zero. On a pool that is
reached with reserve factors of at most one hundred percent there is no other reason.

Results:
- `apply_cause`: every refusal has a cause;
- `apply_unlisted`: a request that names a market that is not listed is refused for that;
- `apply_error`: which faults a request can be refused with, and when. It never breaks an invariant.
-/
import Lending.Proofs.Conservation
import Lending.Proofs.LiquidationRefusals

namespace Lending

/-- the assets that an action names -/
def Action.assets : Action → List Address
  | .account _ asset _ | .setCollateral _ asset _ | .transfer _ _ asset _ => [asset]
  | .liquidation _ _ debtAsset collateralAsset _ => [debtAsset, collateralAsset]

namespace Pool

/-- why an action can be refused with a fault -/
inductive Cause (pool : Pool) (now : Nat) (action : Action) : Fault → Prop where
  | overflow : Cause pool now action .overflow
  | badRequest : Cause pool now action .badRequest
  | unlisted {asset : Address} (named : asset ∈ action.assets) (h : ¬ pool.reserves.Has asset) :
      Cause pool now action .reserveNotFound
  | mintCap {owner asset : Address} {change : AccountAction} (is : action = .account owner asset change)
      (mints : change.MintsUnbacked) : Cause pool now action .mintCapExceeded
  | noSuppliers {owner asset : Address} {change : AccountAction} {r accrued : Reserve}
      (is : action = .account owner asset change) (pays : change.PaysFee) (market : pool.reserves.get? asset = some r)
      (accrues : r.accrue now = .ok accrued) (empty : accrued.totalSupply = .ok 0) :
      Cause pool now action .divisionByZero
  | noPrice {liquidator borrower debtAsset collateralAsset : Address} {terms : Liquidation.Terms}
      (is : action = .liquidation liquidator borrower debtAsset collateralAsset terms)
      (free : terms.collateralPrice = 0) : Cause pool now action .divisionByZero

/-! ## Look-ups -/

section Lookups

variable {S : Fault → Prop} {pool : Pool} {asset : Address}

theorem reserveOf_unlisted (h : ¬ pool.reserves.Has asset) : pool.reserveOf asset = .error .reserveNotFound := by
  rw [reserveOf, Table.not_has_iff.1 h]

theorem positionOf_unlisted (h : ¬ pool.reserves.Has asset) (owner : Address) :
    pool.positionOf owner asset = .error .reserveNotFound := by
  rw [positionOf, bind_eq_error]
  exact .inl (require_eq_error.2 ⟨h, rfl⟩)

theorem WellFormed.configOf_unlisted (hp : pool.WellFormed) (h : ¬ pool.reserves.Has asset) :
    pool.configOf asset = .error .reserveNotFound := by
  have hnone : ¬ pool.configs.Has asset := fun hc => h ((hp.listed asset).1 hc)
  rw [configOf, Table.not_has_iff.1 hnone]

theorem failsOnly_reserveOf (hn : ¬ pool.reserves.Has asset → S .reserveNotFound) :
    FailsOnly S (pool.reserveOf asset) := by
  by_cases h : pool.reserves.Has asset
  · obtain ⟨r, hr⟩ := Option.isSome_iff_exists.1 h
    rw [reserveOf_eq_ok.2 hr]
    exact failsOnly_ok r
  · rw [reserveOf_unlisted h]
    exact failsOnly_error (hn h)

theorem failsOnly_positionOf (hn : ¬ pool.reserves.Has asset → S .reserveNotFound) (owner : Address) :
    FailsOnly S (pool.positionOf owner asset) :=
  (failsOnly_require hn).bind fun _ _ => failsOnly_pure _

theorem WellFormed.failsOnly_configOf (hp : pool.WellFormed) (hn : ¬ pool.reserves.Has asset → S .reserveNotFound) :
    FailsOnly S (pool.configOf asset) := by
  by_cases h : pool.configs.Has asset
  · obtain ⟨c, hc⟩ := Option.isSome_iff_exists.1 h
    rw [configOf_eq_ok.2 hc]
    exact failsOnly_ok c
  · have hr : ¬ pool.reserves.Has asset := fun hr => h ((hp.listed asset).2 hr)
    rw [hp.configOf_unlisted hr]
    exact failsOnly_error (hn hr)

theorem failsOnly_accountOf (hn : ¬ pool.reserves.Has asset → S .reserveNotFound) (owner : Address) :
    FailsOnly S (pool.accountOf owner asset) :=
  (failsOnly_reserveOf hn).bind fun _ _ => (failsOnly_positionOf hn owner).bind fun _ _ => failsOnly_pure _

theorem failsOnly_bookOf {debtAsset collateralAsset : Address} (hd : ¬ pool.reserves.Has debtAsset → S .reserveNotFound)
    (hc : ¬ pool.reserves.Has collateralAsset → S .reserveNotFound) (liquidator borrower : Address) :
    FailsOnly S (pool.bookOf liquidator borrower debtAsset collateralAsset) := by
  refine (failsOnly_positionOf hd _).bind fun _ _ => (failsOnly_positionOf hc _).bind fun _ _ => ?_
  refine (failsOnly_positionOf hd _).bind fun _ _ => (failsOnly_positionOf hc _).bind fun _ _ => ?_
  refine (failsOnly_positionOf hc _).bind fun _ _ => ?_
  exact (failsOnly_reserveOf hd).bind fun _ _ => (failsOnly_reserveOf hc).bind fun _ _ => failsOnly_pure _

end Lookups

/-! ## Every refusal has a cause -/

variable {pool : Pool} {now : Nat}

theorem failsOnly_account (h : Reaches Event.WithinFactor pool) (owner asset : Address) (change : AccountAction) :
    FailsOnly (Cause pool now (.account owner asset change)) (pool.act now (.account owner asset change)) := by
  have hp := h.wellFormed
  have hn : ¬ pool.reserves.Has asset → Cause pool now (.account owner asset change) .reserveNotFound :=
    .unlisted (List.mem_singleton.2 rfl)
  apply (hp.failsOnly_configOf hn).bind
  intro config hc
  apply (failsOnly_accountOf hn owner).bind
  intro a ha
  obtain ⟨hr, hq⟩ := accountOf_eq_ok ha
  have hbends := (hp.settings (configOf_eq_ok.1 hc)).bends
  refine FailsOnly.bind ?_ fun _ _ => failsOnly_pure _
  refine Account.failsOnly_perform .overflow .badRequest (h.sound hr) (h.scaledSupply_le hr hq) hp.config hbends ?_ ?_
  · intro hmints
    exact .mintCap rfl hmints
  · intro hpays accrued haccrued hzero
    exact .noSuppliers rfl hpays hr haccrued hzero

theorem failsOnly_setCollateral (h : Reaches Event.WithinFactor pool) (owner asset : Address) (enabled : Bool) :
    FailsOnly (Cause pool now (.setCollateral owner asset enabled))
      (pool.act now (.setCollateral owner asset enabled)) := by
  have hn : ¬ pool.reserves.Has asset → Cause pool now (.setCollateral owner asset enabled) .reserveNotFound :=
    .unlisted (List.mem_singleton.2 rfl)
  apply (failsOnly_accountOf hn owner).bind
  intro a ha
  obtain ⟨hr, _⟩ := accountOf_eq_ok ha
  refine FailsOnly.bind ?_ fun _ _ => failsOnly_pure _
  exact Account.failsOnly_setCollateral .overflow .badRequest (h.sound hr) enabled now

theorem failsOnly_transfer (h : Reaches Event.WithinFactor pool) (sender recipient asset : Address) (amount : UInt256) :
    FailsOnly (Cause pool now (.transfer sender recipient asset amount))
      (pool.act now (.transfer sender recipient asset amount)) := by
  have hn : ¬ pool.reserves.Has asset → Cause pool now (.transfer sender recipient asset amount) .reserveNotFound :=
    .unlisted (List.mem_singleton.2 rfl)
  apply (failsOnly_reserveOf hn).bind
  intro r hr
  apply (failsOnly_positionOf hn sender).bind
  intro s _
  refine (failsOnly_positionOf hn recipient).bind fun p _ => FailsOnly.bind ?_ fun _ _ => failsOnly_pure _
  exact Transfer.failsOnly_perform .overflow .badRequest (h.sound (reserveOf_eq_ok.1 hr)) amount now _

theorem failsOnly_liquidation (h : Reaches Event.WithinFactor pool)
    (liquidator borrower debtAsset collateralAsset : Address) (terms : Liquidation.Terms) :
    FailsOnly (Cause pool now (.liquidation liquidator borrower debtAsset collateralAsset terms))
      (pool.act now (.liquidation liquidator borrower debtAsset collateralAsset terms)) := by
  have hp := h.wellFormed
  have hd : ¬ pool.reserves.Has debtAsset →
      Cause pool now (.liquidation liquidator borrower debtAsset collateralAsset terms) .reserveNotFound :=
    .unlisted List.mem_cons_self
  have hc : ¬ pool.reserves.Has collateralAsset →
      Cause pool now (.liquidation liquidator borrower debtAsset collateralAsset terms) .reserveNotFound :=
    .unlisted (List.mem_cons_of_mem _ (List.mem_singleton.2 rfl))
  apply (failsOnly_bookOf hd hc liquidator borrower).bind
  intro book hbook
  apply (hp.failsOnly_configOf hd).bind
  intro debtConfig hdc
  refine (hp.failsOnly_configOf hc).bind fun collateralConfig hcc => FailsOnly.bind ?_ fun _ _ => failsOnly_pure _
  have hb := bookOf_eq_ok hbook
  refine Liquidation.Book.failsOnly_liquidate .overflow .badRequest (.noPrice rfl) (hp.settings (configOf_eq_ok.1 hdc))
    (hp.settings (configOf_eq_ok.1 hcc)) (h.sound hb.debtReserve) (h.sound hb.collateralReserve) ?_ now
  exact h.scaledSupply_le hb.collateralReserve hb.borrowerCollateral

theorem apply_cause (h : Reaches Event.WithinFactor pool) (request : Request) :
    FailsOnly (Cause pool request.timestamp request.action) (pool.apply request) := by
  obtain ⟨now, action⟩ := request
  cases action with
  | account owner asset change => exact failsOnly_account h owner asset change
  | setCollateral owner asset enabled => exact failsOnly_setCollateral h owner asset enabled
  | transfer sender recipient asset amount => exact failsOnly_transfer h sender recipient asset amount
  | liquidation liquidator borrower debtAsset collateralAsset terms =>
    exact failsOnly_liquidation h liquidator borrower debtAsset collateralAsset terms

/-! ## Markets that are not listed -/

/-- whether the named markets are listed is looked at before anything else -/
theorem apply_unlisted (hp : pool.WellFormed) {request : Request} {asset : Address}
    (named : asset ∈ request.action.assets) (h : ¬ pool.reserves.Has asset) :
    pool.apply request = .error .reserveNotFound := by
  obtain ⟨now, action⟩ := request
  cases action with
  | account owner asset' change =>
    obtain rfl := List.mem_singleton.1 named
    exact bind_eq_error.2 (.inl (hp.configOf_unlisted h))
  | setCollateral owner asset' enabled =>
    obtain rfl := List.mem_singleton.1 named
    exact bind_eq_error.2 (.inl (bind_eq_error.2 (.inl (reserveOf_unlisted h))))
  | transfer sender recipient asset' amount =>
    obtain rfl := List.mem_singleton.1 named
    exact bind_eq_error.2 (.inl (reserveOf_unlisted h))
  | liquidation liquidator borrower debtAsset collateralAsset terms =>
    refine bind_eq_error.2 (.inl ?_)
    by_cases hd : pool.reserves.Has debtAsset
    · have hasset : asset = collateralAsset := by
        rcases List.mem_cons.1 named with rfl | hm
        · exact absurd hd h
        · exact List.mem_singleton.1 hm
      subst hasset
      refine bind_eq_error.2 (.inr ⟨_, positionOf_eq_ok.2 ⟨hd, rfl⟩, ?_⟩)
      exact bind_eq_error.2 (.inl (positionOf_unlisted h borrower))
    · exact bind_eq_error.2 (.inl (positionOf_unlisted hd borrower))

/-! ## The faults -/

/-- **The faults of a request.** No invariant breaks and no settings turn out to be invalid; a market is not found
exactly when one that is named is not listed; only minting unbacked supply meets its cap; and nothing is divided by
zero but a fee for suppliers that do not exist, or by the price of a collateral that has none. -/
theorem apply_error (h : Reaches Event.WithinFactor pool) (request : Request) :
    pool.apply request ≠ .error .invariantViolation ∧ pool.apply request ≠ .error .invalidConfig ∧
    (pool.apply request = .error .reserveNotFound ↔ ∃ asset ∈ request.action.assets, ¬ pool.reserves.Has asset) ∧
    (pool.apply request = .error .mintCapExceeded →
      ∃ owner asset amount, request.action = .account owner asset (.mintUnbacked amount)) ∧
    (pool.apply request = .error .divisionByZero →
      (∃ owner asset change reserve accrued, request.action = .account owner asset change ∧
        ((∃ amount, change = .flashLoan amount) ∨ ∃ amount fee, change = .backUnbacked amount fee) ∧
        pool.reserves.get? asset = some reserve ∧ reserve.accrue request.timestamp = .ok accrued ∧
        accrued.totalSupply = .ok 0) ∨
      ∃ liquidator borrower debtAsset collateralAsset terms,
        request.action = .liquidation liquidator borrower debtAsset collateralAsset terms ∧
        terms.collateralPrice = 0) := by
  have hcause := apply_cause h request
  refine ⟨?_, ?_, ⟨?_, ?_⟩, ?_, ?_⟩
  · intro hf
    cases hcause _ hf
  · intro hf
    cases hcause _ hf
  · intro hf
    cases hcause _ hf with
    | unlisted named hn => exact ⟨_, named, hn⟩
  · rintro ⟨asset, named, hn⟩
    exact apply_unlisted h.wellFormed named hn
  · intro hf
    cases hcause _ hf with
    | mintCap is mints =>
      cases ‹AccountAction› with
      | mintUnbacked amount => exact ⟨_, _, amount, is⟩
      | _ => exact mints.elim
  · intro hf
    cases hcause _ hf with
    | noSuppliers is pays market accrues empty =>
      refine .inl ⟨_, _, _, _, _, is, ?_, market, accrues, empty⟩
      cases ‹AccountAction› with
      | flashLoan amount => exact .inl ⟨amount, rfl⟩
      | backUnbacked amount fee => exact .inr ⟨amount, fee, rfl⟩
      | _ => exact pays.elim
    | noPrice is free => exact .inr ⟨_, _, _, _, _, is, free⟩

/-- a market just listed has no suppliers to pay a fee to -/
theorem apply_error_listed :
    ∃ pool, runFrom Sample.poolConfig [.list Sample.reserveConfig (Sample.listing Sample.debt) 0] = .ok pool ∧
      ∃ reserve accrued, pool.reserves.get? Sample.debt = some reserve ∧ reserve.accrue 5 = .ok accrued ∧
        accrued.totalSupply = .ok 0 := by
  obtain ⟨pool, hrun, herror⟩ :
      ∃ pool, runFrom Sample.poolConfig [.list Sample.reserveConfig (Sample.listing Sample.debt) 0] = .ok pool ∧
        pool.apply ⟨5, .account Sample.supplier Sample.debt (.backUnbacked 0 1000)⟩ = .error .divisionByZero := by
    decide +kernel
  have hreach : Reaches Event.WithinFactor pool := Reaches.of_runFrom (by decide) hrun
  obtain ⟨_, _, _, _, hdivision⟩ :=
    apply_error hreach ⟨5, .account Sample.supplier Sample.debt (.backUnbacked 0 1000)⟩
  rcases hdivision herror with ⟨_, _, _, reserve, accrued, is, _, hr, ha, hz⟩ | ⟨_, _, _, _, _, is, _⟩
  · obtain ⟨rfl, rfl, _⟩ := Action.account.inj is
    exact ⟨pool, hrun, reserve, accrued, hr, ha, hz⟩
  · cases is

end Pool

end Lending
