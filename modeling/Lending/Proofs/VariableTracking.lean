/-
The scaled variable debt of a market is the sum of its users' scaled variable debts.

A market gives up scaled debt by a subtraction that stops at zero, so a market that had lost track of its users could
hide it. None ever does: `variableBurn?` is what a request gives up, and what it stands for is taken off the market
without a rest.

Results:
- `Effect.burnsWhole`: without a gap, an action burns all of what it gives up, and opens no gap;
- `Reaches.variableGap`: no pool that is reached has a gap;
- `variableDebt_conserved`: so the sums are exact, and no burn is ever cut off.
-/
import Lending.Proofs.Run
import Lending.Proofs.VariableDebt

namespace Lending

open UInt256

/-- variable debt that is given up: how much of it, and by which account, accrued to the moment -/
structure VariableBurn where
  account : Account
  amount : UInt256
  deriving DecidableEq, Repr

/-- the scaled debt that the market is told to burn -/
def VariableBurn.scaled (burn : VariableBurn) : Checked UInt256 :=
  burn.account.position.scaledDebtPart burn.amount burn.account.reserve

namespace Pool

/-- the variable debt that an action gives up at `now`, if it gives up any -/
def variableBurn? (now : Nat) (pool : Pool) : Action → Checked (Option VariableBurn)
  | .account owner asset action => do
    let account ← pool.accountOf owner asset
    let accrued ← account.accrue now
    return (action.variableBurn? accrued.position).map (⟨accrued, ·⟩)
  | .liquidation liquidator borrower debtAsset collateralAsset terms => do
    let book ← pool.bookOf liquidator borrower debtAsset collateralAsset
    let config ← pool.configOf collateralAsset
    let accrued ← book.accrue now
    let amounts ← accrued.quote config terms
    return (Liquidation.variableBurn? amounts.debtToCover accrued.parties.borrowerDebt).map (⟨accrued.debtAccount, ·⟩)
  | .setCollateral _ _ _ | .transfer _ _ _ _ => return none

/-- the market of `burn?` burns all of the scaled debt it stands for, and the scaled debt of no other market falls -/
structure BurnsWhole (burn? : Option VariableBurn) (pool next : Pool) : Prop where
  burnt : ∀ burn ∈ burn?, ∃ scaled, burn.scaled = .ok scaled ∧
    scaled.toNat ≤ burn.account.reserve.scaledVariableDebt.toNat ∧
    ∃ s, next.reserves.get? burn.account.reserve.asset = some s ∧
      s.scaledVariableDebt.toNat + scaled.toNat = burn.account.reserve.scaledVariableDebt.toNat
  others : ∀ {asset r s}, pool.reserves.get? asset = some r → next.reserves.get? asset = some s →
    (∀ burn ∈ burn?, burn.account.reserve.asset ≠ asset) → r.scaledVariableDebt.toNat ≤ s.scaledVariableDebt.toNat

variable {pool next : Pool} {now : Nat}

/-! ## Requests -/

/-- markets that are written with as much debt as they had burn nothing, and neither do those that are not written -/
theorem Writes.burnsWhole_none {rs : List (Reserve × Reserve)} {ps : List (Position × Position)}
    (hw : Writes pool next rs ps)
    (hle : ∀ w ∈ rs, w.1.scaledVariableDebt.toNat ≤ w.2.scaledVariableDebt.toNat) : BurnsWhole none pool next := by
  refine ⟨nofun, fun hr hs _ => ?_⟩
  rcases hw.reserve_cases hs with ⟨w, hm, rfl, rfl⟩ | ⟨_, hold⟩
  · obtain rfl : w.1 = _ := Option.some.inj ((hw.reserve w hm).1.symm.trans hr)
    exact hle w hm
  · obtain rfl := Option.some.inj (hold.symm.trans hr)
    exact le_rfl

/-- a market that is written with what it gives up, beside others that give up nothing -/
theorem Writes.burnsWhole {rest : List (Reserve × Reserve)} {ps : List (Position × Position)} {a accrued b : Account}
    (hw : Writes pool next ((a.reserve, b.reserve) :: rest) ps)
    (hrest : ∀ w ∈ rest, w.2.scaledVariableDebt = w.1.scaledVariableDebt)
    (hlisting : accrued.reserve.listing = a.reserve.listing) {taken given : Nat} (hall : Account.Shifts taken given a b)
    (hresult : Account.Shifts taken given accrued b) {amount? : Option UInt256}
    (hscales : accrued.Scales given amount?) (hone : taken = 0 ∨ amount? = none) :
    BurnsWhole (amount?.map (⟨accrued, ·⟩)) pool next := by
  have hle : ∀ w ∈ rest, w.1.scaledVariableDebt.toNat ≤ w.2.scaledVariableDebt.toNat := by
    intro w hm
    rw [hrest w hm]
  cases amount? with
  | none =>
    obtain rfl : given = 0 := hscales
    have hmarket := hall.market
    exact hw.burnsWhole_none (List.forall_mem_cons.2 ⟨by dsimp only; omega, hle⟩)
  | some amount =>
    obtain rfl : taken = 0 := hone.resolve_right nofun
    obtain ⟨scaled, hscaled, rfl⟩ := hscales
    have hmarket := hresult.market
    have hasset : accrued.reserve.asset = a.reserve.asset := congrArg Listing.asset hlisting
    constructor
    · rintro _ ⟨⟩
      refine ⟨scaled, hscaled, by dsimp only; omega, b.reserve, ?_, hmarket⟩
      rw [hasset]
      exact hw.get?_reserve List.mem_cons_self
    · intro asset r s hr hs hothers
      have hne : a.reserve.asset ≠ asset := hasset ▸ hothers _ rfl
      rcases hw.reserve_cases hs with ⟨w, hm, he, rfl⟩ | ⟨_, hold⟩
      · rcases List.mem_cons.1 hm with rfl | hm
        · exact absurd he hne
        · obtain rfl : w.1 = r := Option.some.inj ((hw.reserve w (List.mem_cons_of_mem _ hm)).1.symm.trans (he ▸ hr))
          exact hle w hm
      · obtain rfl := Option.some.inj (hold.symm.trans hr)
        exact le_rfl

/-- positions alone are written, and none of them owes more or less variable debt -/
theorem variable_positions (hgap : ∀ asset, pool.gap .scaledDebt asset = 0) {ps : List (Position × Position)}
    (hw : Writes pool next [] ps) (hsame : ∀ w ∈ ps, w.2.scaledVariableDebt = w.1.scaledVariableDebt) :
    (∀ x, next.gap .scaledDebt x = 0) ∧ BurnsWhole none pool next := by
  refine ⟨fun x => ?_, hw.burnsWhole_none (List.forall_mem_nil _)⟩
  rw [hw.gap_positions, hgap]
  intro w hm
  simp only [Tally.scaledDebt, hsame w hm]

section

variable (hp : pool.WellFormed) (hgap : ∀ asset, pool.gap .scaledDebt asset = 0)

include hp hgap

/-- a market that is the sum of its users' debts covers that of each of them -/
theorem covers_user {owner asset : Address} {a : Account} (hr : pool.reserves.get? asset = some a.reserve)
    (hq : pool.positionOf owner asset = .ok a.position) : a.CoversDebt :=
  Int.ofNat_le.1 (hp.part_le (fun q => Int.natCast_nonneg q.scaledVariableDebt.toNat) (hgap asset) hr hq)

theorem variable_account {owner asset : Address} {change : AccountAction} {config : ReserveConfig} {a b : Account}
    (ha : pool.accountOf owner asset = .ok a) (hb : a.perform pool.config config now change = .ok b)
    (hw : Writes pool next [(a.reserve, b.reserve)] [(a.position, b.position)]) :
    (∀ x, next.gap .scaledDebt x = 0) ∧
      ∃ burn?, pool.variableBurn? now (.account owner asset change) = .ok burn? ∧ BurnsWhole burn? pool next := by
  obtain ⟨hr, hq⟩ := accountOf_eq_ok ha
  have hcovers : a.CoversDebt := covers_user hp hgap hr hq
  obtain ⟨accrued, haccrued, taken, given, hall, hresult, hscales, hone⟩ := Account.perform_shifts hcovers hb
  obtain ⟨_, _, hrAccrued, _, hmk⟩ := Account.accrue_eq_ok haccrued
  have hlisting : accrued.reserve.listing = a.reserve.listing := by
    rw [hmk]
    exact (Reserve.accrue_grows hrAccrued).listing
  constructor
  · intro x
    rw [hw.gap_account (hp.asset hr) (hp.asset_of_positionOf hq), hgap, hall.gap]
    simp
  · refine ⟨_, ?_, hw.burnsWhole (List.forall_mem_nil _) hlisting hall hresult hscales hone⟩
    exact bind_eq_ok.2 ⟨a, ha, bind_eq_ok.2 ⟨accrued, haccrued, rfl⟩⟩

theorem variable_liquidation {liquidator borrower debtAsset collateralAsset : Address} {terms : Liquidation.Terms}
    {debtConfig collateralConfig : ReserveConfig} {book : Liquidation.Book} {outcome : Liquidation.Outcome}
    (hread : pool.bookOf liquidator borrower debtAsset collateralAsset = .ok book)
    (hc : pool.configs.get? collateralAsset = some collateralConfig)
    (ho : book.liquidate debtConfig collateralConfig terms now = .ok outcome)
    (hw : Writes pool next (bookReserves book outcome.book) (bookPositions book outcome.book)) :
    (∀ x, next.gap .scaledDebt x = 0) ∧
      ∃ burn?, pool.variableBurn? now (.liquidation liquidator borrower debtAsset collateralAsset terms) = .ok burn? ∧
        BurnsWhole burn? pool next := by
  have hb := bookOf_eq_ok hread
  have hcovers : book.debtAccount.CoversDebt := covers_user hp hgap hb.debtReserve hb.borrowerDebt
  obtain ⟨accrued, amounts, haccrued, hamounts, given, hall, hresult, hscales⟩ :=
    Liquidation.Book.liquidate_discharges hcovers ho
  obtain ⟨_, haccruedReserves, hsettled⟩ := Liquidation.Book.accrue_eq_ok haccrued
  have hlisting : accrued.debtReserve.listing = book.debtReserve.listing := by
    obtain ⟨_, _, hd, _, rfl⟩ := Liquidation.Book.accrueReserves_eq_ok haccruedReserves
    obtain ⟨_, _, rfl⟩ := Liquidation.Book.settle_eq_ok hsettled
    exact (Reserve.accrue_grows hd).listing
  constructor
  · intro x
    rw [hw.gap_book hp hb, hgap, hall.debtGap, hall.collateralGap]
    simp
  · refine ⟨_, ?_, Writes.burnsWhole (a := book.debtAccount) (b := outcome.book.debtAccount) hw
      (List.forall_mem_singleton.2 hall.collateralReserve) hlisting hall.debt hresult hscales (.inl rfl)⟩
    simp only [variableBurn?, bind_eq_ok, configOf_eq_ok]
    exact ⟨book, hread, collateralConfig, hc, accrued, haccrued, amounts, hamounts, rfl⟩

/-- **Without a gap, an action burns all of what it gives up, and opens no gap.** -/
theorem Effect.burnsWhole {action : Action} (h : Effect now pool next action) :
    (∀ asset, next.gap .scaledDebt asset = 0) ∧
      ∃ burn?, pool.variableBurn? now action = .ok burn? ∧ BurnsWhole burn? pool next := by
  cases h with
  | account _ ha hb hw => exact variable_account hp hgap ha hb hw
  | setCollateral ha hq hw =>
    obtain ⟨accrued, haccrued, rfl, _⟩ := Account.setCollateral_spec hq
    obtain ⟨_, _, _, hposition, rfl⟩ := Account.accrue_eq_ok haccrued
    have hsame := Position.accrue_scaledDebt hposition
    obtain ⟨hnext, hnone⟩ := variable_positions hgap hw (List.forall_mem_singleton.2 hsame)
    exact ⟨hnext, none, rfl, hnone⟩
  | selfTransfer _ _ _ hq hw =>
    obtain ⟨hnext, hnone⟩ := variable_positions hgap hw (List.forall_mem_singleton.2 (Position.accrue_scaledDebt hq))
    exact ⟨hnext, none, rfl, hnone⟩
  | transfer _ _ _ hb hne hw =>
    obtain ⟨hsender, hrecipient⟩ := Transfer.perform_scaledDebt hne hb
    obtain ⟨hnext, hnone⟩ :=
      variable_positions hgap hw (List.forall_mem_cons.2 ⟨hsender, List.forall_mem_singleton.2 hrecipient⟩)
    exact ⟨hnext, none, rfl, hnone⟩
  | liquidation hread _ hcc ho hw => exact variable_liquidation hp hgap hread hcc ho hw

end

/-! ## Runs -/

theorem step_variableGap {event : Event} (hp : pool.WellFormed) (hgap : ∀ asset, pool.gap .scaledDebt asset = 0)
    (h : pool.step event = .ok next) (asset : Address) : next.gap .scaledDebt asset = 0 := by
  cases event with
  | list config listing now => rw [list_gap h rfl asset, hgap]
  | setWallet owner asset amount =>
    obtain ⟨_, _, hw⟩ := setWallet_writes hp h
    exact (variable_positions hgap hw (List.forall_mem_singleton.2 rfl)).1 _
  | request request => exact ((act_effect hp h).burnsWhole hp hgap).1 asset

theorem Reaches.variableGap {allowed : Event → Prop} (h : Reaches allowed pool) (asset : Address) :
    pool.gap .scaledDebt asset = 0 := by
  induction h generalizing asset with
  | create hc =>
    obtain ⟨_, rfl⟩ := create_eq_ok hc
    rfl
  | step before _ hs ih => exact step_variableGap before.wellFormed ih hs asset

/-- without a gap, the variable debt of a market is what its positions owe -/
theorem variableDebt_of_gap {asset : Address} (hgap : pool.gap .scaledDebt asset = 0) {reserve : Reserve}
    (hr : pool.reserves.get? asset = some reserve) :
    reserve.scaledVariableDebt.toNat = ((pool.positionsIn asset).map fun p => p.scaledVariableDebt.toNat).sum := by
  have hparts : pool.partsOf .scaledDebt asset =
      (((pool.positionsIn asset).map fun p => p.scaledVariableDebt.toNat).sum : Nat) := (cast_sum_map _ _).symm
  simp only [gap, totalOf, hparts, hr, Option.map_some, Option.getD_some] at hgap
  simp only [Tally.scaledDebt] at hgap
  omega

/-- **The scaled variable debt of a market is the sum of its users' scaled variable debts, and every request burns all
of the debt that it gives up.** -/
theorem variableDebt_conserved (h : Reachable pool) :
    (∀ asset reserve, pool.reserves.get? asset = some reserve →
      reserve.scaledVariableDebt.toNat = ((pool.positionsIn asset).map fun p => p.scaledVariableDebt.toNat).sum) ∧
    ∀ request next, pool.apply request = .ok next →
      ∃ burn?, pool.variableBurn? request.timestamp request.action = .ok burn? ∧ BurnsWhole burn? pool next := by
  constructor
  · intro asset reserve hr
    exact variableDebt_of_gap (h.variableGap asset) hr
  · intro request next hn
    exact ((act_effect h.wellFormed hn).burnsWhole h.wellFormed h.variableGap).2

/-- a liquidation of the borrower, whose debt has grown since it was taken on, gives up a part of it -/
theorem variableDebt_conserved_liquidation :
    ∃ pool next burn, runFrom Sample.poolConfig Sample.borrowed = .ok pool ∧
      pool.apply ⟨3000, Sample.liquidation false⟩ = .ok next ∧
      pool.variableBurn? 3000 (Sample.liquidation false) = .ok (some burn) ∧ BurnsWhole (some burn) pool next ∧
      ((pool.positionsIn Sample.debt).map fun p => p.scaledVariableDebt.toNat).sum = 50 * wad := by
  obtain ⟨pool, hrun, ⟨next, hn, _⟩, ⟨burn?, hb, hsome⟩, reserve, hr, hs⟩ :
      ∃ pool, runFrom Sample.poolConfig Sample.borrowed = .ok pool ∧
        (∃ next, pool.apply ⟨3000, Sample.liquidation false⟩ = .ok next ∧ True) ∧
        (∃ burn?, pool.variableBurn? 3000 (Sample.liquidation false) = .ok burn? ∧ burn?.isSome) ∧
        ∃ reserve ∈ pool.reserves.get? Sample.debt, reserve.scaledVariableDebt.toNat = 50 * wad := by
    decide +kernel
  have hreach : Reachable pool := Reaches.of_runFrom (fun _ _ => trivial) hrun
  obtain ⟨hsum, hburns⟩ := variableDebt_conserved hreach
  obtain ⟨burn, rfl⟩ := Option.isSome_iff_exists.1 hsome
  obtain ⟨_, hb', hwhole⟩ := hburns _ _ hn
  obtain rfl := Except.ok.inj (hb.symm.trans hb')
  refine ⟨pool, next, burn, hrun, hn, hb, hwhole, ?_⟩
  rw [← hsum _ _ hr, hs]

end Pool

end Lending
