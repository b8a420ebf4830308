/-
When the stable debt of a market is the sum of its users' stable debts.

If everything in a run happens at one time, there is no interest, and an action changes the total of a market by what it
changes its users' debts by. The one exception is by design: the removal of a part that weighs at least as much as the
whole is clamped, and clears the total and the average rate together, so that the average never goes negative. The sums
are exact precisely as long as this clamp does not act on a part of the debt that is less than the total.

Results:
- `Effect.stable`: an action that goes through keeps the sums exact precisely when the clamp does not act;
- `stable_tracksAlong_iff`: so does a run at one time;
- `stable_untracked`: the clamp at work. A loan at a rate of zero has no weight, so the repayment of the other loan
  takes out all of the weight, and the total is cleared.
-/
import Lending.Proofs.Run
import Lending.Proofs.StableLiquidation

namespace Lending

open UInt256

/-- an event that happens at `t`, if it has a time at all -/
def Event.At (t : Nat) : Event → Prop
  | .list _ _ now => now = t
  | .setWallet _ _ _ => True
  | .request r => r.timestamp = t

instance (t : Nat) : DecidablePred (Event.At t)
  | .list _ _ now => inferInstanceAs (Decidable (now = t))
  | .setWallet _ _ _ => inferInstanceAs (Decidable True)
  | .request r => inferInstanceAs (Decidable (r.timestamp = t))

namespace Pool

/-- in every market the stable debt is the sum of the stable debts of its positions -/
def Tracks (pool : Pool) : Prop :=
  ∀ asset reserve, pool.reserves.get? asset = some reserve →
    reserve.totalStableDebt.toNat = ((pool.positionsIn asset).map fun p => p.stableDebt.toNat).sum

/-- in an action that goes through, the clamp acts on the stable debt that is given up -/
def Wipes (now : Nat) (pool : Pool) : Action → Prop
  | .account owner asset change =>
    ∃ a, pool.accountOf owner asset = .ok a ∧ ∃ accrued, a.accrue now = .ok accrued ∧
      accrued.reserve.averagedDebt.Wipes (change.stableBurn accrued.position) accrued.position.stableRate
  | .liquidation liquidator borrower debtAsset collateralAsset terms =>
    ∃ book, pool.bookOf liquidator borrower debtAsset collateralAsset = .ok book ∧
      ∃ config, pool.configOf collateralAsset = .ok config ∧ ∃ accrued, book.accrue now = .ok accrued ∧
        ∃ amounts, accrued.quote config terms = .ok amounts ∧
          accrued.debtReserve.averagedDebt.Wipes
            (amounts.debtToCover.monus accrued.parties.borrowerDebt.variableDebt)
            accrued.parties.borrowerDebt.stableRate
  | .setCollateral _ _ _ | .transfer _ _ _ _ => False

instance (now : Nat) (pool : Pool) : DecidablePred (pool.Wipes now)
  | .account _ _ _ => inferInstanceAs (Decidable (∃ _, _ ∧ ∃ _, _ ∧ _))
  | .liquidation _ _ _ _ _ => inferInstanceAs (Decidable (∃ _, _ ∧ ∃ _, _ ∧ ∃ _, _ ∧ ∃ _, _ ∧ _))
  | .setCollateral _ _ _ => inferInstanceAs (Decidable False)
  | .transfer _ _ _ _ => inferInstanceAs (Decidable False)

/-! ## Sums -/

variable {pool next : Pool} {t : Nat}

/-- the sum is exact in every market when no market has a gap; an asset without a market has neither -/
theorem WellFormed.tracks_iff (hp : pool.WellFormed) : pool.Tracks ↔ ∀ asset, pool.gap .stable asset = 0 := by
  have hparts (asset : Address) : pool.partsOf .stable asset =
      (((pool.positionsIn asset).map fun p => p.stableDebt.toNat).sum : Nat) := (cast_sum_map _ _).symm
  constructor
  · intro h asset
    unfold gap totalOf
    rw [hparts]
    cases hr : pool.reserves.get? asset with
    | some r =>
      rw [← h asset r hr]
      exact Int.sub_self _
    | none =>
      rw [hp.positionsIn_unlisted hr]
      rfl
  · intro h asset r hr
    have hgap := h asset
    simp only [gap, totalOf, hparts, hr, Option.map_some, Option.getD_some] at hgap
    simp only [Tally.stable] at hgap
    omega

/-! ## Pools at one time -/

/-- nothing in the pool carries interest at `t` that it does not show -/
structure Still (t : Nat) (pool : Pool) : Prop where
  reserve : ∀ {asset r}, pool.reserves.get? asset = some r → r.lastUpdate = t
  position : ∀ {key p}, pool.positions.get? key = some p → p.Fresh t

theorem Still.fresh (hs : pool.Still t) {owner asset : Address} {p : Position}
    (hp : pool.positionOf owner asset = .ok p) : p.Fresh t := by
  obtain ⟨_, hq⟩ := positionOf_eq_ok.1 hp
  cases hg : pool.positions.get? ⟨owner, asset⟩ with
  | none =>
    rw [hg, Option.getD_none] at hq
    rw [hq]
    exact Position.fresh_empty t owner asset 0
  | some q =>
    rw [hg, Option.getD_some] at hq
    rw [hq]
    exact hs.position hg

theorem Still.writes (hs : pool.Still t) {rs : List (Reserve × Reserve)} {ps : List (Position × Position)}
    (hw : Writes pool next rs ps) (hr : ∀ w ∈ rs, w.2.lastUpdate = t) (hq : ∀ w ∈ ps, w.2.Fresh t) :
    next.Still t := by
  constructor
  · intro asset r h
    rcases hw.reserve_cases h with ⟨w, hm, _, rfl⟩ | ⟨_, hold⟩
    · exact hr w hm
    · exact hs.reserve hold
  · intro key p h
    rcases hw.position_cases h with ⟨w, hm, _, rfl⟩ | ⟨_, hold⟩
    · exact hq w hm
    · exact hs.position hold

/-- positions alone are written, and none of them owes more or less: the pool stays as it is -/
theorem Still.positions (hs : pool.Still t) (hgap : ∀ asset, pool.gap .stable asset = 0)
    {ps : List (Position × Position)} (hw : Writes pool next [] ps)
    (hkept : ∀ w ∈ ps, w.2.Fresh t ∧ w.2.stableDebt = w.1.stableDebt) :
    next.Still t ∧ ∀ asset, next.gap .stable asset = 0 := by
  constructor
  · apply hs.writes hw (List.forall_mem_nil _)
    intro w hm
    exact (hkept w hm).1
  · intro asset
    rw [hw.gap_positions, hgap]
    intro w hm
    exact Tally.stable_part (hkept w hm).2

/-! ## Requests -/

/-- a change in one market leaves no gap anywhere exactly when it leaves none there -/
theorem gapless_iff {tally : Tally} {asset : Address} {change : ℤ} (hgap : ∀ x, pool.gap tally x = 0)
    (hnext : ∀ x, next.gap tally x = pool.gap tally x + if asset = x then change else 0) :
    (∀ x, next.gap tally x = 0) ↔ change = 0 := by
  constructor
  · intro h
    have hasset := hnext asset
    rw [h, hgap, if_pos rfl] at hasset
    omega
  · intro h x
    rw [hnext, hgap, h]
    split <;> omega

section

variable (hp : pool.WellFormed) (hs : pool.Still t) (hgap : ∀ asset, pool.gap .stable asset = 0)

include hp hs hgap

theorem stable_account {owner asset : Address} {change : AccountAction} {config : ReserveConfig} {a b : Account}
    (ha : pool.accountOf owner asset = .ok a) (hb : a.perform pool.config config t change = .ok b)
    (hw : Writes pool next [(a.reserve, b.reserve)] [(a.position, b.position)]) :
    next.Still t ∧ ((∀ x, next.gap .stable x = 0) ↔ ¬ pool.Wipes t (.account owner asset change)) := by
  obtain ⟨hr, hq⟩ := accountOf_eq_ok ha
  have hle := hp.part_le (fun q => Int.natCast_nonneg q.stableDebt.toNat) (hgap _) hr hq
  obtain ⟨htime, hfresh, accrued, haccrued, hiff⟩ :=
    Account.perform_burns (hs.reserve hr) (hs.fresh hq) (Int.ofNat_le.1 hle) hb
  constructor
  · exact hs.writes hw (List.forall_mem_singleton.2 htime) (List.forall_mem_singleton.2 hfresh)
  · rw [gapless_iff hgap (hw.gap_account (hp.asset hr) (hp.asset_of_positionOf hq)), Int.sub_eq_zero, Wipes,
      exists_ok_iff ha, exists_ok_iff haccrued]
    exact hiff

theorem stable_liquidation {liquidator borrower debtAsset collateralAsset : Address} {terms : Liquidation.Terms}
    {debtConfig collateralConfig : ReserveConfig} {book : Liquidation.Book} {outcome : Liquidation.Outcome}
    (hread : pool.bookOf liquidator borrower debtAsset collateralAsset = .ok book)
    (hc : pool.configs.get? collateralAsset = some collateralConfig)
    (ho : book.liquidate debtConfig collateralConfig terms t = .ok outcome)
    (hw : Writes pool next (bookReserves book outcome.book) (bookPositions book outcome.book)) :
    next.Still t ∧ ((∀ x, next.gap .stable x = 0) ↔
      ¬ pool.Wipes t (.liquidation liquidator borrower debtAsset collateralAsset terms)) := by
  have hb := bookOf_eq_ok hread
  have hle := hp.part_le (fun q => Int.natCast_nonneg q.stableDebt.toNat) (hgap _) hb.debtReserve hb.borrowerDebt
  have hfresh : book.parties.Fresh t :=
    ⟨hs.fresh hb.borrowerDebt, hs.fresh hb.borrowerCollateral, hs.fresh hb.liquidatorDebt,
      hs.fresh hb.liquidatorCollateral, hs.fresh hb.treasury⟩
  obtain ⟨hdebt, hcollateral, hf, hsame, accrued, amounts, haccrued, hamounts, hiff⟩ :=
    Liquidation.Book.liquidate_burns (hs.reserve hb.debtReserve) (hs.reserve hb.collateralReserve) hfresh
      (Int.ofNat_le.1 hle) ho
  constructor
  · apply hs.writes hw
    · exact List.forall_mem_cons.2 ⟨hdebt, List.forall_mem_singleton.2 hcollateral⟩
    · refine List.forall_mem_cons.2 ⟨hf.borrowerDebt, List.forall_mem_cons.2 ⟨hf.borrowerCollateral, ?_⟩⟩
      refine List.forall_mem_cons.2 ⟨hf.liquidatorDebt, List.forall_mem_cons.2 ⟨hf.liquidatorCollateral, ?_⟩⟩
      exact List.forall_mem_singleton.2 hf.treasury
  · -- the collateral's market keeps its gap, so only that of the debt's market counts
    have hnext := fun x => hw.gap_book (t := .stable) hp hb x
    simp only [hsame, Int.sub_self, ite_self, Int.add_zero] at hnext
    rw [gapless_iff hgap hnext, Int.sub_eq_zero, Wipes, exists_ok_iff hread, exists_ok_iff (configOf_eq_ok.2 hc),
      exists_ok_iff haccrued, exists_ok_iff hamounts]
    exact hiff

/-- **An action at the time of the pool leaves no gap exactly when the clamp does not act.** -/
theorem Effect.stable {action : Action} (h : Effect t pool next action) :
    next.Still t ∧ ((∀ asset, next.gap .stable asset = 0) ↔ ¬ pool.Wipes t action) := by
  cases h with
  | account _ ha hb hw => exact stable_account hp hs hgap ha hb hw
  | setCollateral ha hq hw =>
    have hkept := Account.setCollateral_fresh (hs.fresh (accountOf_eq_ok ha).2) hq
    obtain ⟨hstill, hnext⟩ := hs.positions hgap hw (List.forall_mem_singleton.2 hkept)
    exact ⟨hstill, fun _ hwipes => hwipes, fun _ => hnext⟩
  | selfTransfer _ hpos _ hq hw =>
    have hkept := (hs.fresh hpos).accrue hq
    obtain ⟨hstill, hnext⟩ := hs.positions hgap hw (List.forall_mem_singleton.2 hkept)
    exact ⟨hstill, fun _ hwipes => hwipes, fun _ => hnext⟩
  | transfer _ hsender hrecipient hb hne hw =>
    have hholds := Transfer.perform_holds (hs.fresh hsender) (hs.fresh hrecipient) hne hb
    obtain ⟨hstill, hnext⟩ := hs.positions hgap hw (List.forall_mem_cons.2
      ⟨⟨hholds.sender, hholds.senderDebt⟩, List.forall_mem_singleton.2 ⟨hholds.recipient, hholds.recipientDebt⟩⟩)
    exact ⟨hstill, fun _ hwipes => hwipes, fun _ => hnext⟩
  | liquidation hread _ hcc ho hw => exact stable_liquidation hp hs hgap hread hcc ho hw

end

/-! ## Runs -/

/-- in an event, the clamp acts on the stable debt that is given up -/
def WipesAt (pool : Pool) : Event → Prop
  | .request r => pool.Wipes r.timestamp r.action
  | .list _ _ _ | .setWallet _ _ _ => False

instance (pool : Pool) : DecidablePred pool.WipesAt
  | .request r => inferInstanceAs (Decidable (pool.Wipes r.timestamp r.action))
  | .list _ _ _ => inferInstanceAs (Decidable False)
  | .setWallet _ _ _ => inferInstanceAs (Decidable False)

theorem list_still {config : ReserveConfig} {listing : Listing} (hs : pool.Still t)
    (h : pool.list config (.opened listing t) = .ok next) : next.Still t := by
  obtain ⟨_, _, rfl⟩ := list_eq_ok h
  refine ⟨fun hr => ?_, hs.position⟩
  rw [Table.get?_insert] at hr
  split at hr
  · cases hr
    rfl
  · exact hs.reserve hr

/-- an event at the time of the pool keeps the sums exact precisely when the clamp does not act -/
theorem step_stable {event : Event} (hp : pool.WellFormed) (hs : pool.Still t) (htracks : pool.Tracks)
    (ht : event.At t) (h : pool.step event = .ok next) : next.Still t ∧ (next.Tracks ↔ ¬ pool.WipesAt event) := by
  have hgap := hp.tracks_iff.1 htracks
  have hnext := step_wellFormed hp h
  cases event with
  | list config listing now =>
    obtain rfl : now = t := ht
    have hgapNext : ∀ asset, next.gap .stable asset = 0 := by
      intro asset
      rw [list_gap h rfl asset, hgap]
    exact ⟨list_still hs h, fun _ hwipes => hwipes, fun _ => hnext.tracks_iff.2 hgapNext⟩
  | setWallet owner asset amount =>
    obtain ⟨p, hq, hw⟩ := setWallet_writes hp h
    have hfresh : p.Fresh t := hs.fresh hq
    obtain ⟨hstill, hgapNext⟩ := hs.positions hgap hw (List.forall_mem_singleton.2 ⟨hfresh, rfl⟩)
    exact ⟨hstill, fun _ hwipes => hwipes, fun _ => hnext.tracks_iff.2 hgapNext⟩
  | request request =>
    obtain rfl : request.timestamp = t := ht
    obtain ⟨hstill, hiff⟩ := (act_effect hp h).stable hp hs hgap
    exact ⟨hstill, hnext.tracks_iff.trans hiff⟩

/-- the sums are exact after every event of a run -/
def TracksAlong : Pool → List Event → Prop
  | _, [] => True
  | pool, event :: rest => ∀ next, pool.step event = .ok next → next.Tracks ∧ next.TracksAlong rest

/-- the clamp acts in no event of a run -/
def SparesAlong : Pool → List Event → Prop
  | _, [] => True
  | pool, event :: rest => ∀ next, pool.step event = .ok next → ¬ pool.WipesAt event ∧ next.SparesAlong rest

instance decidableSparesAlong (pool : Pool) : DecidablePred pool.SparesAlong
  | [] => inferInstanceAs (Decidable True)
  | event :: rest =>
    have := fun next : Pool => decidableSparesAlong next rest
    inferInstanceAs (Decidable (∀ next, pool.step event = .ok next → ¬ pool.WipesAt event ∧ next.SparesAlong rest))

theorem tracksAlong_iff {events : List Event} (hp : pool.WellFormed) (hs : pool.Still t) (htracks : pool.Tracks)
    (ht : ∀ e ∈ events, e.At t) : pool.TracksAlong events ↔ pool.SparesAlong events := by
  induction events generalizing pool with
  | nil => exact Iff.rfl
  | cons event rest ih =>
    have hrest : ∀ e ∈ rest, e.At t := fun e he => ht e (List.mem_cons_of_mem _ he)
    unfold TracksAlong SparesAlong
    refine forall_congr' fun next => imp_congr_right fun h => ?_
    obtain ⟨hstill, hiff⟩ := step_stable hp hs htracks (ht event List.mem_cons_self) h
    rw [hiff]
    refine and_congr_right fun hspares => ?_
    exact ih (step_wellFormed hp h) hstill (hiff.2 hspares) hrest

/-- **In a run at one time, the stable debt of every market stays the sum of its users' stable debts exactly as long as
no request removes a part of it, less than the total, that weighs at least as much as the whole.** -/
theorem stable_tracksAlong_iff {config : PoolConfig} (h : create config = .ok pool) {events : List Event}
    (ht : ∀ e ∈ events, e.At t) : pool.TracksAlong events ↔ pool.SparesAlong events := by
  have hp := create_wellFormed h
  obtain ⟨_, rfl⟩ := create_eq_ok h
  exact tracksAlong_iff hp ⟨nofun, nofun⟩ nofun ht

end Pool

namespace Sample

/-- settings under which the stable rate starts at zero and rises with the usage -/
def risingConfig : ReserveConfig where
  curve := {
    optimalUsage := percent 50
    baseVariable := 0
    variableSlope1 := 0
    variableSlope2 := 0
    stableSlope1 := percent 10
    stableSlope2 := 0
    stableOffset := 0
    stableExcessOffset := 0
    optimalStableShare := percent 100 }
  liquidationBonus := 10500
  liquidationProtocolFee := 1000
  unbackedMintCap := 0

/-- a stable loan of 100 tokens at a rate of zero and another at 2% -/
def loans : List Event :=
  [.list risingConfig (listing debt) 1000, .setWallet supplier debt (tokens 1000),
   .request ⟨1000, .account supplier debt (.supply (tokens 1000))⟩,
   .request ⟨1000, .account borrower debt (.borrow (tokens 100) .stableRate)⟩,
   .request ⟨1000, .account liquidator debt (.borrow (tokens 100) .stableRate)⟩]

/-- the same, and the second loan is repaid at once -/
def repaidLoans : List Event :=
  loans ++ [.request ⟨1000, .account liquidator debt (.repay (tokens 100) .stableRate)⟩]

end Sample

namespace Pool

/-- the loans are tracked, and the repayment, on which the clamp acts, is not -/
theorem stable_tracksAlong_loans :
    ∃ pool, create Sample.poolConfig = .ok pool ∧ pool.TracksAlong Sample.loans ∧
      ¬ pool.TracksAlong Sample.repaidLoans := by
  obtain ⟨pool, hcreate, hloans, hrepaid⟩ :
      ∃ pool, create Sample.poolConfig = .ok pool ∧ pool.SparesAlong Sample.loans ∧
        ¬ pool.SparesAlong Sample.repaidLoans := by
    decide +kernel
  have ht : ∀ e ∈ Sample.repaidLoans, e.At 1000 := by decide
  have ht' : ∀ e ∈ Sample.loans, e.At 1000 := fun e he => ht e (List.mem_append_left _ he)
  exact ⟨pool, hcreate, (stable_tracksAlong_iff hcreate ht').2 hloans,
    fun h => hrepaid ((stable_tracksAlong_iff hcreate ht).1 h)⟩

/-- the repayment takes out all of the rate weight, so the total is cleared; the position of the first borrower keeps
its 100 tokens -/
theorem stable_untracked :
    (∀ e ∈ Sample.repaidLoans, e.At 1000) ∧
      ∃ pool, runFrom Sample.poolConfig Sample.repaidLoans = .ok pool ∧
        ∃ reserve ∈ pool.reserves.get? Sample.debt, reserve.totalStableDebt = 0 ∧
          ((pool.positionsIn Sample.debt).map fun p => p.stableDebt.toNat).sum = 100 * wad := by
  decide +kernel

end Pool

end Lending
