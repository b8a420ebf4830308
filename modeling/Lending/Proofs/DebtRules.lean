/-
What binds a debt to its market.

A debt is written by a request that writes its market as well, and otherwise stays as it is while the market grows
older. So a relation between debts and markets holds along any run once it holds where nothing is owed, outlives the
growth of the market, and is kept by an action on an account and by a liquidation: it is a `DebtRule`. The markets that
these two start from are steady.

Results:
- `Effect.binds`, `step_binds`: no event breaks a debt rule;
- `Reaches.binds`: in every pool that is reached, each debt obeys it.
-/
import Lending.Proofs.Coherence
import Lending.Proofs.Frames

namespace Lending

/-- a relation between a debt and its market that can be established and is never lost -/
structure DebtRule (R : Position → Reserve → Prop) : Prop where
  empty : ∀ owner asset r, R (.empty owner asset 0) r
  carried : ∀ {p q r s}, R p r → q.owed = p.owed → r.Grows s → R q s
  account : ∀ {pool : PoolConfig} {config : ReserveConfig} {now : Nat} {action : AccountAction} {a b : Account},
    a.reserve.Steady config.unbackedMintCap → R a.position a.reserve → a.perform pool config now action = .ok b →
      R b.position b.reserve
  liquidation : ∀ {debtConfig collateralConfig : ReserveConfig} {terms : Liquidation.Terms} {now : Nat}
    {a : Liquidation.Book} {outcome : Liquidation.Outcome}, a.debtReserve.Steady debtConfig.unbackedMintCap →
      a.collateralReserve.Steady collateralConfig.unbackedMintCap → R a.parties.borrowerDebt a.debtReserve →
      a.liquidate debtConfig collateralConfig terms now = .ok outcome →
        R outcome.book.parties.borrowerDebt outcome.book.debtReserve

namespace Pool

variable {R : Position → Reserve → Prop} {pool next : Pool} {allowed : Event → Prop}

/-- the relation holds between every position and its market -/
def Binds (R : Position → Reserve → Prop) (pool : Pool) : Prop :=
  ∀ key r, pool.reserves.get? key.asset = some r → R (pool.positionAt key) r

theorem Binds.positionOf (h : pool.Binds R) {owner asset : Address} {p : Position} {r : Reserve}
    (hp : pool.positionOf owner asset = .ok p) (hr : pool.reserves.get? asset = some r) : R p r := by
  have hbound := h ⟨owner, asset⟩ r hr
  rwa [positionAt, ← (positionOf_eq_ok.1 hp).2] at hbound

theorem Binds.stored (h : pool.Binds R) {key : PositionKey} {p : Position} {r : Reserve}
    (hp : pool.positions.get? key = some p) (hr : pool.reserves.get? key.asset = some r) : R p r := by
  have hbound := h key r hr
  rwa [positionAt, hp, Option.getD_some] at hbound

/-- a position that is written together with its market is bound to what is written of it -/
theorem Writes.binds {rs : List (Reserve × Reserve)} {ps : List (Position × Position)} (hw : Writes pool next rs ps)
    {u : Reserve × Reserve} {v : Position × Position} (hu : u ∈ rs) (hv : v ∈ ps) (ha : u.1.asset = v.1.asset)
    (hR : R v.2 u.2) {s : Reserve} (hs : next.reserves.get? v.1.asset = some s) : R (next.positionAt v.1.key) s := by
  rw [← ha, hw.get?_reserve hu] at hs
  cases hs
  rwa [positionAt, hw.get?_position hv, Option.getD_some]

/-- **Debts change in markets that are updated, and the other markets only grow older.** -/
theorem Effect.binds {now : Nat} {action : Action} (h : Effect now pool next action) (hrule : DebtRule R)
    (hreach : Reaches allowed pool) (hb : pool.Binds R) : next.Binds R := by
  have hp := hreach.wellFormed
  intro key s hs
  by_cases hkey : key ∈ (action.footprint pool.config.treasury).debts
  · cases h with
    | account settings read result writes =>
      obtain ⟨hr, hq⟩ := accountOf_eq_ok read
      have hplace := hp.key_of_positionOf hq
      have hbound := hrule.account (hreach.settled settings hr).steady (hb.positionOf hq hr) result
      simp only [Action.footprint] at hkey
      split at hkey
      · rw [List.mem_singleton, ← hplace] at hkey
        subst hkey
        have hasset := (hp.asset hr).trans (hp.asset_of_positionOf hq).symm
        exact writes.binds List.mem_cons_self List.mem_cons_self hasset hbound hs
      · cases hkey
    | setCollateral => cases hkey
    | selfTransfer => cases hkey
    | transfer => cases hkey
    | liquidation read debtSettings collateralSettings result writes =>
      have hbook := bookOf_eq_ok read
      have hplace := hp.key_of_positionOf hbook.borrowerDebt
      have hbound := hrule.liquidation (hreach.settled debtSettings hbook.debtReserve).steady
        (hreach.settled collateralSettings hbook.collateralReserve).steady
        (hb.positionOf hbook.borrowerDebt hbook.debtReserve) result
      rw [Action.footprint, List.mem_singleton, ← hplace] at hkey
      subst hkey
      have hasset := (hp.asset hbook.debtReserve).trans (hp.asset_of_positionOf hbook.borrowerDebt).symm
      exact writes.binds List.mem_cons_self List.mem_cons_self hasset hbound hs
  · obtain ⟨r, hr, hg⟩ := h.reserve_from hs
    exact hrule.carried (hb key r hr) ((h.frame hp).owed key hkey) hg

theorem step_binds {event : Event} (hrule : DebtRule R) (hreach : Reaches allowed pool) (hb : pool.Binds R)
    (h : pool.step event = .ok next) : next.Binds R := by
  have hp := hreach.wellFormed
  cases event with
  | list config listing now =>
    obtain ⟨_, hnew, rfl⟩ := list_eq_ok h
    intro key s hs
    rw [Table.get?_insert] at hs
    split at hs
    · next he =>
      -- a market that is not listed yet has no positions
      have hnone : pool.positions.get? key = none := by
        refine Option.eq_none_iff_forall_ne_some.2 fun p hq => hnew ?_
        rw [← he]
        exact hp.market hq
      rw [positionAt, hnone]
      exact hrule.empty _ _ _
    · exact hb key s hs
  | setWallet owner asset amount =>
    obtain ⟨p, _, hw⟩ := setWallet_writes hp h
    intro key s hs
    rw [hw.get?_reserve_of_ne (List.forall_mem_nil _)] at hs
    have howed : (next.positionAt key).owed = (pool.positionAt key).owed :=
      hw.positionAt_eq Position.owed (List.forall_mem_singleton.2 (.inr rfl)) (List.not_mem_nil : key ∉ [])
    exact hrule.carried (hb key s hs) howed (Reserve.Grows.refl s)
  | request request => exact (act_effect hp h).binds hrule hreach hb

/-- **In every pool that is reached, each debt obeys the rule.** -/
theorem Reaches.binds (h : Reaches allowed pool) (hrule : DebtRule R) : pool.Binds R := by
  induction h with
  | create hc =>
    obtain ⟨_, rfl⟩ := create_eq_ok hc
    intro _ _ hr
    cases hr
  | step before _ hs ih => exact step_binds hrule before ih hs

end Pool

end Lending
