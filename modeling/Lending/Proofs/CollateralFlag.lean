/-
When supply counts as collateral.

Users declare it, and otherwise the flag follows the balance: it is set when an empty balance is filled, it is dropped
when a balance is emptied, and it stays as it is in between (`Position.flagAfter`). Only the treasury's fee on a
liquidation fills a balance without setting the flag. So no flag is ever set on an empty balance.

Results:
- `Account.perform_flag`, `Transfer.perform_flag`, `Book.liquidate_flags`: the flag follows the balance in every
  position that is written;
- `Effect.flags`: so it does in the whole pool, whatever the action;
- `step_backed`, `Reaches.backed`: flags are set on balances only, after every event and so after every run;
- `collateral_follows`: both, for every pool that is reached.
-/
import Lending.Proofs.Frames
import Lending.Proofs.Settlement

namespace Lending

open UInt256

/-! ## The rule -/

namespace Position

/-- the flag of a position once its scaled supply is `scaled`, when `credit` says that it is only credited with a fee -/
def flagAfter (credit : Bool) (scaled : UInt256) (p : Position) : Bool :=
  if p.scaledSupply = 0 ∧ scaled ≠ 0 then !credit
  else if p.scaledSupply ≠ 0 ∧ scaled = 0 then false
  else p.collateral

/-- the flag of `q` follows from the balances of `p` and `q` -/
def Follows (credit : Bool) (p q : Position) : Prop := q.collateral = p.flagAfter credit q.scaledSupply

/-- the flag is set on a balance only -/
def Backed (p : Position) : Prop := p.collateral = true → p.scaledSupply ≠ 0

variable {p q p' q' : Position} {credit : Bool} {scaled : UInt256}

theorem Backed.flag_of_empty (h : p.Backed) (h0 : p.scaledSupply = 0) : p.collateral = false :=
  Bool.eq_false_iff.2 fun hset => h hset h0

theorem backed_empty (owner asset : Address) (wallet : UInt256) : (empty owner asset wallet).Backed := nofun

theorem follows_of_supplied (credit : Bool) (h : q.supplied = p.supplied) : p.Follows credit q := by
  simp only [supplied, Prod.mk.injEq] at h
  simp only [Follows, flagAfter, h.1, h.2]
  split
  · next hfilled => exact absurd hfilled.1 hfilled.2
  · split
    · next hemptied => exact absurd hemptied.2 hemptied.1
    · rfl

/-- the rule looks at the balances and the flags alone -/
theorem Follows.congr (h : p.Follows credit q) (hp : p'.supplied = p.supplied) (hq : q'.supplied = q.supplied) :
    p'.Follows credit q' := by
  simp only [supplied, Prod.mk.injEq] at hp hq
  simpa only [Follows, flagAfter, hp.1, hp.2, hq.1, hq.2] using h

/-- a flag that follows the balance is set on a balance only -/
theorem Follows.backed (h : p.Follows credit q) (hp : p.Backed) : q.Backed := by
  intro hflag hzero
  rw [h, flagAfter, if_neg (fun hfilled => hfilled.2 hzero)] at hflag
  split at hflag
  · cases hflag
  · next hemptied => exact hemptied ⟨hp hflag, hzero⟩

theorem Backed.congr (h : p.Backed) (hq : q.supplied = p.supplied) : q.Backed := (follows_of_supplied false hq).backed h

/-! ### Adding and removing supply -/

theorem addSupply_follows (h : p.addSupply scaled = .ok q) : p.Follows false q := by
  obtain ⟨sum, _, rfl, hsum, rfl⟩ := addSupply_spec h
  have hzero : sum = 0 ↔ p.scaledSupply = 0 ∧ scaled = 0 := by
    simp only [eq_zero_iff]
    omega
  by_cases hempty : p.scaledSupply = 0
  · by_cases hnone : scaled = 0 <;> simp [Follows, flagAfter, hzero, hempty, hnone]
  · simp [Follows, flagAfter, hzero, hempty]

/-- a fee raises the balance and leaves the flag as it is, which on an empty balance is not set -/
theorem creditSupply_follows (hp : p.Backed) (h : p.creditSupply scaled = .ok q) : p.Follows true q := by
  obtain ⟨sum, rfl, hsum⟩ := creditSupply_spec h
  have hzero : sum = 0 → p.scaledSupply = 0 := by
    simp only [eq_zero_iff]
    omega
  by_cases hempty : p.scaledSupply = 0
  · simp [Follows, flagAfter, hempty, hp.flag_of_empty hempty]
  · simp [Follows, flagAfter, hempty, mt hzero hempty]

/-- `q` comes from `p` by removing supply, once or more often -/
structure Removes (p q : Position) : Prop where
  le : q.scaledSupply.toNat ≤ p.scaledSupply.toNat
  flag : q.collateral = (decide (q.scaledSupply ≠ 0) && p.collateral)

theorem removeSupply_removes (h : p.removeSupply scaled = .ok q) : p.Removes q := by
  obtain ⟨_, _, rfl, hremoved, hflag⟩ := removeSupply_spec h
  exact ⟨by dsimp only; omega, hflag⟩

theorem Removes.empty (h : p.Removes q) (h0 : p.scaledSupply = 0) : q.scaledSupply = 0 := by
  have hle := h.le
  rw [eq_zero_iff] at h0 ⊢
  omega

theorem Removes.trans {r : Position} (h1 : p.Removes q) (h2 : q.Removes r) : p.Removes r := by
  refine ⟨h2.le.trans h1.le, ?_⟩
  rw [h2.flag, h1.flag]
  by_cases hempty : q.scaledSupply = 0
  · simp [h2.empty hempty]
  · simp [hempty]

/-- what is removed from a position leaves an emptied balance without the flag, and an empty one had none -/
theorem Removes.follows (h : p.Removes q) (hp : p.Backed) : p.Follows false q := by
  rw [Follows, flagAfter, h.flag]
  by_cases hempty : p.scaledSupply = 0
  · simp [hempty, hp.flag_of_empty hempty, h.empty hempty]
  · by_cases hrest : q.scaledSupply = 0 <;> simp [hempty, hrest]

end Position

/-! ## Actions on an account -/

namespace Account

variable {a b : Account} {now : Nat} {pool : PoolConfig} {config : ReserveConfig} {action : AccountAction}

theorem change_flag (ha : a.position.Backed) (h : action.change pool config now a = .ok b) :
    a.position.Follows false b.position := by
  cases action with
  | supply amount =>
    simp only [AccountAction.change, supply, bind_eq_ok] at h
    obtain ⟨_, _, _, _, _, _, _, _, added, hadded, spent, hspent, h⟩ := h
    cases h
    exact (Position.addSupply_follows hadded).congr rfl (Position.spend_parts hspent).2
  | withdraw amount =>
    simp only [AccountAction.change, withdraw, bind_eq_ok] at h
    obtain ⟨_, _, _, _, _, _, _, _, _, _, removed, hremoved, received, hreceived, h⟩ := h
    cases h
    exact ((Position.removeSupply_removes hremoved).follows ha).congr rfl (Position.receive_parts hreceived).2
  | mintUnbacked amount =>
    simp only [AccountAction.change, mintUnbacked, bind_eq_ok] at h
    obtain ⟨_, _, _, _, _, _, _, _, _, _, _, _, added, hadded, h⟩ := h
    cases h
    exact Position.addSupply_follows hadded
  | borrow _ _ | repay _ _ | swapMode _ | rebalance | backUnbacked _ _ | flashLoan _ =>
    exact Position.follows_of_supplied false (change_supplied rfl h)

theorem perform_flag (ha : a.position.Backed) (h : a.perform pool config now action = .ok b) :
    a.position.Follows false b.position := by
  obtain ⟨_, accrued, changed, haccrued, hc, hs⟩ := perform_eq_ok h
  obtain ⟨_, _, _, hp, rfl⟩ := accrue_eq_ok haccrued
  obtain ⟨_, hq, rfl⟩ := settle_eq_ok hs
  have hbefore := (Position.accrue_parts hp).2.1
  exact (change_flag (ha.congr hbefore) hc).congr hbefore.symm (Position.accrue_parts hq).2.1

end Account

/-! ## Transfers -/

namespace Transfer

variable {a b : Transfer} {r : Reserve} {amount : UInt256} {now : Nat}

theorem accrue_supplied (h : a.accrue r now = .ok b) :
    b.sender.supplied = a.sender.supplied ∧ b.recipient.supplied = a.recipient.supplied := by
  obtain ⟨_, _, hs, hp, rfl⟩ := accrue_eq_ok h
  exact ⟨(Position.accrue_parts hs).2.1, (Position.accrue_parts hp).2.1⟩

theorem perform_flag (h : a.perform r amount now = .ok b) (hne : a.sender.owner ≠ a.recipient.owner) :
    (a.sender.Backed → a.sender.Follows false b.sender) ∧ a.recipient.Follows false b.recipient := by
  obtain ⟨_, reserve, accrued, _, haccrued, _, h⟩ := perform_eq_ok h
  rw [if_neg (mt (accrue_moves haccrued).owners_iff.1 hne)] at h
  obtain ⟨moved, hm, h⟩ := h
  obtain ⟨hsender, hrecipient⟩ := accrue_supplied haccrued
  obtain ⟨hsender', hrecipient'⟩ := accrue_supplied h
  simp only [move, bind_eq_ok] at hm
  obtain ⟨_, _, sender, hs, recipient, hr, hm⟩ := hm
  cases hm
  refine ⟨fun ha => ?_, (Position.addSupply_follows hr).congr hrecipient.symm hrecipient'⟩
  exact ((Position.removeSupply_removes hs).follows (ha.congr hsender)).congr hsender.symm hsender'

end Transfer

/-! ## Liquidations -/

namespace Liquidation

/-- the flags in the market of the collateral follow the balances, that of the treasury as one credited with a fee -/
structure Parties.Flags (p q : Parties) : Prop where
  borrower : p.borrowerCollateral.Backed → p.borrowerCollateral.Follows false q.borrowerCollateral
  liquidator : p.liquidatorCollateral.Follows false q.liquidatorCollateral
  treasury : p.treasury.Backed → p.treasury.Follows true q.treasury

/-- nothing that the rule looks at differs in the market of the collateral -/
structure Parties.SameSupplies (p q : Parties) : Prop where
  borrower : q.borrowerCollateral.supplied = p.borrowerCollateral.supplied
  liquidator : q.liquidatorCollateral.supplied = p.liquidatorCollateral.supplied
  treasury : q.treasury.supplied = p.treasury.supplied

theorem Parties.Flags.congr {p q p' q' : Parties} (h : p.Flags q) (hp : p'.SameSupplies p) (hq : q.SameSupplies q') :
    p'.Flags q' where
  borrower := fun hb => (h.borrower (hb.congr hp.borrower)).congr hp.borrower.symm hq.borrower
  liquidator := h.liquidator.congr hp.liquidator.symm hq.liquidator
  treasury := fun hb => (h.treasury (hb.congr hp.treasury)).congr hp.treasury.symm hq.treasury

namespace Book

variable {a b : Book} {curve : RateCurve} {amount covered scaled : UInt256} {amounts : Amounts} {receiveSupply : Bool}
  {now : Nat}

theorem settle_supplied (h : a.settle now = .ok b) : a.parties.SameSupplies b.parties := by
  obtain ⟨_, hsettles, rfl⟩ := settle_eq_ok h
  exact ⟨(Position.accrue_parts hsettles.borrowerCollateral).2.1,
    (Position.accrue_parts hsettles.liquidatorCollateral).2.1, (Position.accrue_parts hsettles.treasury).2.1⟩

theorem take_flags (h : a.take curve amount scaled receiveSupply = .ok b) :
    a.parties.borrowerCollateral.Removes b.parties.borrowerCollateral ∧
      a.parties.liquidatorCollateral.Follows false b.parties.liquidatorCollateral ∧
      b.parties.treasury = a.parties.treasury := by
  cases receiveSupply with
  | true =>
    obtain ⟨_, _, hp, hq, rfl⟩ := seizeSupply_spec h
    exact ⟨Position.removeSupply_removes hp, Position.addSupply_follows hq, rfl⟩
  | false =>
    obtain ⟨_, _, _, _, _, hp, hq, _, rfl, _⟩ := seizeUnderlying_spec h
    exact ⟨Position.removeSupply_removes hp, Position.follows_of_supplied false (Position.receive_parts hq).2, rfl⟩

theorem chargeFee_flags (h : a.chargeFee scaled = .ok b) :
    (b.parties.borrowerCollateral = a.parties.borrowerCollateral ∨
        a.parties.borrowerCollateral.Removes b.parties.borrowerCollateral) ∧
      b.parties.liquidatorCollateral = a.parties.liquidatorCollateral ∧
      (a.parties.treasury.Backed → a.parties.treasury.Follows true b.parties.treasury) := by
  rcases chargeFee_cases h with ⟨_, rfl⟩ | ⟨_, _, hp, hq, rfl⟩
  · exact ⟨.inl rfl, rfl, fun _ => Position.follows_of_supplied true rfl⟩
  · exact ⟨.inr (Position.removeSupply_removes hp), rfl, fun hb => Position.creditSupply_follows hb hq⟩

/-- a balance seized whole is empty, so dropping its flag is what the removals have done already -/
theorem seize_flags (h : a.seize curve amounts receiveSupply = .ok b) : a.parties.Flags b.parties := by
  have hempties := seize_empties h
  obtain ⟨seizure, taken, charged, _, ht, hc, rfl⟩ := seize_spec h
  obtain ⟨htaken, hliquidator, htreasury⟩ := take_flags ht
  obtain ⟨hcharged, hsame, hfee⟩ := chargeFee_flags hc
  have hremoves : a.parties.borrowerCollateral.Removes charged.parties.borrowerCollateral := by
    rcases hcharged with he | hcharged
    · rw [he]
      exact htaken
    · exact htaken.trans hcharged
  have hflags : a.parties.Flags charged.parties := by
    refine ⟨hremoves.follows, ?_, ?_⟩
    · rw [hsame]
      exact hliquidator
    · rw [← htreasury]
      exact hfee
  split
  · next hall =>
    rw [if_pos hall] at hempties
    have hempty : charged.parties.borrowerCollateral.scaledSupply = 0 := hempties hall
    have hdropped : charged.parties.borrowerCollateral.collateral = false := by
      rw [hremoves.flag, hempty]
      rfl
    refine hflags.congr ⟨rfl, rfl, rfl⟩ ⟨?_, rfl, rfl⟩
    simp only [dropCollateral, Position.supplied, hdropped]
  · exact hflags

theorem liquidate_flags {debtConfig collateralConfig : ReserveConfig} {terms : Terms} {o : Outcome}
    (h : a.liquidate debtConfig collateralConfig terms now = .ok o) : a.parties.Flags o.book.parties := by
  obtain ⟨_, _, accrued, result, ha, hr, rfl⟩ := liquidate_eq_ok h
  obtain ⟨_, hreserves, hsettled⟩ := accrue_eq_ok ha
  obtain ⟨_, _, _, _, rfl⟩ := accrueReserves_eq_ok hreserves
  obtain ⟨repaid, seized, _, hrepaid, hseized, hresult⟩ := liquidateNow_eq_ok hr
  have hbefore := settle_supplied hsettled
  obtain ⟨_, _, _, _, _, _, rfl⟩ := repay_spec hrepaid
  have hflags : a.parties.Flags result.book.parties :=
    (seize_flags hseized).congr ⟨hbefore.borrower, hbefore.liquidator, hbefore.treasury⟩ (settle_supplied hresult)
  split
  · exact hflags
  · exact hflags

end Book

end Liquidation

/-! ## The pool -/

/-- whether an action credits the position in a place with a fee -/
def Action.creditsFee (treasury : Address) (key : PositionKey) : Action → Bool
  | .liquidation _ _ _ collateralAsset _ => decide (key = ⟨treasury, collateralAsset⟩)
  | .account _ _ _ | .setCollateral _ _ _ | .transfer _ _ _ _ => false

namespace Pool

variable {pool next : Pool} {now : Nat} {action : Action}

/-- every flag is set on a balance only -/
def Backed (pool : Pool) : Prop := ∀ key, (pool.positionAt key).Backed

/-- the flags follow the balances in every place when they do where something is written -/
theorem Writes.flags {rs : List (Reserve × Reserve)} {ps : List (Position × Position)} (hw : Writes pool next rs ps)
    (hb : pool.Backed) (action : Action) (treasury : Address)
    (hps : ∀ w ∈ ps, w.1.Backed → w.1.Follows (action.creditsFee treasury w.1.key) w.2) (key : PositionKey) :
    (pool.positionAt key).Follows (action.creditsFee treasury key) (next.positionAt key) := by
  rcases hw.positionAt_cases key with ⟨w, hm, rfl, hbefore, hafter⟩ | hsame
  · rw [hbefore, hafter]
    exact hps w hm (hbefore ▸ hb w.1.key)
  · rw [hsame]
    exact Position.follows_of_supplied _ rfl

theorem liquidation_flags {liquidator borrower debtAsset collateralAsset : Address} {terms : Liquidation.Terms}
    {debtConfig collateralConfig : ReserveConfig} {book : Liquidation.Book} {o : Liquidation.Outcome}
    (hp : pool.WellFormed) (hbook : pool.Books liquidator borrower debtAsset collateralAsset book)
    (h : book.liquidate debtConfig collateralConfig terms now = .ok o) :
    ∀ w ∈ bookPositions book o.book, w.1.Backed → w.1.Follows
      ((Action.liquidation liquidator borrower debtAsset collateralAsset terms).creditsFee pool.config.treasury w.1.key)
      w.2 := by
  have hkept := Liquidation.Book.liquidate_keeps h
  have hflags := Liquidation.Book.liquidate_flags h
  have hc := (Liquidation.Book.liquidate_eq_ok h).1
  have hbc := hp.key_of_positionOf hbook.borrowerCollateral
  have hlc := hp.key_of_positionOf hbook.liquidatorCollateral
  have ht := hp.key_of_positionOf hbook.treasury
  have hborrower : book.parties.borrowerCollateral.owner = borrower := congrArg PositionKey.owner hbc
  have hliquidator : book.parties.liquidatorCollateral.owner = liquidator := congrArg PositionKey.owner hlc
  have htreasury : book.parties.treasury.owner = pool.config.treasury := congrArg PositionKey.owner ht
  -- the treasury takes no other part in a liquidation
  have hfee : borrower ≠ pool.config.treasury := by
    rw [← hborrower, ← htreasury, hc.borrower]
    exact hc.treasuryBorrower.symm
  have hfee' : liquidator ≠ pool.config.treasury := by
    rw [← hliquidator, ← htreasury, hc.liquidator]
    exact hc.treasuryLiquidator.symm
  refine List.forall_mem_cons.2 ⟨fun _ => Position.follows_of_supplied _ hkept.borrowerDebt.1,
    List.forall_mem_cons.2 ⟨fun hb => ?_, List.forall_mem_cons.2 ⟨fun _ =>
      Position.follows_of_supplied _ hkept.liquidatorDebt.2, List.forall_mem_cons.2 ⟨fun _ => ?_,
        List.forall_mem_singleton.2 fun hb => ?_⟩⟩⟩⟩
  · simpa [Action.creditsFee, hbc, hfee] using hflags.borrower hb
  · simpa [Action.creditsFee, hlc, hfee'] using hflags.liquidator
  · simpa [Action.creditsFee, ht] using hflags.treasury hb

/-- **The flag of every position follows its balance, whatever the action**, unless it declares a flag. -/
theorem Effect.flags (h : Effect now pool next action) (hp : pool.WellFormed) (hb : pool.Backed)
    (hn : ∀ owner asset enabled, action ≠ .setCollateral owner asset enabled) (key : PositionKey) :
    (pool.positionAt key).Follows (action.creditsFee pool.config.treasury key) (next.positionAt key) := by
  cases h with
  | account _ _ result writes =>
    refine writes.flags hb _ _ (List.forall_mem_singleton.2 fun ha => ?_) key
    exact Account.perform_flag ha result
  | setCollateral => exact absurd rfl (hn _ _ _)
  | selfTransfer _ _ _ settled writes =>
    refine writes.flags hb _ _ (List.forall_mem_singleton.2 fun _ => ?_) key
    exact Position.follows_of_supplied _ (Position.accrue_parts settled).2.1
  | transfer _ _ _ result others writes =>
    obtain ⟨hsender, hrecipient⟩ := Transfer.perform_flag result others
    refine writes.flags hb _ _ (List.forall_mem_cons.2 ⟨?_, List.forall_mem_singleton.2 fun _ => ?_⟩) key
    · exact hsender
    · exact hrecipient
  | liquidation read _ _ result writes =>
    exact writes.flags hb _ _ (liquidation_flags hp (bookOf_eq_ok read) result) key

/-- a flag that is declared is declared on a balance -/
theorem setCollateral_backed {a : Account} {p : Position} {enabled : Bool} (ha : a.setCollateral enabled now = .ok p) :
    p.Backed := by
  obtain ⟨accrued, _, rfl, hdeclared⟩ := Account.setCollateral_spec ha
  exact hdeclared

theorem Effect.backed (h : Effect now pool next action) (hp : pool.WellFormed) (hb : pool.Backed) : next.Backed := by
  intro key
  by_cases hn : ∀ owner asset enabled, action ≠ .setCollateral owner asset enabled
  · exact (h.flags hp hb hn key).backed (hb key)
  · cases h with
    | setCollateral _ result writes =>
      rcases writes.positionAt_cases key with ⟨w, hm, _, _, hafter⟩ | hsame
      · rw [List.mem_singleton] at hm
        rw [hafter, hm]
        exact setCollateral_backed result
      · rw [hsame]
        exact hb key
    | _ => exact absurd (fun _ _ _ => nofun) hn

/-! ## Every event -/

theorem step_backed {event : Event} (hp : pool.WellFormed) (hb : pool.Backed) (h : pool.step event = .ok next) :
    next.Backed := by
  cases event with
  | list config listing now =>
    obtain ⟨_, _, rfl⟩ := list_eq_ok h
    exact hb
  | setWallet owner asset amount =>
    obtain ⟨_, _, hw⟩ := setWallet_writes hp h
    intro key
    rcases hw.positionAt_cases key with ⟨w, hm, _, hbefore, hafter⟩ | hsame
    · have hold := hb key
      rw [List.mem_singleton] at hm
      rw [hbefore, hm] at hold
      rw [hafter, hm]
      exact hold
    · rw [hsame]
      exact hb key
  | request request => exact (act_effect hp h).backed hp hb

theorem Reaches.backed {allowed : Event → Prop} (h : Reaches allowed pool) : pool.Backed := by
  induction h with
  | create hc =>
    obtain ⟨_, rfl⟩ := create_eq_ok hc
    exact fun key => Position.backed_empty key.owner key.asset 0
  | step before _ hs ih => exact step_backed before.wellFormed ih hs

/-- **Supply counts as collateral only where there is some, and its flag follows the balance**: it is set when an empty
balance is filled, except by the treasury's fee, dropped when a balance is emptied, and kept otherwise. -/
theorem collateral_follows (h : Reachable pool) :
    (∀ key p, pool.positions.get? key = some p → p.collateral = true → p.scaledSupply ≠ 0) ∧
      ∀ request next, pool.apply request = .ok next →
        (∀ owner asset enabled, request.action ≠ .setCollateral owner asset enabled) →
        ∀ key, (next.positionAt key).collateral =
          (pool.positionAt key).flagAfter (request.action.creditsFee pool.config.treasury key)
            (next.positionAt key).scaledSupply := by
  refine ⟨fun key p hp => ?_, fun request next hn hother => ?_⟩
  · have hbacked := h.backed key
    rw [positionAt, hp, Option.getD_some] at hbacked
    exact hbacked
  · exact (act_effect h.wellFormed hn).flags h.wellFormed h.backed hother

/-- a liquidation fills two empty balances in the market of the collateral: the liquidator's becomes collateral, and the
treasury's does not -/
theorem collateral_follows_liquidation :
    ∃ pool next, runFrom Sample.poolConfig Sample.borrowed = .ok pool ∧
      pool.apply ⟨3600, Sample.liquidation true⟩ = .ok next ∧
      (next.positionAt ⟨Sample.liquidator, Sample.collateral⟩).collateral = true ∧
      (next.positionAt ⟨Sample.poolConfig.treasury, Sample.collateral⟩).collateral = false := by
  obtain ⟨pool, hrun, hconfig, next, hn, hempty, hfilled, hempty', hfilled'⟩ :
      ∃ pool, runFrom Sample.poolConfig Sample.borrowed = .ok pool ∧ pool.config = Sample.poolConfig ∧
        ∃ next, pool.apply ⟨3600, Sample.liquidation true⟩ = .ok next ∧
          (pool.positionAt ⟨Sample.liquidator, Sample.collateral⟩).scaledSupply = 0 ∧
          (next.positionAt ⟨Sample.liquidator, Sample.collateral⟩).scaledSupply ≠ 0 ∧
          (pool.positionAt ⟨Sample.poolConfig.treasury, Sample.collateral⟩).scaledSupply = 0 ∧
          (next.positionAt ⟨Sample.poolConfig.treasury, Sample.collateral⟩).scaledSupply ≠ 0 := by
    decide +kernel
  have hfollows := (collateral_follows (Reaches.of_runFrom (fun _ _ => trivial) hrun)).2 _ _ hn (fun _ _ _ => nofun)
  rw [hconfig] at hfollows
  refine ⟨pool, next, hrun, hn, ?_, ?_⟩
  · rw [hfollows, Position.flagAfter, if_pos ⟨hempty, hfilled⟩]
    decide
  · rw [hfollows, Position.flagAfter, if_pos ⟨hempty', hfilled'⟩]
    decide

end Pool

end Lending
