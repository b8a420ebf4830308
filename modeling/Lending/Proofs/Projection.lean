/-
Catching up is transparent to every action.

Every action brings what it changes up to the moment first. Doing this beforehand makes no difference: what is caught up
stays as it is when it is caught up again, and an action reads nothing of what it was given but by catching it up. The
one thing an action gives back as it came is the collateral market of a liquidation that takes supply.

Results:
- `Reserve.accrue_again`, `Position.accrue_again`, `Account.accrue_again`, `Transfer.accrue_again`, `Book.accrue_again`:
  accruing twice to one time is accruing once;
- `Account.perform_of_accrue`, `Account.setCollateral_of_accrue`, `Transfer.perform_of_accrue`: an action on what is
  caught up is the action on what it was before;
- `Book.liquidate_of_accrue`: so is a liquidation, up to the market that goes back as it came;
- `perform_caught_up`: all of it together.
-/
import Lending.Proofs.Frames
import Lending.Proofs.StatedAmounts

namespace Lending

open UInt256

variable {now : Nat}

/-! ## Accruing twice -/

theorem Reserve.accrue_again {r s : Reserve} (h : r.accrue now = .ok s) : s.accrue now = .ok s := by
  obtain ⟨_, _, _, _, _, _, rfl, _⟩ := accrue_eq_ok h
  exact accrue_self _

/-- the balances are computed from what accruing leaves alone -/
theorem Position.accrue_again {r : Reserve} {p q : Position} (h : p.accrue r now = .ok q) : q.accrue r now = .ok q := by
  obtain ⟨hasset, supply, variableDebt, stableDebt, rfl, hsupply, hvariable, hstable⟩ := accrue_eq_ok h
  simp only [accrue, bind_eq_ok]
  exact ⟨(), require_eq_ok.2 hasset, supply, hsupply, variableDebt, hvariable, stableDebt, hstable, rfl⟩

namespace Account

variable {a b : Account}

theorem accrue_again (h : a.accrue now = .ok b) : b.accrue now = .ok b := by
  obtain ⟨r, p, hr, hp, rfl⟩ := accrue_eq_ok h
  simp only [accrue, bind_eq_ok]
  exact ⟨r, Reserve.accrue_again hr, p, Position.accrue_again hp, rfl⟩

/-- an action looks at its amount and at the account as it is at the moment, and at nothing else -/
theorem perform_of_accrue (h : a.accrue now = .ok b) (pool : PoolConfig) (config : ReserveConfig)
    (action : AccountAction) : b.perform pool config now action = a.perform pool config now action := by
  simp only [perform, h, accrue_again h]

theorem setCollateral_of_accrue (h : a.accrue now = .ok b) (enabled : Bool) :
    b.setCollateral enabled now = a.setCollateral enabled now := by
  simp only [setCollateral, h, accrue_again h]

end Account

namespace Transfer

variable {r s : Reserve} {t u : Transfer}

theorem accrue_again (h : t.accrue r now = .ok u) : u.accrue r now = .ok u := by
  simp only [accrue, bind_eq_ok] at h ⊢
  obtain ⟨sender, hsender, recipient, hrecipient, h⟩ := h
  cases h
  exact ⟨sender, Position.accrue_again hsender, recipient, Position.accrue_again hrecipient, rfl⟩

theorem perform_of_accrue (hr : r.accrue now = .ok s) (ht : t.accrue s now = .ok u) (amount : UInt256) :
    u.perform s amount now = t.perform r amount now := by
  simp only [perform, hr, Reserve.accrue_again hr, ok_bind, ht, accrue_again ht]

end Transfer

/-! ## Liquidations -/

namespace Liquidation

/-- the outcome with `reserve` as the collateral market -/
def Outcome.withCollateralReserve (reserve : Reserve) (outcome : Outcome) : Outcome :=
  { outcome with book := { outcome.book with collateralReserve := reserve } }

namespace Book

variable {a b : Book}

/-- settling leaves the reserves where they stand, so both halves can be done again -/
theorem accrue_again (h : a.accrue now = .ok b) : b.accrue now = .ok b := by
  obtain ⟨accrued, ha, hs⟩ := accrue_eq_ok h
  obtain ⟨d, c, hd, hc, rfl⟩ := accrueReserves_eq_ok ha
  obtain ⟨p, hp, rfl⟩ := settle_eq_ok hs
  simp only [accrue, accrueReserves, settle, bind_eq_ok]
  refine ⟨_, ⟨d, Reserve.accrue_again hd, c, Reserve.accrue_again hc, rfl⟩, ?_⟩
  exact ⟨_, Position.accrue_again hp.borrowerDebt, _, Position.accrue_again hp.liquidatorDebt,
    _, Position.accrue_again hp.borrowerCollateral, _, Position.accrue_again hp.liquidatorCollateral,
    _, Position.accrue_again hp.treasury, rfl⟩

/-- who the parties are and which markets they meet in does not change -/
theorem Moves.consistent_iff (h : a.Moves b) : b.Consistent ↔ a.Consistent := by
  have howner {p q : Position} (hkey : q.key = p.key) : q.owner = p.owner := congrArg PositionKey.owner hkey
  rw [Book.consistent_iff, Book.consistent_iff, Reserve.asset, Reserve.asset, h.debtGrows.listing,
    h.collateralGrows.listing, howner h.places.borrowerDebt, howner h.places.borrowerCollateral,
    howner h.places.liquidatorDebt, howner h.places.liquidatorCollateral, howner h.places.treasury]
  rfl

/-- a liquidation checks the parties before it accrues, and gives the collateral market back as it came after that -/
theorem liquidate_of_accrue (h : a.accrue now = .ok b) (debtConfig collateralConfig : ReserveConfig) (terms : Terms) :
    b.liquidate debtConfig collateralConfig terms now =
      (fun outcome => if terms.receiveSupply then outcome.withCollateralReserve b.collateralReserve else outcome) <$>
        a.liquidate debtConfig collateralConfig terms now := by
  unfold liquidate
  simp only [h, accrue_again h, require_congr (accrue_moves h).consistent_iff, ok_bind, map_bind, map_pure]
  cases terms.receiveSupply <;> rfl

end Book

end Liquidation

/-! ## All actions -/

open Liquidation in
/-- **Every action on what is caught up gives what it gives on what it was before, or fails with the same fault.** A
liquidation that takes supply gives back the collateral market as it came, and does nothing else differently. -/
theorem perform_caught_up :
    (∀ (a b : Account) (now : Nat), a.accrue now = .ok b →
      (∀ pool config action, b.perform pool config now action = a.perform pool config now action) ∧
        ∀ enabled, b.setCollateral enabled now = a.setCollateral enabled now) ∧
    (∀ (r s : Reserve) (t u : Transfer) (now : Nat), r.accrue now = .ok s → t.accrue s now = .ok u →
      ∀ amount, u.perform s amount now = t.perform r amount now) ∧
    ∀ (a b : Book) (now : Nat), a.accrue now = .ok b → ∀ debtConfig collateralConfig terms,
      (terms.receiveSupply = false →
        b.liquidate debtConfig collateralConfig terms now = a.liquidate debtConfig collateralConfig terms now) ∧
      (terms.receiveSupply = true →
        b.liquidate debtConfig collateralConfig terms now =
          Outcome.withCollateralReserve b.collateralReserve <$> a.liquidate debtConfig collateralConfig terms now ∧
        ∀ outcome, a.liquidate debtConfig collateralConfig terms now = .ok outcome →
          outcome.book.collateralReserve = a.collateralReserve) := by
  refine ⟨fun a b now h => ⟨Account.perform_of_accrue h, Account.setCollateral_of_accrue h⟩,
    fun r s t u now hr ht => Transfer.perform_of_accrue hr ht, fun a b now h debtConfig collateralConfig terms => ?_⟩
  have hagain := Book.liquidate_of_accrue h debtConfig collateralConfig terms
  refine ⟨fun hs => ?_, fun hs => ⟨?_, fun outcome ho => Book.liquidate_collateralReserve ho hs⟩⟩
  · simpa only [hs, Bool.false_eq_true, if_false, id_map'] using hagain
  · simpa only [hs, if_true] using hagain

open Liquidation in
/-- an hour of interest lies between the stored samples and what they are caught up to, and makes no difference to any
action on an account, to the transfer of a whole supply and to a liquidation for supply -/
theorem perform_caught_up_sample :
    (∃ b, Sample.agedAccount.accrue 3600 = .ok b ∧ b ≠ Sample.agedAccount ∧ ∀ pool config action,
      b.perform pool config 3600 action = Sample.agedAccount.perform pool config 3600 action) ∧
    (∃ s, Sample.agedAccount.reserve.accrue 3600 = .ok s ∧ ∃ u, Sample.handover.accrue s 3600 = .ok u ∧
      u.perform s (Sample.tokens 77) 3600 =
        Sample.handover.perform Sample.agedAccount.reserve (Sample.tokens 77) 3600) ∧
    ∃ pool, Pool.runFrom Sample.poolConfig Sample.borrowed = .ok pool ∧
      ∃ a, pool.bookOf Sample.liquidator Sample.borrower Sample.debt Sample.collateral = .ok a ∧
        ∃ b, a.accrue 3600 = .ok b ∧ b ≠ a ∧
          b.liquidate Sample.reserveConfig Sample.reserveConfig (Sample.terms true) 3600 =
            Outcome.withCollateralReserve b.collateralReserve <$>
              a.liquidate Sample.reserveConfig Sample.reserveConfig (Sample.terms true) 3600 := by
  obtain ⟨b, hb, hne⟩ : ∃ b, Sample.agedAccount.accrue 3600 = .ok b ∧ b ≠ Sample.agedAccount := by decide +kernel
  obtain ⟨s, hs, u, hu, -⟩ :
      ∃ s, Sample.agedAccount.reserve.accrue 3600 = .ok s ∧ ∃ u, Sample.handover.accrue s 3600 = .ok u ∧ True := by
    decide +kernel
  obtain ⟨pool, hrun, book, hbook, caughtUp, hcaughtUp, hmoved⟩ :
      ∃ pool, Pool.runFrom Sample.poolConfig Sample.borrowed = .ok pool ∧
        ∃ a, pool.bookOf Sample.liquidator Sample.borrower Sample.debt Sample.collateral = .ok a ∧
          ∃ b, a.accrue 3600 = .ok b ∧ b ≠ a := by
    decide +kernel
  obtain ⟨haccounts, htransfers, hbooks⟩ := perform_caught_up
  exact ⟨⟨b, hb, hne, (haccounts _ b 3600 hb).1⟩,
    ⟨s, hs, u, hu, htransfers _ s _ u 3600 hs hu _⟩,
    pool, hrun, book, hbook, caughtUp, hcaughtUp, hmoved, ((hbooks book caughtUp 3600 hcaughtUp _ _ _).2 rfl).1⟩

end Lending
