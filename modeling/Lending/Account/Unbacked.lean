/-
Supply that a bridge mints before its underlying arrives, the backing of it, and flash loans.

Backing and flash loans pay the market a fee. Part of it is credited to the treasury and the rest raises the liquidity
index. The functions want an account that is accrued to the moment.
-/
import Lending.Account.Basic
import Lending.Config

namespace Lending

/-- refuses a reserve with more unbacked supply than the cap in whole tokens allows -/
def Reserve.requireMintCap (cap : Nat) (reserve : Reserve) : Checked Unit := do
  let unit ← reserve.listing.unit
  let limit ← UInt256.fit (cap * unit.toNat)
  require (reserve.unbacked ≤ limit) .mintCapExceeded

namespace Account

/-- mints `amount` of supply that nothing backs yet; an amount worth no scaled supply is refused -/
def mintUnbacked (config : ReserveConfig) (amount : UInt256) (account : Account) : Checked Account := do
  let reserve ← account.reserve.mintUnbacked amount
  reserve.requireMintCap config.unbackedMintCap
  let reserve ← reserve.refresh config.curve 0 0
  let scaled ← reserve.scaleSupply amount
  require (scaled ≠ 0) .badRequest
  let reserve ← reserve.mintSupply scaled
  let position ← account.position.addSupply scaled
  return ⟨reserve, position⟩

/-- backs `amount` of the unbacked supply from the wallet, but no more than there is, and pays `fee` on top of it; the
two together must not be nothing -/
def backUnbacked (pool : PoolConfig) (curve : RateCurve) (amount fee : UInt256) (account : Account) :
    Checked Account := do
  let backing := min amount account.reserve.unbacked
  let added ← backing.add fee
  require (added ≠ 0) .badRequest
  let split ← SplitFee.of fee pool.backingFeeToTreasury
  let reserve ← account.reserve.collect split
  let reserve ← reserve.burnUnbacked backing
  let reserve ← reserve.refresh curve added 0
  let position ← account.position.spend added
  return ⟨reserve, position⟩

/-- lends `amount` of the available liquidity and takes it back at once with a premium, which is paid from the wallet -/
def flashLoan (pool : PoolConfig) (curve : RateCurve) (amount : UInt256) (account : Account) : Checked Account := do
  require (amount ≤ account.reserve.available) .badRequest
  let premium ← flashLoanPremium amount pool.flashPremium pool.flashPremiumToTreasury
  let reserve ← account.reserve.collect premium
  let reserve ← reserve.refresh curve premium.total 0
  let position ← account.position.spend premium.total
  return ⟨reserve, position⟩

end Account

end Lending
