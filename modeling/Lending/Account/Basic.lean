/-
An account: one position together with the reserve it belongs to.

Most actions change exactly these two. Each brings the account up to the moment (`accrue`), changes it, and brings the
position's balances up to date with the changed reserve (`settle`).
-/
import Lending.Position
import Lending.Reserve.Accrual
import Lending.Reserve.Update

namespace Lending

/-- a reserve and one of its positions -/
structure Account where
  reserve : Reserve
  position : Position
  deriving DecidableEq, Repr

namespace Account

/-- the account at `now` -/
def accrue (now : Nat) (account : Account) : Checked Account := do
  let reserve ← account.reserve.accrue now
  let position ← account.position.accrue reserve now
  return ⟨reserve, position⟩

/-- the account with the position's balances at `now`, when the reserve already stands there -/
def settle (now : Nat) (account : Account) : Checked Account := do
  let position ← account.position.accrue account.reserve now
  return { account with position }

end Account

end Lending
