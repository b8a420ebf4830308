/-
A scenario: a pool with three listed tokens and a clock, on which actions are played one after another.

A scenario starts with the three markets empty, or with a first supplier in each. What cannot happen to a user of the
pool but only to the one who writes the scenario, a clock past its end or a look at a state that cannot be computed,
is an `aborted` step; a refused action keeps its fault. Neither changes the scenario.
-/
import Lending.Action
import Lending.Sample

namespace Lending

/-- the tokens of a scenario -/
inductive Token where
  | weth
  | usdc
  | dai
  deriving DecidableEq, Repr

namespace Token

/-- every token, in the order the markets are listed -/
def all : List Token := [weth, usdc, dai]

theorem mem_all (token : Token) : token ∈ all := by cases token <;> decide

/-- what is fixed about the market of a token -/
def listing : Token → Listing
  | weth => { asset := Address.repeated 0xE1, symbol := "WETH", decimals := 18, reserveFactor := 1500 }
  | usdc => { asset := Address.repeated 0xC1, symbol := "USDC", decimals := 6, reserveFactor := 1000 }
  | dai => { asset := Address.repeated 0xD1, symbol := "DAI", decimals := 18, reserveFactor := 1000 }

def asset (token : Token) : Address := token.listing.asset

/-- `n` whole tokens -/
def amount (token : Token) (n : Nat) : UInt256 := UInt256.ofNat (n * Nat.pow 10 token.listing.decimals)

end Token

/-- a pool of the three tokens and the time it has come to -/
structure Scenario where
  pool : Pool
  clock : Nat

namespace Scenario

/-- why a step of a scenario does not happen -/
inductive Failure where
  | refused (fault : Fault)
  | aborted
  deriving DecidableEq, Repr

/-- the same step, with any fault in it a reason to abort -/
def orAbort {α : Type} : Checked α → Except Failure α
  | .ok a => .ok a
  | .error _ => .error .aborted

/-- the time at which scenarios start -/
def start : Nat := 1441065600

/-- the seconds of a day -/
def day : Nat := 24 * 60 * 60

/-- the first time that is past the end of the clock -/
def clockEnd : Nat := Nat.pow 2 64

/-- the first supplier -/
def firstSupplier : Address := Address.repeated 0xB0

/-! ## Steps -/

/-- moves the clock forward -/
def jump (seconds : Nat) (scenario : Scenario) : Except Failure Scenario :=
  if scenario.clock + seconds < clockEnd then .ok { scenario with clock := scenario.clock + seconds }
  else .error .aborted

/-- adds `amount` to a wallet, modulo the size of a word -/
def fund (owner : Address) (token : Token) (amount : UInt256) (scenario : Scenario) : Except Failure Scenario :=
  orAbort do
    let position ← scenario.pool.positionOf owner token.asset
    let pool ← scenario.pool.setWallet owner token.asset (position.wallet.wrapAdd amount)
    return { scenario with pool }

/-- plays an action at the time of the clock -/
def submit (action : Action) (scenario : Scenario) : Except Failure Scenario :=
  match scenario.pool.act scenario.clock action with
  | .ok pool => .ok { scenario with pool }
  | .error fault => .error (.refused fault)

/-! ## Looking -/

/-- the market of a token as it was last written -/
def reserve (token : Token) (scenario : Scenario) : Except Failure Reserve :=
  orAbort (scenario.pool.reserveOf token.asset)

/-- a user's position at the time of the clock -/
def position (owner : Address) (token : Token) (scenario : Scenario) : Except Failure Position :=
  orAbort do
    let account ← scenario.pool.accountOf owner token.asset
    let account ← account.accrue scenario.clock
    return account.position

/-! ## Beginnings -/

/-- the three markets, listed and empty -/
def create : Except Failure Scenario :=
  orAbort do
    let pool ← Pool.create Sample.poolConfig
    let pool ← Token.all.foldlM (fun pool token => pool.list Sample.reserveConfig (.opened token.listing start)) pool
    return { pool, clock := start }

/-- the first supplier gets 100000 of a token and supplies 1000 of it -/
def firstSupply (scenario : Scenario) (token : Token) : Except Failure Scenario := do
  let scenario ← scenario.fund firstSupplier token (token.amount 100000)
  scenario.submit (.account firstSupplier token.asset (.supply (token.amount 1000)))

/-- the three markets with the first supplier in each -/
def createSupplied : Except Failure Scenario := do
  let scenario ← create
  Token.all.foldlM firstSupply scenario

end Scenario

end Lending
