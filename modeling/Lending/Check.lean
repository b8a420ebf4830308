/-
Checks on reserves and positions: that two agree up to a tolerance, and that a reserve can cover its suppliers.

A tolerance is strict: two values agree when they are less than it apart, so nothing agrees at tolerance zero. A check
names the first field that fails.
-/
import Lending.Pool

namespace Lending

/-- why a check fails -/
inductive Violation where
  /-- the two things are not of the same identity, or what is checked cannot be computed -/
  | incomparable
  | apart (left right tolerance : UInt256)
  | fieldApart (subject field : String) (left right tolerance : UInt256)
  | insolvent (symbol : String) (backing supply : UInt256)
  deriving DecidableEq, Repr

namespace Violation

/-- a value between quotes -/
def quoted (a : UInt256) : String := "`" ++ toString a.toNat ++ "`"

/-- two values and the tolerance between them -/
def comparison (left right tolerance : UInt256) : String :=
  "(left: " ++ quoted left ++ ", right: " ++ quoted right ++ ", epsilon: " ++ quoted tolerance ++ ")"

/-- the wording of a violation -/
def message : Violation → String
  | incomparable => ""
  | apart left right tolerance => "assertion failed: `(left != right)` " ++ comparison left right tolerance
  | fieldApart subject field left right tolerance =>
    subject ++ " field `" ++ field ++ "` differs " ++ comparison left right tolerance
  | insolvent symbol backing supply =>
    "reserve " ++ symbol ++ " is insolvent (backing: " ++ quoted backing ++ ", supply: " ++ quoted supply ++ ")"

end Violation

namespace Check

/-- goes on when the condition holds and stops with the violation otherwise -/
def demand (condition : Prop) [Decidable condition] (violation : Violation) : Except Violation Unit :=
  if condition then .ok () else .error violation

/-- two values agree -/
def close (left right tolerance : UInt256) : Except Violation Unit :=
  demand (left.absDiff right < tolerance) (.apart left right tolerance)

/-- one field of two records, by name -/
structure Compared where
  name : String
  left : UInt256
  right : UInt256

/-- all fields agree; the first that does not is named -/
def fieldsClose (subject : String) (tolerance : UInt256) (fields : List Compared) : Except Violation Unit :=
  fields.forM fun f =>
    demand (f.left.absDiff f.right < tolerance) (.fieldApart subject f.name f.left f.right tolerance)

/-- two states of one reserve at one time agree in indices, rates, debts and liquidity -/
def reserves (actual expected : Reserve) (tolerance : UInt256) : Except Violation Unit := do
  demand (actual.asset = expected.asset) .incomparable
  demand (actual.lastUpdate = expected.lastUpdate) .incomparable
  fieldsClose "reserve" tolerance
    [⟨"liquidity_index", actual.liquidityIndex, expected.liquidityIndex⟩,
     ⟨"variable_borrow_index", actual.debtIndex, expected.debtIndex⟩,
     ⟨"liquidity_rate", actual.rates.liquidityRate, expected.rates.liquidityRate⟩,
     ⟨"variable_borrow_rate", actual.rates.variableRate, expected.rates.variableRate⟩,
     ⟨"stable_borrow_rate", actual.rates.stableRate, expected.rates.stableRate⟩,
     ⟨"average_stable_borrow_rate", actual.averageStableRate, expected.averageStableRate⟩,
     ⟨"total_stable_debt", actual.totalStableDebt, expected.totalStableDebt⟩,
     ⟨"total_variable_debt", actual.totalVariableDebt, expected.totalVariableDebt⟩,
     ⟨"available_liquidity", actual.available, expected.available⟩,
     ⟨"unbacked", actual.unbacked, expected.unbacked⟩,
     ⟨"accrued_to_treasury_scaled", actual.treasuryScaled, expected.treasuryScaled⟩]

/-- two states of one position agree in balances, stable rate and wallet -/
def positions (actual expected : Position) (tolerance : UInt256) : Except Violation Unit := do
  demand (actual.key = expected.key) .incomparable
  demand (actual.collateral = expected.collateral) .incomparable
  fieldsClose "user" tolerance
    [⟨"current_a_token_balance", actual.supply, expected.supply⟩,
     ⟨"current_variable_debt", actual.variableDebt, expected.variableDebt⟩,
     ⟨"current_stable_debt", actual.stableDebt, expected.stableDebt⟩,
     ⟨"stable_borrow_rate", actual.stableRate, expected.stableRate⟩,
     ⟨"wallet_balance", actual.wallet, expected.wallet⟩]

/-- what stands behind a reserve's supply: underlying, unbacked supply and debt, added modulo the size of a word -/
def backing (reserve : Reserve) : UInt256 :=
  ((reserve.available.wrapAdd reserve.unbacked).wrapAdd reserve.totalVariableDebt).wrapAdd reserve.totalStableDebt

/-- the reserve covers what it owes its suppliers and the treasury, up to the tolerance -/
def solvent (reserve : Reserve) (tolerance : UInt256) : Except Violation Unit :=
  match reserve.totalSupply with
  | .error _ => .error .incomparable
  | .ok supply =>
    demand (supply < (backing reserve).wrapAdd tolerance)
      (.insolvent reserve.listing.symbol (backing reserve) supply)

end Check

end Lending
