/-
The pool: the markets that are listed, with their settings, and every position that was ever written.

Reserves and positions are looked up by address and written back whole; both are listed in the order of their keys. The
settings of the markets are a table of their own, because a reserve can be written for an asset that was never listed.
-/
import Lending.Config
import Lending.Position
import Lending.Table

namespace Lending

instance : Ranked Address := ⟨Address.toNat, Address.ext⟩

/-- who holds a position, and in which market -/
structure PositionKey where
  owner : Address
  asset : Address
  deriving DecidableEq, Repr

/-- positions are ordered by their owners, and those of one owner by their assets -/
def PositionKey.rank (key : PositionKey) : Nat := key.owner.toNat * Nat.pow 2 160 + key.asset.toNat

theorem PositionKey.rank_inj {a b : PositionKey} (h : a.rank = b.rank) : a = b := by
  obtain ⟨⟨o, ho⟩, ⟨s, hs⟩⟩ := a
  obtain ⟨⟨p, hp⟩, ⟨t, ht⟩⟩ := b
  replace h : o * 2 ^ 160 + s = p * 2 ^ 160 + t := h
  replace hs : s < 2 ^ 160 := hs
  replace ht : t < 2 ^ 160 := ht
  obtain ⟨rfl, rfl⟩ : o = p ∧ s = t := by omega
  rfl

instance : Ranked PositionKey := ⟨PositionKey.rank, PositionKey.rank_inj⟩

/-- the place of a position in the pool -/
def Position.key (position : Position) : PositionKey := ⟨position.owner, position.asset⟩

/-- the state of all markets and positions -/
structure Pool where
  config : PoolConfig
  configs : Table Address ReserveConfig
  reserves : Table Address Reserve
  positions : Table PositionKey Position

namespace Pool

/-- a pool without markets; its settings must be valid -/
def create (config : PoolConfig) : Checked Pool := do
  config.validate
  return { config, configs := .empty, reserves := .empty, positions := .empty }

/-! ## Look-up -/

/-- the settings of a listed market -/
def configOf (pool : Pool) (asset : Address) : Checked ReserveConfig :=
  match pool.configs.get? asset with
  | some config => .ok config
  | none => .error .reserveNotFound

/-- the reserve of an asset -/
def reserveOf (pool : Pool) (asset : Address) : Checked Reserve :=
  match pool.reserves.get? asset with
  | some reserve => .ok reserve
  | none => .error .reserveNotFound

/-- a user's position in a market; one never written is empty, with an empty wallet -/
def positionOf (pool : Pool) (owner asset : Address) : Checked Position := do
  require (pool.reserves.Has asset) .reserveNotFound
  return (pool.positions.get? ⟨owner, asset⟩).getD (.empty owner asset 0)

/-! ## Writing -/

/-- writes a reserve in its place -/
def putReserve (pool : Pool) (reserve : Reserve) : Pool :=
  { pool with reserves := pool.reserves.insert reserve.asset reserve }

/-- writes a position in its place -/
def putPosition (pool : Pool) (position : Position) : Pool :=
  { pool with positions := pool.positions.insert position.key position }

/-- lists a market; its settings must be valid and its asset new -/
def list (config : ReserveConfig) (reserve : Reserve) (pool : Pool) : Checked Pool := do
  config.validate
  require (¬ pool.reserves.Has reserve.asset) .badRequest
  return { pool with configs := pool.configs.insert reserve.asset config }.putReserve reserve

/-- sets what a user holds of an asset outside its market -/
def setWallet (owner asset : Address) (amount : UInt256) (pool : Pool) : Checked Pool := do
  let position ← pool.positionOf owner asset
  return pool.putPosition { position with wallet := amount }

/-! ## Comparing -/

/-- the reserves and positions of `pool` that equal none of `before` -/
def changedReserves (pool before : Pool) : List Reserve :=
  pool.reserves.values.filter (· ∉ before.reserves.values)

/-- the positions of `pool` that equal none of `before` -/
def changedPositions (pool before : Pool) : List Position :=
  pool.positions.values.filter (· ∉ before.positions.values)

end Pool

end Lending
