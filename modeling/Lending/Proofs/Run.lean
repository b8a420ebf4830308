/-
Everything that can happen to a pool, and what holds of every pool that it leads to.

A market is listed, a wallet is set, or a user's request goes through. `Reaches allowed` has the pools that come from an
empty one by events that are allowed, in any number and any order; `Reachable` allows them all.

Results:
- `step_wellFormed`, `Reaches.wellFormed`: the bookkeeping is in order in every pool that is reached;
- `step_supplyGap`, `Reaches.supplyGap`: no event opens a gap between a market's supply and that of its positions;
- `step_reserve_from`, `Reaches.origin`: markets only grow older, ever since they were listed;
- `Reaches.sound`: so the indices never fall below one.

`Sample.liquidations` is a run that the results about runs are tried on.
-/
import Lending.Proofs.Effects
import Lending.Sample

namespace Lending

/-! ## Events -/

/-- what can happen to a pool -/
inductive Event where
  | list (config : ReserveConfig) (listing : Listing) (now : Nat)
  | setWallet (owner asset : Address) (amount : UInt256)
  | request (request : Request)
  deriving DecidableEq, Repr

/-- a listing at a reserve factor of at most one hundred percent, or any other event -/
def Event.WithinFactor : Event → Prop
  | .list _ listing _ => listing.reserveFactor ≤ hundredPercent
  | .setWallet _ _ _ | .request _ => True

instance : DecidablePred Event.WithinFactor
  | .list _ listing _ => inferInstanceAs (Decidable (listing.reserveFactor ≤ hundredPercent))
  | .setWallet _ _ _ => inferInstanceAs (Decidable True)
  | .request _ => inferInstanceAs (Decidable True)

namespace Pool

/-- the pool after an event -/
def step (pool : Pool) : Event → Checked Pool
  | .list config listing now => pool.list config (.opened listing now)
  | .setWallet owner asset amount => pool.setWallet owner asset amount
  | .request request => pool.apply request

/-- the pool after some events, one after another -/
def run (pool : Pool) (events : List Event) : Checked Pool := events.foldlM step pool

/-- the pools that come from an empty one by events that are allowed -/
inductive Reaches (allowed : Event → Prop) : Pool → Prop where
  | create {config : PoolConfig} {pool : Pool} (h : create config = .ok pool) : Reaches allowed pool
  | step {pool next : Pool} {event : Event} (before : Reaches allowed pool) (may : allowed event)
      (h : pool.step event = .ok next) : Reaches allowed next

/-- the pools that come from an empty one by any events -/
def Reachable : Pool → Prop := Reaches fun _ => True

/-- the pool that some events lead to from an empty one -/
def runFrom (config : PoolConfig) (events : List Event) : Checked Pool := do
  let pool ← create config
  pool.run events

/-- a run from a pool that is reached stays among them -/
theorem Reaches.run {allowed : Event → Prop} {pool next : Pool} (hr : Reaches allowed pool) {events : List Event}
    (ha : ∀ e ∈ events, allowed e) (h : pool.run events = .ok next) : Reaches allowed next := by
  induction events generalizing pool with
  | nil =>
    cases h
    exact hr
  | cons e rest ih =>
    obtain ⟨mid, hm, h⟩ := bind_eq_ok.1 (List.foldlM_cons.symm.trans h)
    exact ih (hr.step (ha e List.mem_cons_self) hm) (fun d hd => ha d (List.mem_cons_of_mem _ hd)) h

/-- a request that goes through leads from a pool that is reached to another -/
theorem Reachable.apply {pool next : Pool} (hr : Reachable pool) {request : Request}
    (h : pool.apply request = .ok next) : Reachable next := by
  have hs : pool.step (.request request) = .ok next := h
  exact hr.step trivial hs

theorem Reaches.of_runFrom {allowed : Event → Prop} {config : PoolConfig} {events : List Event} {pool : Pool}
    (ha : ∀ e ∈ events, allowed e) (h : runFrom config events = .ok pool) : Reaches allowed pool := by
  obtain ⟨_, hc, h⟩ := bind_eq_ok.1 h
  exact (Reaches.create hc).run ha h

/-! ## Creating and listing -/

theorem create_eq_ok {config : PoolConfig} {pool : Pool} (h : create config = .ok pool) :
    config.Valid ∧ pool = { config, configs := .empty, reserves := .empty, positions := .empty } := by
  obtain ⟨_, hv, h⟩ := bind_eq_ok.1 h
  cases h
  exact ⟨require_eq_ok.1 hv, rfl⟩

theorem create_wellFormed {config : PoolConfig} {pool : Pool} (h : create config = .ok pool) : pool.WellFormed := by
  obtain ⟨hv, rfl⟩ := create_eq_ok h
  exact ⟨hv, nofun, fun _ => Iff.rfl, nofun, nofun, nofun⟩

theorem list_eq_ok {config : ReserveConfig} {reserve : Reserve} {pool next : Pool}
    (h : pool.list config reserve = .ok next) :
    config.Valid ∧ ¬ pool.reserves.Has reserve.asset ∧
      next = { pool with configs := pool.configs.insert reserve.asset config
                         reserves := pool.reserves.insert reserve.asset reserve } := by
  simp only [list, bind_eq_ok, ReserveConfig.validate, require_eq_ok] at h
  obtain ⟨_, hv, _, hn, h⟩ := h
  cases h
  exact ⟨hv, hn, rfl⟩

theorem list_wellFormed {config : ReserveConfig} {reserve : Reserve} {pool next : Pool} (hp : pool.WellFormed)
    (h : pool.list config reserve = .ok next) : next.WellFormed := by
  obtain ⟨hv, _, rfl⟩ := list_eq_ok h
  refine ⟨hp.config, ?_, ?_, ?_, hp.key, ?_⟩
  · intro asset settings hs
    rw [Table.get?_insert] at hs
    split at hs
    · cases hs
      exact hv
    · exact hp.settings hs
  · intro asset
    have := hp.listed asset
    simp only [Table.Has, Table.get?_insert] at this ⊢
    split
    · exact Iff.rfl
    · exact this
  · intro asset r hr
    rw [Table.get?_insert] at hr
    split at hr
    · next he =>
      cases hr
      exact he.symm
    · exact hp.asset hr
  · intro key p hq
    have := hp.market hq
    simp only [Table.Has, Table.get?_insert] at this ⊢
    split
    · rfl
    · exact this

/-- a market that opens with nothing in it changes no gap -/
theorem list_gap {config : ReserveConfig} {reserve : Reserve} {pool next : Pool}
    (h : pool.list config reserve = .ok next) {t : Tally} (ht : t.total reserve = 0) (asset : Address) :
    next.gap t asset = pool.gap t asset := by
  obtain ⟨_, hn, rfl⟩ := list_eq_ok h
  have htotal : Pool.totalOf t asset { pool with
      configs := pool.configs.insert reserve.asset config
      reserves := pool.reserves.insert reserve.asset reserve } = pool.totalOf t asset := by
    unfold Pool.totalOf
    rw [Table.get?_insert]
    split
    · next he =>
      rw [Table.not_has_iff, ← he] at hn
      rw [hn, Option.map_some, Option.getD_some, ht]
      rfl
    · rfl
  unfold gap
  rw [htotal]
  rfl

/-! ## Wallets -/

theorem setWallet_writes {owner asset : Address} {amount : UInt256} {pool next : Pool} (hp : pool.WellFormed)
    (h : pool.setWallet owner asset amount = .ok next) :
    ∃ p, pool.positionOf owner asset = .ok p ∧ Writes pool next [] [(p, { p with wallet := amount })] := by
  obtain ⟨p, hq, h⟩ := bind_eq_ok.1 h
  cases h
  refine ⟨p, hq, rfl, ?_, ?_, ?_, ?_⟩
  · exact List.forall_mem_nil _
  · exact List.forall_mem_singleton.2 ⟨hp.positioned hq, rfl⟩
  · exact List.nodup_nil
  · exact List.pairwise_singleton _ _

/-! ## Every event -/

theorem step_wellFormed {pool next : Pool} {event : Event} (hp : pool.WellFormed) (h : pool.step event = .ok next) :
    next.WellFormed := by
  cases event with
  | list config listing now => exact list_wellFormed hp h
  | setWallet owner asset amount =>
    obtain ⟨_, _, hw⟩ := setWallet_writes hp h
    exact hw.wellFormed hp
  | request request => exact (act_effect hp h).wellFormed hp

theorem Reaches.wellFormed {allowed : Event → Prop} {pool : Pool} (h : Reaches allowed pool) : pool.WellFormed := by
  induction h with
  | create hc => exact create_wellFormed hc
  | step _ _ hs ih => exact step_wellFormed ih hs

/-- setting a wallet makes underlying, but no event makes supply that nobody has -/
theorem step_supplyGap {pool next : Pool} {event : Event} (hp : pool.WellFormed) (h : pool.step event = .ok next)
    (asset : Address) : next.gap .supply asset = pool.gap .supply asset := by
  cases event with
  | list config listing now => exact list_gap h rfl asset
  | setWallet owner asset amount =>
    obtain ⟨_, _, hw⟩ := setWallet_writes hp h
    rw [hw.gap]
    simp [Tally.supply]
  | request request => exact (act_effect hp h).gap hp (.inl rfl) asset

theorem Reaches.supplyGap {allowed : Event → Prop} {pool : Pool} (h : Reaches allowed pool) (asset : Address) :
    pool.gap .supply asset = 0 := by
  induction h with
  | create hc =>
    obtain ⟨_, rfl⟩ := create_eq_ok hc
    rfl
  | step before _ hs ih => rw [step_supplyGap before.wellFormed hs, ih]

/-! ## Markets -/

/-- a market of the next pool has just been listed, or comes from a younger one -/
theorem step_reserve_from {pool next : Pool} {event : Event} (hp : pool.WellFormed) (h : pool.step event = .ok next)
    {asset : Address} {s : Reserve} (hs : next.reserves.get? asset = some s) :
    (∃ config listing now, event = .list config listing now ∧ s = .opened listing now) ∨
      ∃ r, pool.reserves.get? asset = some r ∧ r.Grows s := by
  cases event with
  | list config listing now =>
    obtain ⟨_, _, rfl⟩ := list_eq_ok h
    rw [Table.get?_insert] at hs
    split at hs
    · cases hs
      exact .inl ⟨config, listing, now, rfl, rfl⟩
    · exact .inr ⟨s, hs, Reserve.Grows.refl s⟩
  | setWallet owner asset amount =>
    obtain ⟨_, _, hw⟩ := setWallet_writes hp h
    rw [hw.get?_reserve_of_ne (List.forall_mem_nil _)] at hs
    exact .inr ⟨s, hs, Reserve.Grows.refl s⟩
  | request request => exact .inr ((act_effect hp h).reserve_from hs)

/-- every market has grown out of a listing that was allowed -/
theorem Reaches.origin {allowed : Event → Prop} {pool : Pool} (h : Reaches allowed pool) {asset : Address} {r : Reserve}
    (hr : pool.reserves.get? asset = some r) :
    ∃ config listing now, allowed (.list config listing now) ∧ (Reserve.opened listing now).Grows r := by
  induction h generalizing r with
  | create hc =>
    obtain ⟨_, rfl⟩ := create_eq_ok hc
    cases hr
  | step before may hs ih =>
    rcases step_reserve_from before.wellFormed hs hr with ⟨config, listing, now, rfl, rfl⟩ | ⟨r', hr', hg⟩
    · exact ⟨config, listing, now, may, Reserve.Grows.refl _⟩
    · obtain ⟨config, listing, now, hmay, horigin⟩ := ih hr'
      exact ⟨config, listing, now, hmay, horigin.trans hg⟩

theorem Reaches.sound {pool : Pool} (h : Reaches Event.WithinFactor pool) {asset : Address} {r : Reserve}
    (hr : pool.reserves.get? asset = some r) : r.Sound := by
  obtain ⟨_, _, now, hfactor, hg⟩ := h.origin hr
  exact (Reserve.sound_opened hfactor now).grows hg

end Pool

/-! ## A run to try results on -/

namespace Sample

/-- the market of the collateral in the sample run -/
def collateral : Address := Address.repeated 0x01

/-- the market of the debt in the sample run -/
def debt : Address := Address.repeated 0x02

def liquidator : Address := Address.repeated 0x0A

def borrower : Address := Address.repeated 0x0B

def supplier : Address := Address.repeated 0x0C

/-- the listing of a token with 18 decimals at a reserve factor of 10% -/
def listing (asset : Address) : Listing := { asset, symbol := "TST", decimals := 18, reserveFactor := 1000 }

/-- an offer to repay 20 tokens, both tokens at the same price -/
def terms (receiveSupply : Bool) : Liquidation.Terms :=
  { debtPrice := 1, collateralPrice := 1, debtToCover := tokens 20, receiveSupply }

/-- a liquidation in the sample run -/
def liquidation (receiveSupply : Bool) : Action :=
  .liquidation liquidator borrower debt collateral (terms receiveSupply)

/-- a borrower supplies 100 tokens of one asset and borrows 50 of another -/
def borrowed : List Event :=
  [.list reserveConfig (listing collateral) 0, .list reserveConfig (listing debt) 0,
   .setWallet supplier debt (tokens 1000), .setWallet borrower collateral (tokens 100),
   .setWallet liquidator debt (tokens 100),
   .request ⟨0, .account supplier debt (.supply (tokens 1000))⟩,
   .request ⟨0, .account borrower collateral (.supply (tokens 100))⟩,
   .request ⟨0, .account borrower debt (.borrow (tokens 50) .variableRate)⟩]

/-- the same, a transfer of the borrower to itself, and a liquidation of either kind -/
def liquidations : List Event :=
  borrowed ++ [.request ⟨1000, .transfer borrower borrower collateral (tokens 10)⟩,
    .request ⟨2000, liquidation true⟩, .request ⟨3000, liquidation false⟩]

end Sample

end Lending
