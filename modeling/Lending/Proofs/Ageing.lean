/-
Markets only grow older.

An index is raised by interest, which is never negative, and by fees, which are handed to those who are there; nothing
else moves it. The treasury's supply and the time of the last update never fall either, whatever the timestamps of the
requests, because a market that would have to go back in time refuses.

Results:
- `step_ages`, `run_ages`: no event, and so no run, turns a market back;
- `Reaches.inRange`: indices are at least one and usages at most one, the supply usage being the smaller;
- `apply_ages`: both for a request that goes through.
-/
import Lending.Proofs.Coherence

namespace Lending

open UInt256

/-- indices are at least one, and of the usages, which are at most one, that of supply is the smaller -/
structure Reserve.InRange (r : Reserve) : Prop where
  liquidityIndex : ray ≤ r.liquidityIndex.toNat
  debtIndex : ray ≤ r.debtIndex.toNat
  supplyUsage : r.rates.usage.supply.toNat ≤ r.rates.usage.borrow.toNat
  borrowUsage : r.rates.usage.borrow.toNat ≤ ray

theorem Reserve.InRange.liquidityIndex_ne_zero {r : Reserve} (h : r.InRange) : r.liquidityIndex.toNat ≠ 0 := by
  have := h.liquidityIndex
  have := ray_pos
  omega

namespace Pool

variable {pool next : Pool}

/-! ## What never falls -/

/-- every market of `pool` is still there in `next`, at the same age or older -/
def Ages (pool next : Pool) : Prop :=
  ∀ asset r, pool.reserves.get? asset = some r → ∃ s, next.reserves.get? asset = some s ∧ r.Grows s

theorem Ages.refl (pool : Pool) : pool.Ages pool := fun _ r hr => ⟨r, hr, Reserve.Grows.refl r⟩

theorem Ages.trans {last : Pool} (h1 : pool.Ages next) (h2 : next.Ages last) : pool.Ages last := by
  intro asset r hr
  obtain ⟨s, hs, hg⟩ := h1 asset r hr
  obtain ⟨t, ht, hg'⟩ := h2 asset s hs
  exact ⟨t, ht, hg.trans hg'⟩

/-- markets that are written older than they were, beside those that are not written -/
theorem Effect.ages {now : Nat} {action : Action} (h : Effect now pool next action) : pool.Ages next := by
  intro asset r hr
  obtain ⟨_, _, hw⟩ := h.writes
  obtain ⟨s, hs⟩ := Option.isSome_iff_exists.1 ((hw.has_iff asset).2 (has_of_get? hr))
  obtain ⟨r', hr', hg⟩ := h.reserve_from hs
  obtain rfl := Option.some.inj (hr'.symm.trans hr)
  exact ⟨s, hs, hg⟩

theorem step_ages {event : Event} (hp : pool.WellFormed) (h : pool.step event = .ok next) : pool.Ages next := by
  cases event with
  | list config listing now =>
    intro asset r hr
    obtain ⟨_, hnew, rfl⟩ := list_eq_ok h
    have hne : asset ≠ (Reserve.opened listing now).asset := by
      rintro rfl
      exact hnew (has_of_get? hr)
    exact ⟨r, (Table.get?_insert_ne _ _ hne).trans hr, Reserve.Grows.refl r⟩
  | setWallet owner asset amount =>
    intro asset r hr
    obtain ⟨_, _, hw⟩ := setWallet_writes hp h
    exact ⟨r, (hw.get?_reserve_of_ne (List.forall_mem_nil _)).trans hr, Reserve.Grows.refl r⟩
  | request request => exact (act_effect hp h).ages

/-- **No run turns a market back.** -/
theorem run_ages {events : List Event} (hp : pool.WellFormed) (h : pool.run events = .ok next) : pool.Ages next := by
  induction events generalizing pool with
  | nil =>
    cases h
    exact Ages.refl _
  | cons e rest ih =>
    obtain ⟨mid, hm, h⟩ := bind_eq_ok.1 (List.foldlM_cons.symm.trans h)
    exact (step_ages hp hm).trans (ih (step_wellFormed hp hm) h)

/-! ## What stays in range -/

theorem Settled.usage {allowed : Event → Prop} {settings : ReserveConfig} {r : Reserve}
    (h : Settled allowed settings r) :
    r.rates.usage.supply.toNat ≤ r.rates.usage.borrow.toNat ∧ r.rates.usage.borrow.toNat ≤ ray := by
  rcases h with ⟨_, _, _, rfl⟩ | h
  · exact ⟨le_rfl, Nat.zero_le _⟩
  · obtain ⟨_, _, _, _, _, husage, _⟩ := RateCurve.rates_spec h.rates
    exact Usage.of_bounds husage

theorem Reaches.inRange {allowed : Event → Prop} (h : Reaches allowed pool) {asset : Address} {r : Reserve}
    (hr : pool.reserves.get? asset = some r) : r.InRange := by
  obtain ⟨settings, hc⟩ := h.wellFormed.settingsOf hr
  obtain ⟨hsupply, hborrow⟩ := (h.settled hc hr).usage
  obtain ⟨_, _, _, _, hg⟩ := h.origin hr
  exact ⟨hg.liquidityIndex, hg.debtIndex, hsupply, hborrow⟩

/-! ## Requests -/

/-- **A request that goes through, at whatever time, leaves every market in range and no market younger.** -/
theorem apply_ages (h : Reachable pool) {request : Request} (hn : pool.apply request = .ok next) {asset : Address}
    {r : Reserve} (hr : pool.reserves.get? asset = some r) :
    r.InRange ∧ ∃ s, next.reserves.get? asset = some s ∧ s.InRange ∧
      r.liquidityIndex.toNat ≤ s.liquidityIndex.toNat ∧ r.debtIndex.toNat ≤ s.debtIndex.toNat ∧
      r.treasuryScaled.toNat ≤ s.treasuryScaled.toNat ∧ r.lastUpdate ≤ s.lastUpdate := by
  have hstep : pool.step (.request request) = .ok next := hn
  have hnext : Reachable next := h.step trivial hstep
  obtain ⟨s, hs, hg⟩ := (act_effect h.wellFormed hn).ages asset r hr
  exact ⟨h.inRange hr, s, hs, hnext.inRange hs, hg.liquidityIndex, hg.debtIndex, hg.treasury, hg.lastUpdate⟩

/-- a liquidation ages both markets, and that of the debt by an hour of interest -/
theorem apply_ages_liquidation :
    ∃ pool next, runFrom Sample.poolConfig Sample.borrowed = .ok pool ∧
      pool.apply ⟨3600, Sample.liquidation false⟩ = .ok next ∧
      ∃ r s, pool.reserves.get? Sample.debt = some r ∧ next.reserves.get? Sample.debt = some s ∧ s.InRange ∧
        r.liquidityIndex.toNat ≤ s.liquidityIndex.toNat ∧ ray < s.debtIndex.toNat ∧ r.lastUpdate < s.lastUpdate := by
  obtain ⟨pool, hrun, ⟨next, hn, s, hs, hindex, htime⟩, ⟨r, hr, hbefore⟩⟩ :
      ∃ pool, runFrom Sample.poolConfig Sample.borrowed = .ok pool ∧
        (∃ next, pool.apply ⟨3600, Sample.liquidation false⟩ = .ok next ∧
          ∃ s ∈ next.reserves.get? Sample.debt, ray < s.debtIndex.toNat ∧ s.lastUpdate = 3600) ∧
        ∃ r ∈ pool.reserves.get? Sample.debt, r.lastUpdate = 0 := by
    decide +kernel
  have hreach : Reachable pool := Reaches.of_runFrom (fun _ _ => trivial) hrun
  obtain ⟨_, s', hs', hrange, hliquidity, _⟩ := apply_ages hreach hn hr
  obtain rfl : s' = s := Option.some.inj (hs'.symm.trans hs)
  exact ⟨pool, next, hrun, hn, r, s', hr, hs', hrange, hliquidity, hindex, by omega⟩

end Pool

end Lending
