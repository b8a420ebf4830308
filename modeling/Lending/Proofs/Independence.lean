/-
Requests on different markets commute.

What an action does depends only on the pool's settings and on the markets that it names, with the positions in them, and
it writes nowhere else. So neither of two requests that name different markets notices whether the other came first,
even when the same users or the treasury take part in both.

Results:
- `AgreesOn.act`: an action goes through on every pool that agrees with one where it does on the markets it names, and
  the two pools afterwards agree on these markets again;
- `Frame.agreesOn`: on all other markets the pool agrees with what it was before;
- `submit_comm`: so two requests that name different markets lead to the same pool in both orders.
-/
import Lending.Proofs.Frames

namespace Lending.Pool

/-! ## Pools that agree on some markets -/

/-- two pools have the same settings, and the same markets and positions as far as `assets` are concerned -/
structure AgreesOn (assets : List Address) (pool other : Pool) : Prop where
  config : other.config = pool.config
  configs : ∀ asset ∈ assets, other.configs.get? asset = pool.configs.get? asset
  reserves : ∀ asset ∈ assets, other.reserves.get? asset = pool.reserves.get? asset
  positions : ∀ key : PositionKey, key.asset ∈ assets → other.positions.get? key = pool.positions.get? key

namespace AgreesOn

variable {assets : List Address} {pool other : Pool}

theorem symm (h : pool.AgreesOn assets other) : other.AgreesOn assets pool :=
  ⟨h.config.symm, fun asset hm => (h.configs asset hm).symm, fun asset hm => (h.reserves asset hm).symm,
    fun key hm => (h.positions key hm).symm⟩

theorem trans {last : Pool} (h1 : pool.AgreesOn assets other) (h2 : other.AgreesOn assets last) :
    pool.AgreesOn assets last :=
  ⟨h2.config.trans h1.config, fun asset hm => (h2.configs asset hm).trans (h1.configs asset hm),
    fun asset hm => (h2.reserves asset hm).trans (h1.reserves asset hm),
    fun key hm => (h2.positions key hm).trans (h1.positions key hm)⟩

theorem single (h : pool.AgreesOn assets other) {asset : Address} (hm : asset ∈ assets) :
    pool.AgreesOn [asset] other := by
  have hsub : ∀ a ∈ [asset], a ∈ assets := List.forall_mem_singleton.2 hm
  exact ⟨h.config, fun a ha => h.configs a (hsub a ha), fun a ha => h.reserves a (hsub a ha),
    fun key hk => h.positions key (hsub _ hk)⟩

/-- pools that agree on every market are the same -/
theorem eq (h : ∀ asset, pool.AgreesOn [asset] other) : other = pool := by
  obtain ⟨config, configs, reserves, positions⟩ := pool
  obtain ⟨config', configs', reserves', positions'⟩ := other
  obtain rfl : config' = config := (h (Address.repeated 0)).config
  obtain rfl : configs' = configs := Table.ext_get? fun asset => (h asset).configs asset List.mem_cons_self
  obtain rfl : reserves' = reserves := Table.ext_get? fun asset => (h asset).reserves asset List.mem_cons_self
  obtain rfl : positions' = positions :=
    Table.ext_get? fun key => (h key.asset).positions key List.mem_cons_self
  rfl

/-! ### Look-ups -/

section Lookups

variable (h : pool.AgreesOn assets other) {asset : Address} (hm : asset ∈ assets)

include h hm

theorem configOf : other.configOf asset = pool.configOf asset := by
  unfold Pool.configOf
  rw [h.configs asset hm]

theorem reserveOf : other.reserveOf asset = pool.reserveOf asset := by
  unfold Pool.reserveOf
  rw [h.reserves asset hm]

theorem has_iff : other.reserves.Has asset ↔ pool.reserves.Has asset := by
  unfold Table.Has
  rw [h.reserves asset hm]

theorem positionOf (owner : Address) : other.positionOf owner asset = pool.positionOf owner asset := by
  unfold Pool.positionOf
  rw [require_congr (h.has_iff hm), h.positions ⟨owner, asset⟩ hm]

theorem accountOf (owner : Address) : other.accountOf owner asset = pool.accountOf owner asset := by
  unfold Pool.accountOf
  rw [h.reserveOf hm, h.positionOf hm]

end Lookups

theorem bookOf (h : pool.AgreesOn assets other) (liquidator borrower : Address) {debtAsset collateralAsset : Address}
    (hd : debtAsset ∈ assets) (hc : collateralAsset ∈ assets) :
    other.bookOf liquidator borrower debtAsset collateralAsset =
      pool.bookOf liquidator borrower debtAsset collateralAsset := by
  unfold Pool.bookOf
  simp only [h.config, h.reserveOf hd, h.reserveOf hc, h.positionOf hd, h.positionOf hc]

/-! ### Writing -/

theorem putReserve (h : pool.AgreesOn assets other) (r : Reserve) :
    (pool.putReserve r).AgreesOn assets (other.putReserve r) := by
  refine ⟨h.config, h.configs, fun asset hm => ?_, h.positions⟩
  simp only [Pool.putReserve, Table.get?_insert, h.reserves asset hm]

theorem putPosition (h : pool.AgreesOn assets other) (p : Position) :
    (pool.putPosition p).AgreesOn assets (other.putPosition p) := by
  refine ⟨h.config, h.configs, h.reserves, fun key hm => ?_⟩
  simp only [Pool.putPosition, Table.get?_insert, h.positions key hm]

theorem putAccount (h : pool.AgreesOn assets other) (a : Account) :
    (pool.putAccount a).AgreesOn assets (other.putAccount a) :=
  (h.putReserve a.reserve).putPosition a.position

theorem putBook (h : pool.AgreesOn assets other) (book : Liquidation.Book) :
    (pool.putBook book).AgreesOn assets (other.putBook book) := by
  have hreserves := (h.putReserve book.debtReserve).putReserve book.collateralReserve
  have hborrower := (hreserves.putPosition book.parties.borrowerDebt).putPosition book.parties.borrowerCollateral
  have hliquidator := (hborrower.putPosition book.parties.liquidatorDebt).putPosition book.parties.liquidatorCollateral
  exact hliquidator.putPosition book.parties.treasury

/-! ### Actions -/

/-- **An action reads and writes nothing but the settings and the markets that it names.** -/
theorem act {now : Nat} {action : Action} {next : Pool} (h : pool.AgreesOn assets other)
    (hm : ∀ asset ∈ action.assets, asset ∈ assets) (hn : pool.act now action = .ok next) :
    ∃ last, other.act now action = .ok last ∧ next.AgreesOn assets last := by
  cases action with
  | account owner asset action =>
    have hasset := hm asset List.mem_cons_self
    simp only [Pool.act, bind_eq_ok] at hn ⊢
    obtain ⟨config, hc, a, ha, b, hb, hn⟩ := hn
    cases hn
    refine ⟨other.putAccount b, ⟨config, (h.configOf hasset).trans hc, a, (h.accountOf hasset owner).trans ha, b, ?_,
      rfl⟩, h.putAccount b⟩
    rw [h.config]
    exact hb
  | setCollateral owner asset enabled =>
    have hasset := hm asset List.mem_cons_self
    simp only [Pool.act, bind_eq_ok] at hn ⊢
    obtain ⟨a, ha, p, hp, hn⟩ := hn
    cases hn
    exact ⟨other.putPosition p, ⟨a, (h.accountOf hasset owner).trans ha, p, hp, rfl⟩, h.putPosition p⟩
  | transfer sender recipient asset amount =>
    have hasset := hm asset List.mem_cons_self
    simp only [Pool.act, bind_eq_ok] at hn ⊢
    obtain ⟨r, hr, s, hs, p, hp, t, ht, hn⟩ := hn
    cases hn
    exact ⟨(other.putPosition t.sender).putPosition t.recipient, ⟨r, (h.reserveOf hasset).trans hr, s,
      (h.positionOf hasset sender).trans hs, p, (h.positionOf hasset recipient).trans hp, t, ht, rfl⟩,
      (h.putPosition t.sender).putPosition t.recipient⟩
  | liquidation liquidator borrower debtAsset collateralAsset terms =>
    have hdebt := hm debtAsset List.mem_cons_self
    have hcollateral := hm collateralAsset (List.mem_cons_of_mem _ List.mem_cons_self)
    simp only [Pool.act, bind_eq_ok] at hn ⊢
    obtain ⟨book, hb, dc, hdc, cc, hcc, outcome, ho, hn⟩ := hn
    cases hn
    exact ⟨other.putBook outcome.book, ⟨book, (h.bookOf liquidator borrower hdebt hcollateral).trans hb, dc,
      (h.configOf hdebt).trans hdc, cc, (h.configOf hcollateral).trans hcc, outcome, ho, rfl⟩, h.putBook outcome.book⟩

end AgreesOn

/-- on the markets that an action does not name, the pool agrees with what it was before -/
theorem Frame.agreesOn {pool next : Pool} {treasury : Address} {action : Action} {assets : List Address}
    (h : Frame pool next (action.footprint treasury)) (hd : List.Disjoint assets action.assets) :
    pool.AgreesOn assets next := by
  obtain ⟨hmarkets, hpositions⟩ := action.footprint_named treasury
  refine ⟨h.config, fun asset _ => ?_, fun asset hm => ?_, fun key hm => ?_⟩
  · rw [h.configs]
  · exact h.reserves asset fun hf => hd hm (hmarkets asset hf)
  · exact h.positions key fun hf => hd hm (hpositions key hf)

/-! ## Two requests -/

theorem submit_pair {pool last : Pool} {first second : Request} :
    pool.submit [first, second] = .ok last ↔ ∃ mid, pool.apply first = .ok mid ∧ mid.apply second = .ok last := by
  unfold submit
  simp only [List.foldlM_cons, List.foldlM_nil, bind_pure, bind_eq_ok]

/-- a request leaves the pool as it was on all markets that it does not name -/
theorem apply_framed {pool next : Pool} (hp : pool.WellFormed) {request : Request}
    (hn : pool.apply request = .ok next) {assets : List Address} (hd : List.Disjoint assets request.action.assets) :
    pool.AgreesOn assets next :=
  ((act_effect hp hn).frame hp).agreesOn hd

/-- what two requests on different markets lead to is reached in the other order, too -/
theorem submit_swap {pool last : Pool} (hp : pool.WellFormed) {first second : Request}
    (hd : List.Disjoint first.action.assets second.action.assets) (h : pool.submit [first, second] = .ok last) :
    pool.submit [second, first] = .ok last := by
  obtain ⟨mid, hmid, hlast⟩ := submit_pair.1 h
  have hpMid := (act_effect hp hmid).wellFormed hp
  -- the second request does not notice that the first has not happened yet
  have hbefore : mid.AgreesOn second.action.assets pool := (apply_framed hp hmid fun _ h2 h1 => hd h1 h2).symm
  obtain ⟨mid', hmid', hsecond⟩ := hbefore.act (fun _ hm => hm) hlast
  have hpMid' := (act_effect hp hmid').wellFormed hp
  -- nor does the first that the second has
  obtain ⟨last', hlast', hfirst⟩ := (apply_framed hp hmid' hd).act (fun _ hm => hm) hmid
  have hsame : last' = last := by
    refine AgreesOn.eq fun asset => ?_
    by_cases h2 : asset ∈ second.action.assets
    · have h1 : List.Disjoint [asset] first.action.assets := List.singleton_disjoint.2 fun h1 => hd h1 h2
      exact (hsecond.single h2).trans (apply_framed hpMid' hlast' h1)
    · have hn2 := List.singleton_disjoint.2 h2
      have hback : last.AgreesOn [asset] mid := (apply_framed hpMid hlast hn2).symm
      by_cases h1 : asset ∈ first.action.assets
      · exact hback.trans (hfirst.single h1)
      · have hn1 := List.singleton_disjoint.2 h1
        have hstart : last.AgreesOn [asset] pool := hback.trans (apply_framed hp hmid hn1).symm
        exact (hstart.trans (apply_framed hp hmid' hn2)).trans (apply_framed hpMid' hlast' hn1)
  rw [← hsame]
  exact submit_pair.2 ⟨mid', hmid', hlast'⟩

/-- **Requests that name different markets commute.** -/
theorem submit_comm {pool : Pool} (h : Reachable pool) {first second : Request}
    (hd : List.Disjoint first.action.assets second.action.assets) (last : Pool) :
    pool.submit [first, second] = .ok last ↔ pool.submit [second, first] = .ok last :=
  ⟨submit_swap h.wellFormed hd, submit_swap h.wellFormed fun _ h2 h1 => hd h1 h2⟩

/-- a borrower who takes out collateral in one market and pays back in another, at another time, may do so in either
order -/
theorem submit_comm_borrower :
    ∃ pool last, runFrom Sample.poolConfig Sample.borrowed = .ok pool ∧
      (∃ r ∈ last.reserves.get? Sample.debt, r.lastUpdate = 200) ∧
      pool.submit [⟨500, .account Sample.borrower Sample.collateral (.withdraw (Sample.tokens 10))⟩,
        ⟨200, .account Sample.borrower Sample.debt (.repay (Sample.tokens 20) .variableRate)⟩] = .ok last ∧
      pool.submit [⟨200, .account Sample.borrower Sample.debt (.repay (Sample.tokens 20) .variableRate)⟩,
        ⟨500, .account Sample.borrower Sample.collateral (.withdraw (Sample.tokens 10))⟩] = .ok last := by
  obtain ⟨pool, hrun, last, hlast, hupdated⟩ :
      ∃ pool, runFrom Sample.poolConfig Sample.borrowed = .ok pool ∧
        ∃ last, pool.submit [⟨500, .account Sample.borrower Sample.collateral (.withdraw (Sample.tokens 10))⟩,
          ⟨200, .account Sample.borrower Sample.debt (.repay (Sample.tokens 20) .variableRate)⟩] = .ok last ∧
            ∃ r ∈ last.reserves.get? Sample.debt, r.lastUpdate = 200 := by
    decide +kernel
  have hreach : Reachable pool := Reaches.of_runFrom (fun _ _ => trivial) hrun
  refine ⟨pool, last, hrun, hupdated, hlast, (submit_comm hreach ?_ last).1 hlast⟩
  exact List.singleton_disjoint.2 (by decide)

end Lending.Pool
