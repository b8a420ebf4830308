/-
What an action that goes through has read, done and written.

`Effect now pool next action` has one constructor for each way in which an action changes a pool, with everything that
is known of it: what was looked up, what was computed from it, and the places that were written. `act_effect` says that
these are all the ways there are, so what an action keeps is proved by cases on its effect and the definition of `act`
is not opened again.

Results:
- `act_effect`: in a well-formed pool every action that goes through has an effect;
- `Effect.wellFormed`, `Effect.gap`: no action spoils the bookkeeping or changes a gap of supply or of underlying;
- `Effect.reserve_from`: every market only grows older.
-/
import Lending.Action
import Lending.Proofs.Liquidation
import Lending.Proofs.Writes

namespace Lending.Pool

/-! ## Look-ups -/

theorem accountOf_eq_ok {pool : Pool} {owner asset : Address} {a : Account}
    (h : pool.accountOf owner asset = .ok a) :
    pool.reserves.get? asset = some a.reserve ∧ pool.positionOf owner asset = .ok a.position := by
  simp only [accountOf, bind_eq_ok, reserveOf_eq_ok] at h
  obtain ⟨r, hr, p, hp, h⟩ := h
  cases h
  exact ⟨hr, hp⟩

/-- the look-ups that make up a book -/
structure Books (pool : Pool) (liquidator borrower debtAsset collateralAsset : Address) (book : Liquidation.Book) :
    Prop where
  debtReserve : pool.reserves.get? debtAsset = some book.debtReserve
  collateralReserve : pool.reserves.get? collateralAsset = some book.collateralReserve
  borrowerDebt : pool.positionOf borrower debtAsset = .ok book.parties.borrowerDebt
  borrowerCollateral : pool.positionOf borrower collateralAsset = .ok book.parties.borrowerCollateral
  liquidatorDebt : pool.positionOf liquidator debtAsset = .ok book.parties.liquidatorDebt
  liquidatorCollateral : pool.positionOf liquidator collateralAsset = .ok book.parties.liquidatorCollateral
  treasury : pool.positionOf pool.config.treasury collateralAsset = .ok book.parties.treasury

theorem bookOf_eq_ok {pool : Pool} {liquidator borrower debtAsset collateralAsset : Address} {book : Liquidation.Book}
    (h : pool.bookOf liquidator borrower debtAsset collateralAsset = .ok book) :
    pool.Books liquidator borrower debtAsset collateralAsset book := by
  simp only [bookOf, bind_eq_ok, reserveOf_eq_ok] at h
  obtain ⟨_, hbd, _, hbc, _, hld, _, hlc, _, ht, _, hdr, _, hcr, h⟩ := h
  cases h
  exact ⟨hdr, hcr, hbd, hbc, hld, hlc, ht⟩

/-! ## Effects -/

/-- what a liquidation writes: two markets and five positions -/
def bookReserves (a b : Liquidation.Book) : List (Reserve × Reserve) :=
  [(a.debtReserve, b.debtReserve), (a.collateralReserve, b.collateralReserve)]

@[inherit_doc bookReserves]
def bookPositions (a b : Liquidation.Book) : List (Position × Position) :=
  [(a.parties.borrowerDebt, b.parties.borrowerDebt), (a.parties.borrowerCollateral, b.parties.borrowerCollateral),
   (a.parties.liquidatorDebt, b.parties.liquidatorDebt),
   (a.parties.liquidatorCollateral, b.parties.liquidatorCollateral), (a.parties.treasury, b.parties.treasury)]

/-- how an action that goes through at `now` changes the pool into `next` -/
inductive Effect (now : Nat) (pool next : Pool) : Action → Prop where
  | account {owner asset : Address} {action : AccountAction} {config : ReserveConfig} {a b : Account}
      (settings : pool.configs.get? asset = some config) (read : pool.accountOf owner asset = .ok a)
      (result : a.perform pool.config config now action = .ok b)
      (writes : Writes pool next [(a.reserve, b.reserve)] [(a.position, b.position)]) :
      Effect now pool next (.account owner asset action)
  | setCollateral {owner asset : Address} {enabled : Bool} {a : Account} {p : Position}
      (read : pool.accountOf owner asset = .ok a) (result : a.setCollateral enabled now = .ok p)
      (writes : Writes pool next [] [(a.position, p)]) :
      Effect now pool next (.setCollateral owner asset enabled)
  | selfTransfer {user asset : Address} {amount : UInt256} {r accrued : Reserve} {p q : Position}
      (market : pool.reserves.get? asset = some r) (read : pool.positionOf user asset = .ok p)
      (result : r.accrue now = .ok accrued) (settled : p.accrue accrued now = .ok q)
      (writes : Writes pool next [] [(p, q)]) :
      Effect now pool next (.transfer user user asset amount)
  | transfer {sender recipient asset : Address} {amount : UInt256} {r : Reserve} {a b : Transfer}
      (market : pool.reserves.get? asset = some r) (readSender : pool.positionOf sender asset = .ok a.sender)
      (readRecipient : pool.positionOf recipient asset = .ok a.recipient) (result : a.perform r amount now = .ok b)
      (others : a.sender.owner ≠ a.recipient.owner)
      (writes : Writes pool next [] [(a.sender, b.sender), (a.recipient, b.recipient)]) :
      Effect now pool next (.transfer sender recipient asset amount)
  | liquidation {liquidator borrower debtAsset collateralAsset : Address} {terms : Liquidation.Terms}
      {debtConfig collateralConfig : ReserveConfig} {book : Liquidation.Book} {outcome : Liquidation.Outcome}
      (read : pool.bookOf liquidator borrower debtAsset collateralAsset = .ok book)
      (debtSettings : pool.configs.get? debtAsset = some debtConfig)
      (collateralSettings : pool.configs.get? collateralAsset = some collateralConfig)
      (result : book.liquidate debtConfig collateralConfig terms now = .ok outcome)
      (writes : Writes pool next (bookReserves book outcome.book) (bookPositions book outcome.book)) :
      Effect now pool next (.liquidation liquidator borrower debtAsset collateralAsset terms)

/-! ## Where the written values belong -/

section Places

variable {pool : Pool}

/-- a market that is looked up is the one that is stored under its own asset -/
theorem WellFormed.stored (h : pool.WellFormed) {asset : Address} {r : Reserve}
    (hr : pool.reserves.get? asset = some r) : pool.reserves.get? r.asset = some r := by
  rw [h.asset hr]
  exact hr

/-- a position that is looked up is the one under its own key -/
theorem WellFormed.positioned (h : pool.WellFormed) {owner asset : Address} {p : Position}
    (hp : pool.positionOf owner asset = .ok p) : pool.positionOf p.owner p.asset = .ok p := by
  have hkey := h.key_of_positionOf hp
  have howner : p.owner = owner := congrArg PositionKey.owner hkey
  have hasset : p.asset = asset := congrArg PositionKey.asset hkey
  rw [howner, hasset]
  exact hp

/-- writing a position twice is writing it once -/
theorem putPosition_twice (p : Position) : (pool.putPosition p).putPosition p = pool.putPosition p := by
  have hinsert : (pool.positions.insert p.key p).insert p.key p = pool.positions.insert p.key p := by
    refine Table.ext_get? fun k => ?_
    simp only [Table.get?_insert]
    split <;> rfl
  unfold putPosition
  rw [hinsert]

/-- the five positions of a consistent book are in five places -/
theorem Books.keys_nodup {liquidator borrower debtAsset collateralAsset : Address} {book : Liquidation.Book}
    (h : pool.Books liquidator borrower debtAsset collateralAsset book) (hp : pool.WellFormed)
    (hc : book.Consistent) (next : Liquidation.Book) :
    ((bookPositions book next).map fun w => w.1.key).Nodup := by
  have hbd := hp.key_of_positionOf h.borrowerDebt
  have hbc := hp.key_of_positionOf h.borrowerCollateral
  have hld := hp.key_of_positionOf h.liquidatorDebt
  have hlc := hp.key_of_positionOf h.liquidatorCollateral
  have ht := hp.key_of_positionOf h.treasury
  have hassets : debtAsset ≠ collateralAsset := by
    rw [← hp.asset h.debtReserve, ← hp.asset h.collateralReserve]
    exact hc.assets
  have hborrower : book.parties.borrowerDebt.owner = borrower := congrArg PositionKey.owner hbd
  have hliquidator : book.parties.liquidatorDebt.owner = liquidator := congrArg PositionKey.owner hld
  have htreasury : book.parties.treasury.owner = pool.config.treasury := congrArg PositionKey.owner ht
  have hothers : borrower ≠ liquidator := hborrower ▸ hliquidator ▸ hc.others
  have hfee : pool.config.treasury ≠ borrower := htreasury ▸ hborrower ▸ hc.treasuryBorrower
  have hfee' : pool.config.treasury ≠ liquidator := htreasury ▸ hliquidator ▸ hc.treasuryLiquidator
  simp only [bookPositions, List.map_cons, List.map_nil, hbd, hbc, hld, hlc, ht]
  simp [hassets, hassets.symm, hothers, hfee.symm, hfee'.symm]

end Places

/-! ## Every action has an effect -/

variable {pool next : Pool} {now : Nat}

theorem act_account (hp : pool.WellFormed) {owner asset : Address} {action : AccountAction}
    (h : pool.act now (.account owner asset action) = .ok next) :
    Effect now pool next (.account owner asset action) := by
  simp only [act, bind_eq_ok, configOf_eq_ok] at h
  obtain ⟨config, hc, a, ha, b, hb, h⟩ := h
  cases h
  obtain ⟨hr, hq⟩ := accountOf_eq_ok ha
  have hm := Account.perform_moves hb
  refine .account hc ha hb ⟨rfl, ?_, ?_, ?_, ?_⟩
  · exact List.forall_mem_singleton.2 ⟨hp.stored hr, hm.grows.listing⟩
  · exact List.forall_mem_singleton.2 ⟨hp.positioned hq, hm.key⟩
  · exact List.pairwise_singleton _ _
  · exact List.pairwise_singleton _ _

theorem act_setCollateral (hp : pool.WellFormed) {owner asset : Address} {enabled : Bool}
    (h : pool.act now (.setCollateral owner asset enabled) = .ok next) :
    Effect now pool next (.setCollateral owner asset enabled) := by
  simp only [act, bind_eq_ok] at h
  obtain ⟨a, ha, p, hpos, h⟩ := h
  cases h
  obtain ⟨_, hq⟩ := accountOf_eq_ok ha
  refine .setCollateral ha hpos ⟨rfl, ?_, ?_, ?_, ?_⟩
  · exact List.forall_mem_nil _
  · exact List.forall_mem_singleton.2 ⟨hp.positioned hq, (Account.setCollateral_moves hpos).key⟩
  · exact List.nodup_nil
  · exact List.pairwise_singleton _ _

theorem act_transfer (hp : pool.WellFormed) {sender recipient asset : Address} {amount : UInt256}
    (h : pool.act now (.transfer sender recipient asset amount) = .ok next) :
    Effect now pool next (.transfer sender recipient asset amount) := by
  simp only [act, bind_eq_ok, reserveOf_eq_ok] at h
  obtain ⟨r, hr, s, hs, p, hpos, b, hb, h⟩ := h
  cases h
  have hsk := hp.key_of_positionOf hs
  have hpk := hp.key_of_positionOf hpos
  have hsender : s.owner = sender := congrArg PositionKey.owner hsk
  have hrecipient : p.owner = recipient := congrArg PositionKey.owner hpk
  by_cases hself : s.owner = p.owner
  · obtain rfl : sender = recipient := by rw [← hsender, ← hrecipient, hself]
    obtain ⟨hsame, accrued, ha, hq⟩ := Transfer.perform_self hb hself
    have hkey : b.sender.key = s.key := by
      obtain ⟨_, _, _, _, hq, _⟩ := Position.accrue_eq_ok hq
      rw [hq]
      rfl
    refine .selfTransfer hr hs ha hq ⟨?_, ?_, ?_, ?_, ?_⟩
    · rw [hsame, putPosition_twice]
      rfl
    · exact List.forall_mem_nil _
    · exact List.forall_mem_singleton.2 ⟨hp.positioned hs, hkey⟩
    · exact List.nodup_nil
    · exact List.pairwise_singleton _ _
  · have hm := Transfer.perform_moves hb hself
    refine .transfer hr hs hpos hb hself ⟨rfl, ?_, ?_, ?_, ?_⟩
    · exact List.forall_mem_nil _
    · refine List.forall_mem_cons.2 ⟨⟨hp.positioned hs, hm.sender⟩, ?_⟩
      exact List.forall_mem_singleton.2 ⟨hp.positioned hpos, hm.recipient⟩
    · exact List.nodup_nil
    · have hne : s.key ≠ p.key := fun he => hself (congrArg PositionKey.owner he)
      simpa using hne

theorem act_liquidation (hp : pool.WellFormed) {liquidator borrower debtAsset collateralAsset : Address}
    {terms : Liquidation.Terms}
    (h : pool.act now (.liquidation liquidator borrower debtAsset collateralAsset terms) = .ok next) :
    Effect now pool next (.liquidation liquidator borrower debtAsset collateralAsset terms) := by
  simp only [act, bind_eq_ok, configOf_eq_ok] at h
  obtain ⟨book, hbook, dc, hdc, cc, hcc, outcome, ho, h⟩ := h
  cases h
  have hb := bookOf_eq_ok hbook
  have hm := Liquidation.Book.liquidate_moves ho
  have hc := (Liquidation.Book.liquidate_eq_ok ho).1
  refine .liquidation hbook hdc hcc ho ⟨rfl, ?_, ?_, ?_, hb.keys_nodup hp hc _⟩
  · refine List.forall_mem_cons.2 ⟨⟨hp.stored hb.debtReserve, hm.debtGrows.listing⟩, ?_⟩
    exact List.forall_mem_singleton.2 ⟨hp.stored hb.collateralReserve, hm.collateralGrows.listing⟩
  · refine List.forall_mem_cons.2 ⟨⟨hp.positioned hb.borrowerDebt, hm.places.borrowerDebt⟩, ?_⟩
    refine List.forall_mem_cons.2 ⟨⟨hp.positioned hb.borrowerCollateral, hm.places.borrowerCollateral⟩, ?_⟩
    refine List.forall_mem_cons.2 ⟨⟨hp.positioned hb.liquidatorDebt, hm.places.liquidatorDebt⟩, ?_⟩
    refine List.forall_mem_cons.2 ⟨⟨hp.positioned hb.liquidatorCollateral, hm.places.liquidatorCollateral⟩, ?_⟩
    exact List.forall_mem_singleton.2 ⟨hp.positioned hb.treasury, hm.places.treasury⟩
  · simpa [bookReserves] using hc.assets

/-- **In a well-formed pool, these are all the ways in which an action goes through.** -/
theorem act_effect (hp : pool.WellFormed) {action : Action} (h : pool.act now action = .ok next) :
    Effect now pool next action := by
  cases action with
  | account owner asset action => exact act_account hp h
  | setCollateral owner asset enabled => exact act_setCollateral hp h
  | transfer sender recipient asset amount => exact act_transfer hp h
  | liquidation liquidator borrower debtAsset collateralAsset terms => exact act_liquidation hp h

/-! ## Gaps -/

section Gaps

variable {t : Tally}

/-- a market and one of its positions are written: the gap changes by what it changes by on the account -/
theorem Writes.gap_account {asset : Address} {a b : Account}
    (hw : Writes pool next [(a.reserve, b.reserve)] [(a.position, b.position)]) (hr : a.reserve.asset = asset)
    (hp : a.position.asset = asset) (x : Address) :
    next.gap t x = pool.gap t x + if asset = x then t.gap b - t.gap a else 0 := by
  simp only [hw.gap, List.map_cons, List.map_nil, List.sum_cons, List.sum_nil, hr, hp, Tally.gap]
  split <;> omega

/-- positions alone are written, and none of them changes its part -/
theorem Writes.gap_positions {ps : List (Position × Position)} (hw : Writes pool next [] ps)
    (hsame : ∀ w ∈ ps, t.part w.2 = t.part w.1) (x : Address) : next.gap t x = pool.gap t x := by
  have hzero : (ps.map fun w => if w.1.asset = x then t.part w.2 - t.part w.1 else 0) = ps.map fun _ => (0 : ℤ) := by
    refine List.map_congr_left fun w hm => ?_
    rw [hsame w hm]
    split <;> omega
  rw [hw.gap, hzero]
  simp

/-- a book is written: the gaps of its two markets change by what they change by in the book -/
theorem Writes.gap_book {liquidator borrower debtAsset collateralAsset : Address} {a b : Liquidation.Book}
    (hw : Writes pool next (bookReserves a b) (bookPositions a b)) (hp : pool.WellFormed)
    (hb : pool.Books liquidator borrower debtAsset collateralAsset a) (x : Address) :
    next.gap t x = pool.gap t x + (if debtAsset = x then b.debtGap t - a.debtGap t else 0) +
      (if collateralAsset = x then b.collateralGap t - a.collateralGap t else 0) := by
  simp only [hw.gap, bookReserves, bookPositions, List.map_cons, List.map_nil, List.sum_cons, List.sum_nil,
    hp.asset hb.debtReserve, hp.asset hb.collateralReserve, hp.asset_of_positionOf hb.borrowerDebt,
    hp.asset_of_positionOf hb.borrowerCollateral, hp.asset_of_positionOf hb.liquidatorDebt,
    hp.asset_of_positionOf hb.liquidatorCollateral, hp.asset_of_positionOf hb.treasury,
    Liquidation.Book.debtGap, Liquidation.Book.collateralGap]
  split <;> split <;> omega

end Gaps

/-! ## What every effect keeps -/

namespace Effect

variable {action : Action}

/-- the places that an effect writes -/
theorem writes (h : Effect now pool next action) : ∃ rs ps, Writes pool next rs ps := by
  cases h with
  | account _ _ _ hw => exact ⟨_, _, hw⟩
  | setCollateral _ _ hw => exact ⟨_, _, hw⟩
  | selfTransfer _ _ _ _ hw => exact ⟨_, _, hw⟩
  | transfer _ _ _ _ _ hw => exact ⟨_, _, hw⟩
  | liquidation _ _ _ _ hw => exact ⟨_, _, hw⟩

theorem wellFormed (h : Effect now pool next action) (hp : pool.WellFormed) : next.WellFormed := by
  obtain ⟨_, _, hw⟩ := h.writes
  exact hw.wellFormed hp

/-- every market comes from a younger one -/
theorem reserve_from (h : Effect now pool next action) {asset : Address} {s : Reserve}
    (hs : next.reserves.get? asset = some s) : ∃ r, pool.reserves.get? asset = some r ∧ r.Grows s := by
  have hkept {rs : List (Reserve × Reserve)} {ps : List (Position × Position)} (hw : Writes pool next rs ps)
      (hg : ∀ w ∈ rs, w.1.Grows w.2) : ∃ r, pool.reserves.get? asset = some r ∧ r.Grows s := by
    rcases hw.reserve_cases hs with ⟨w, hm, rfl, rfl⟩ | ⟨_, hold⟩
    · exact ⟨w.1, (hw.reserve w hm).1, hg w hm⟩
    · exact ⟨s, hold, Reserve.Grows.refl s⟩
  cases h with
  | account _ _ hb hw => exact hkept hw (List.forall_mem_singleton.2 (Account.perform_moves hb).grows)
  | setCollateral _ _ hw => exact hkept hw (List.forall_mem_nil _)
  | selfTransfer _ _ _ _ hw => exact hkept hw (List.forall_mem_nil _)
  | transfer _ _ _ _ _ hw => exact hkept hw (List.forall_mem_nil _)
  | liquidation _ _ _ ho hw =>
    have hm := Liquidation.Book.liquidate_moves ho
    exact hkept hw (List.forall_mem_cons.2 ⟨hm.debtGrows, List.forall_mem_singleton.2 hm.collateralGrows⟩)

/-- **No action changes the gap of supply or of underlying in any market.** -/
theorem gap (h : Effect now pool next action) (hp : pool.WellFormed) {t : Tally} (ht : t.Conserved)
    (asset : Address) : next.gap t asset = pool.gap t asset := by
  cases h with
  | account _ ha hb hw =>
    obtain ⟨hr, hq⟩ := accountOf_eq_ok ha
    have hm := (Account.perform_moves hb).gap ht
    rw [hw.gap_account (hp.asset hr) (hp.asset_of_positionOf hq), hm]
    split <;> omega
  | setCollateral _ hq hw =>
    have hm := (Account.setCollateral_moves hq).gap ht
    simp only [Tally.gap] at hm
    exact hw.gap_positions (List.forall_mem_singleton.2 (by dsimp only; omega)) asset
  | selfTransfer _ _ _ hq hw =>
    exact hw.gap_positions (List.forall_mem_singleton.2 (Position.accrue_part ht hq)) asset
  | transfer _ hs hr hb hne hw =>
    have hm := (Transfer.perform_moves hb hne).parts_eq ht
    simp only [Transfer.parts] at hm
    simp only [hw.gap, List.map_cons, List.map_nil, List.sum_cons, List.sum_nil, hp.asset_of_positionOf hs,
      hp.asset_of_positionOf hr]
    split <;> omega
  | liquidation hread _ _ ho hw =>
    have hm := Liquidation.Book.liquidate_moves ho
    rw [hw.gap_book hp (bookOf_eq_ok hread), hm.debtGap_eq ht, hm.collateralGap_eq ht]
    split <;> split <;> omega

end Effect

end Lending.Pool
