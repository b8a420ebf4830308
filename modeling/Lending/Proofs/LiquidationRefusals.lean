/-
Why a liquidation can be refused.

The quote decides everything. What it covers is never more than what is offered, also when it is worked back from the
borrower's balance with two roundings down and one to the nearest; what it seizes is never more than the balance; and
the two parts of the seizure, scaled apart, come out of the borrower's scaled supply. So nothing is subtracted that is
not there, and only a price of zero for the collateral is divided by.

Results:
- `covered_le_offered`: the debt that a whole balance pays for is no more than the debt that asked for more;
- `quote_bounds`: the amounts of a quote fit the offer and the balance;
- `Book.scaledSeizure_le`: the scaled seizure fits the borrower's scaled supply;
- `Book.failsOnly_liquidate`: a liquidation fails for ordinary reasons, or because the collateral has no price.
-/
import Lending.Proofs.AccountRefusals
import Lending.Proofs.Liquidation

namespace Lending

open UInt256

variable {S : Fault → Prop}

/-! ## Quotients of products -/

theorem UInt256.toNat_one : (1 : UInt256).toNat = 1 := rfl

theorem UInt256.toNat_quotient {numerators denominators : List UInt256} {q : UInt256}
    (h : UInt256.quotient numerators denominators = .ok q) :
    ∃ n d : UInt256, product numerators = .ok n ∧ product denominators = .ok d ∧ d.toNat ≠ 0 ∧
      q.toNat = n.toNat / d.toNat := by
  simp only [UInt256.quotient, bind_eq_ok, require_eq_ok] at h
  obtain ⟨n, hn, d, hd, _, hne, h⟩ := h
  cases h
  exact ⟨n, d, hn, hd, mt eq_zero_iff.2 hne, rfl⟩

theorem UInt256.toNat_product_two {a b c : UInt256} (h : product [a, b] = .ok c) : c.toNat = a.toNat * b.toNat := by
  simp only [product, List.foldlM_cons, List.foldlM_nil, bind_pure, bind_eq_ok, mul_eq_ok, toNat_one, one_mul] at h
  obtain ⟨x, hx, h⟩ := h
  rw [h, hx]

theorem UInt256.toNat_product_three {a b c d : UInt256} (h : product [a, b, c] = .ok d) :
    d.toNat = a.toNat * b.toNat * c.toNat := by
  simp only [product, List.foldlM_cons, List.foldlM_nil, bind_pure, bind_eq_ok, mul_eq_ok, toNat_one, one_mul] at h
  obtain ⟨x, hx, y, hy, h⟩ := h
  rw [h, hy, hx]

theorem UInt256.failsOnly_quotient (ho : S .overflow) (numerators : List UInt256) {denominators : List UInt256}
    (hz : ∀ d, product denominators = .ok d → d.toNat = 0 → S .divisionByZero) :
    FailsOnly S (UInt256.quotient numerators denominators) := by
  apply (failsOnly_product ho numerators).bind
  intro n _
  apply (failsOnly_product ho denominators).bind
  intro d hd
  refine (failsOnly_require fun h => ?_).bind fun _ _ => failsOnly_pure _
  rw [not_not] at h
  exact hz d hd (by rw [h, toNat_zero])

namespace Liquidation

/-! ## Exchanging -/

theorem exchange_spec {amount result : UInt256} {given wanted : Valuation}
    (h : exchange amount given wanted = .ok result) :
    0 < wanted.price.toNat * given.unit.toNat ∧
      result.toNat =
        given.price.toNat * amount.toNat * wanted.unit.toNat / (wanted.price.toNat * given.unit.toNat) := by
  obtain ⟨n, d, hn, hd, hne, hq⟩ := toNat_quotient h
  rw [toNat_product_three hn, toNat_product_two hd] at hq
  rw [toNat_product_two hd] at hne
  exact ⟨Nat.pos_of_ne_zero hne, hq⟩

/-- only an asset without a price cannot be exchanged into -/
theorem failsOnly_exchange (ho : S .overflow) (amount : UInt256) {given wanted : Valuation}
    (hu : given.unit.toNat ≠ 0) (hz : wanted.price.toNat = 0 → S .divisionByZero) :
    FailsOnly S (exchange amount given wanted) := by
  refine failsOnly_quotient ho _ fun d hd h0 => hz ?_
  rw [toNat_product_two hd] at h0
  exact (Nat.mul_eq_zero.1 h0).resolve_right hu

/-! ## The quote -/

/-- the debt that a whole balance pays for is no more than the debt whose worth asked for more than the balance; `x` and
`y` are the two sides of the price of one asset in the other -/
theorem covered_le_offered {x y offered base balance worth one bonus : Nat} (hone : 0 < one) (hy : 0 < y)
    (hbonus : 0 < bonus) (hbase : base * x ≤ y * offered) (hworth : worth * y ≤ x * balance)
    (hmore : balance < halfUp (base * bonus) one) : halfUp (worth * one) bonus ≤ offered := by
  have hbelow : balance * one ≤ base * bonus := by
    have := (le_halfUp_iff hone).1 hmore
    have := Nat.succ_mul balance one
    omega
  have hscaled : y * (worth * one) ≤ y * (offered * bonus) := by
    calc y * (worth * one) = worth * y * one := by ring
      _ ≤ x * balance * one := Nat.mul_le_mul_right one hworth
      _ = x * (balance * one) := by ring
      _ ≤ x * (base * bonus) := Nat.mul_le_mul_left x hbelow
      _ = base * x * bonus := by ring
      _ ≤ y * offered * bonus := Nat.mul_le_mul_right bonus hbase
      _ = y * (offered * bonus) := by ring
  have := Nat.le_of_mul_le_mul_left hscaled hy
  exact halfUp_le hbonus (by omega)

variable {offered balance base wanted : UInt256} {debt collateral : Valuation} {bonus fee : Nat}

/-- a seizure fits the balance and the offer -/
theorem seizure_bounds {seizure : Seizure} (hbonus : 0 < bonus) (hb : exchange offered debt collateral = .ok base)
    (hw : base.percentMul bonus = .ok wanted)
    (h : Seizure.of offered wanted balance debt collateral bonus = .ok seizure) :
    seizure.collateral.toNat ≤ balance.toNat ∧ seizure.debt.toNat ≤ offered.toNat := by
  unfold Seizure.of at h
  split at h
  · next hlt =>
    simp only [bind_eq_ok] at h
    obtain ⟨worth, hworth, covered, hcovered, h⟩ := h
    cases h
    refine ⟨le_rfl, ?_⟩
    obtain ⟨hx, hb⟩ := exchange_spec hb
    obtain ⟨hy, hworth⟩ := exchange_spec hworth
    rw [lt_iff, toNat_percentMul hw] at hlt
    rw [toNat_percentDiv hcovered]
    refine covered_le_offered (x := collateral.price.toNat * debt.unit.toNat) (by decide) hy hbonus ?_ ?_ hlt
    · rw [hb]
      exact (Nat.div_mul_le_self _ _).trans (le_of_eq (by ring))
    · rw [hworth]
      exact (Nat.div_mul_le_self _ _).trans (le_of_eq (by ring))
  · next hle =>
    cases h
    exact ⟨Nat.not_lt.1 hle, le_rfl⟩

/-- what a quote moves fits what there is -/
structure Amounts.Fit (amounts : Amounts) (offered balance : UInt256) : Prop where
  debt : amounts.debtToCover.toNat ≤ offered.toNat
  collateral : amounts.totalCollateral.toNat ≤ balance.toNat
  parts : amounts.liquidatorCollateral.toNat + amounts.protocolFee.toNat = amounts.totalCollateral.toNat

theorem quote_bounds {amounts : Amounts} (hbonus : 0 < bonus)
    (h : quote offered balance debt collateral bonus fee = .ok amounts) : amounts.Fit offered balance := by
  simp only [quote, bind_eq_ok] at h
  obtain ⟨base, hb, wanted, hw, seizure, hs, _, _, bonusCollateral, _, protocolFee, _, rest, hrest, h⟩ := h
  cases h
  obtain ⟨hcollateral, hdebt⟩ := seizure_bounds hbonus hb hw hs
  rw [sub_eq_ok] at hrest
  exact ⟨hdebt, hcollateral, by dsimp only; omega⟩

/-- a balance is worked back into debt only if the debt has a price -/
theorem failsOnly_seizure (ho : S .overflow) (hbonus : bonus ≠ 0) (hcu : collateral.unit.toNat ≠ 0)
    (hb : exchange offered debt collateral = .ok base) (hw : base.percentMul bonus = .ok wanted) :
    FailsOnly S (Seizure.of offered wanted balance debt collateral bonus) := by
  refine failsOnly_ite (fun hlt => ?_) fun _ => failsOnly_pure _
  refine FailsOnly.bind (failsOnly_exchange ho balance hcu fun hprice => absurd hlt ?_) fun worth _ => ?_
  · obtain ⟨_, hbase⟩ := exchange_spec hb
    rw [hprice, zero_mul, zero_mul, Nat.zero_div] at hbase
    have hwanted : wanted.toNat = 0 := by
      rw [toNat_percentMul hw, hbase, zero_mul]
      decide
    rw [lt_iff, hwanted]
    exact Nat.not_lt_zero _
  · exact (failsOnly_percentDiv ho worth hbonus).bind fun _ _ => failsOnly_pure _

theorem failsOnly_quote (ho : S .overflow) (hz : collateral.price.toNat = 0 → S .divisionByZero)
    (hdu : debt.unit.toNat ≠ 0) (hcu : collateral.unit.toNat ≠ 0) (hbonus : hundredPercent ≤ bonus)
    (hfee : fee ≤ hundredPercent) (offered balance : UInt256) :
    FailsOnly S (quote offered balance debt collateral bonus fee) := by
  have hpos : 0 < bonus := Nat.lt_of_lt_of_le (by decide) hbonus
  apply (failsOnly_exchange ho offered hdu hz).bind
  intro base hb
  apply (failsOnly_percentMul ho base bonus).bind
  intro wanted hw
  apply (failsOnly_seizure ho hpos.ne' hcu hb hw).bind
  intro seizure _
  apply (failsOnly_percentDiv ho seizure.collateral hpos.ne').bind
  intro without hwithout
  refine FailsOnly.bind (failsOnly_sub ?_) fun bonusCollateral hbc => ?_
  · rw [toNat_percentDiv hwithout]
    exact halfUp_div_le hpos _ hbonus
  · apply (failsOnly_percentMul ho bonusCollateral fee).bind
    intro protocolFee hf
    refine FailsOnly.bind (failsOnly_sub ?_) fun _ _ => failsOnly_pure _
    have hle : protocolFee.toNat ≤ bonusCollateral.toNat := by
      rw [toNat_percentMul hf]
      exact halfUp_mul_le (by decide) _ hfee
    rw [sub_eq_ok] at hbc
    omega

/-! ## The book -/

namespace Book

/-- what holds of a book that is accrued to the moment, as far as a liquidation relies on it -/
structure Accrued (book : Book) : Prop where
  debtSound : book.debtReserve.Sound
  collateralSound : book.collateralReserve.Sound
  variableDebt : book.parties.borrowerDebt.scaledVariableDebt.rayMul book.debtReserve.debtIndex =
    .ok book.parties.borrowerDebt.variableDebt
  supply : book.parties.borrowerCollateral.scaledSupply.rayMul book.collateralReserve.liquidityIndex =
    .ok book.parties.borrowerCollateral.supply
  covered : book.parties.borrowerCollateral.scaledSupply.toNat ≤ book.collateralReserve.scaledSupply.toNat

variable {book next : Book} {now : Nat}

theorem accrue_accrued (hd : book.debtReserve.Sound) (hc : book.collateralReserve.Sound)
    (hcovered : book.parties.borrowerCollateral.scaledSupply.toNat ≤ book.collateralReserve.scaledSupply.toNat)
    (h : book.accrue now = .ok next) : next.Accrued := by
  have hm := accrue_moves h
  obtain ⟨_, ha, h⟩ := accrue_eq_ok h
  obtain ⟨d, c, hdr, hcr, rfl⟩ := accrueReserves_eq_ok ha
  obtain ⟨⟨bd, bc, _, _, _⟩, ⟨hbd, hbc, _, _, _⟩, rfl⟩ := settle_eq_ok h
  obtain ⟨_, _, _, _, rfl, _, hvariable, _⟩ := Position.accrue_eq_ok hbd
  obtain ⟨_, _, _, _, rfl, hsupply, _⟩ := Position.accrue_eq_ok hbc
  refine ⟨hd.grows hm.debtGrows, hc.grows hm.collateralGrows, hvariable, hsupply, ?_⟩
  obtain ⟨_, _, _, _, _, _, rfl, _⟩ := Reserve.accrue_eq_ok hcr
  exact hcovered

theorem failsOnly_settle (ho : S .overflow) (hb : S .badRequest) (now : Nat) (book : Book) :
    FailsOnly S (book.settle now) := by
  refine (Position.failsOnly_accrue ho fun _ => hb).bind fun _ _ => ?_
  refine (Position.failsOnly_accrue ho fun _ => hb).bind fun _ _ => ?_
  refine (Position.failsOnly_accrue ho fun _ => hb).bind fun _ _ => ?_
  refine (Position.failsOnly_accrue ho fun _ => hb).bind fun _ _ => ?_
  exact (Position.failsOnly_accrue ho fun _ => hb).bind fun _ _ => failsOnly_pure _

theorem failsOnly_accrue (ho : S .overflow) (hb : S .badRequest) (hd : book.debtReserve.Sound)
    (hc : book.collateralReserve.Sound) (now : Nat) : FailsOnly S (book.accrue now) := by
  refine FailsOnly.bind ?_ fun _ _ => failsOnly_settle ho hb now _
  refine (Reserve.failsOnly_accrue ho hd.liquidityIndex_ne_zero fun _ => hb).bind fun _ _ => ?_
  exact (Reserve.failsOnly_accrue ho hc.liquidityIndex_ne_zero fun _ => hb).bind fun _ _ => failsOnly_pure _

/-! ### The quote -/

theorem failsOnly_unit (ho : S .overflow) (listing : Listing) : FailsOnly S listing.unit :=
  failsOnly_ite (fun _ => failsOnly_fit ho _) fun _ => failsOnly_error ho

theorem unit_ne_zero {listing : Listing} {u : UInt256} (h : listing.unit = .ok u) : u.toNat ≠ 0 := by
  rw [Listing.unit_eq_ok.1 h]
  exact (Nat.pow_pos (by decide)).ne'

variable {config : ReserveConfig} {terms : Terms} {amounts : Amounts}

theorem failsOnly_quote (ho : S .overflow) (hb : S .badRequest) (hv : config.Valid)
    (hz : terms.collateralPrice = 0 → S .divisionByZero) (book : Book) : FailsOnly S (book.quote config terms) := by
  refine (failsOnly_require fun _ => hb).bind fun _ _ => ?_
  apply (Position.failsOnly_totalDebt ho _).bind
  intro debt _
  refine (failsOnly_require fun _ => hb).bind fun _ _ => (failsOnly_require fun _ => hb).bind fun _ _ => ?_
  apply (failsOnly_unit ho _).bind
  intro debtUnit hdu
  apply (failsOnly_unit ho _).bind
  intro collateralUnit hcu
  refine FailsOnly.bind ?_ fun _ _ => (failsOnly_require fun _ => hb).bind fun _ _ => failsOnly_pure _
  exact Liquidation.failsOnly_quote ho (fun h0 => hz (eq_zero_iff.2 h0)) (unit_ne_zero hdu) (unit_ne_zero hcu)
    hv.le_bonus hv.fee_le _ _

/-- the amounts of a liquidation fit the offer and the borrower's balance, and some debt is covered -/
theorem quote_spec (hv : config.Valid) (h : book.quote config terms = .ok amounts) :
    ∃ debt : UInt256, book.parties.borrowerDebt.totalDebt = .ok debt ∧ amounts.debtToCover ≠ 0 ∧
      amounts.Fit (min terms.debtToCover debt) book.parties.borrowerCollateral.supply := by
  simp only [quote, bind_eq_ok, require_eq_ok] at h
  obtain ⟨_, _, debt, hdebt, _, _, _, _, _, _, _, _, _, hq, _, hne, h⟩ := h
  cases h
  exact ⟨debt, hdebt, hne, quote_bounds (Nat.lt_of_lt_of_le (by decide) hv.le_bonus) hq⟩

/-- so they fit the borrower's debt -/
theorem quote_fit (hv : config.Valid) (h : book.quote config terms = .ok amounts) :
    ∃ debt : UInt256, book.parties.borrowerDebt.totalDebt = .ok debt ∧
      amounts.Fit debt book.parties.borrowerCollateral.supply := by
  obtain ⟨debt, hdebt, _, hfit⟩ := quote_spec hv h
  refine ⟨debt, hdebt, hfit.debt.trans ?_, hfit.collateral, hfit.parts⟩
  rw [toNat_min]
  exact Nat.min_le_right _ _

end Book

/-! ### Repaying -/

theorem failsOnly_coverDebt (ho : S .overflow) {a : Account} (hs : a.reserve.Sound)
    (hv : a.position.scaledVariableDebt.rayMul a.reserve.debtIndex = .ok a.position.variableDebt) {covered : UInt256}
    (hle : covered.toNat ≤ a.position.variableDebt.toNat + a.position.stableDebt.toNat) (now : Nat) :
    FailsOnly S (coverDebt covered now a) := by
  refine failsOnly_ite (fun hvariable => Account.failsOnly_giveUp_variable ho hs hv now hvariable) fun _ => ?_
  have hclear : FailsOnly S (clearVariableDebt now a) :=
    failsOnly_ite (fun _ => failsOnly_pure _) fun _ => Account.failsOnly_giveUp_variable ho hs hv now le_rfl
  refine hclear.bind fun cleared hc => Account.failsOnly_giveUp_stable ho now ?_
  rw [(clearVariableDebt_same hc).2.1, toNat_monus]
  omega

namespace Book

variable {book : Book} {config : ReserveConfig} {amounts : Amounts} {curve : RateCurve} {now : Nat}

theorem failsOnly_repay (ho : S .overflow) (hb : S .badRequest) (hc : curve.Bends) (ha : book.Accrued)
    {covered debt : UInt256} (hd : book.parties.borrowerDebt.totalDebt = .ok debt) (hle : covered.toNat ≤ debt.toNat)
    (now : Nat) : FailsOnly S (book.repay curve covered now) := by
  rw [Position.totalDebt, add_eq_ok] at hd
  rw [hd] at hle
  have hcover : FailsOnly S (coverDebt covered now ⟨book.debtReserve, book.parties.borrowerDebt⟩) :=
    failsOnly_coverDebt (a := ⟨book.debtReserve, book.parties.borrowerDebt⟩) ho ha.debtSound ha.variableDebt hle now
  apply hcover.bind
  intro account haccount
  have hsound := ha.debtSound.grows (coverDebt_moves haccount).grows
  refine (Account.failsOnly_refresh_paid ho hc hsound covered).bind fun _ _ => ?_
  exact (Position.failsOnly_spend fun _ => hb).bind fun _ _ => failsOnly_pure _

/-! ### Seizing -/

/-- what the liquidator and the treasury take fits the borrower's scaled supply -/
theorem scaledSeizure_le (hindex : ray ≤ book.collateralReserve.liquidityIndex.toNat)
    (hsupply : book.parties.borrowerCollateral.scaledSupply.rayMul book.collateralReserve.liquidityIndex =
      .ok book.parties.borrowerCollateral.supply)
    {debt : UInt256} (hfit : amounts.Fit debt book.parties.borrowerCollateral.supply) {scaled : ScaledSeizure}
    (h : book.scaledSeizure amounts = .ok scaled) :
    scaled.toLiquidator.toNat + scaled.toTreasury.toNat ≤ book.parties.borrowerCollateral.scaledSupply.toNat := by
  simp only [scaledSeizure, bind_eq_ok] at h
  obtain ⟨toTreasury, ht, toLiquidator, hl, h⟩ := h
  cases h
  dsimp only
  unfold scaledForLiquidator at hl
  split at hl
  · rw [sub_eq_ok] at hl
    omega
  · next hpart =>
    have hlt : amounts.totalCollateral.toNat < book.parties.borrowerCollateral.supply.toNat :=
      Nat.lt_of_le_of_ne hfit.collateral fun he => hpart (ext he)
    rw [toNat_rayMul hsupply, ← hfit.parts] at hlt
    rw [toNat_rayDiv hl, toNat_rayDiv ht]
    exact halfUp_two_parts_le ray_pos hindex hlt

theorem failsOnly_scaledSeizure (ho : S .overflow) (hs : book.collateralReserve.Sound)
    (hsupply : book.parties.borrowerCollateral.scaledSupply.rayMul book.collateralReserve.liquidityIndex =
      .ok book.parties.borrowerCollateral.supply)
    {debt : UInt256} (hfit : amounts.Fit debt book.parties.borrowerCollateral.supply) :
    FailsOnly S (book.scaledSeizure amounts) := by
  have hindex := hs.liquidityIndex_ne_zero
  apply (Reserve.failsOnly_scaleSupply ho hindex amounts.protocolFee).bind
  intro toTreasury ht
  refine FailsOnly.bind (failsOnly_ite (fun _ => failsOnly_sub ?_) fun _ => ?_) fun _ _ => failsOnly_pure _
  · -- the fee is a part of the balance, so its scaled form is a part of the scaled balance
    have hle : amounts.protocolFee.toNat ≤ book.parties.borrowerCollateral.supply.toNat := by
      have := hfit.parts
      have := hfit.collateral
      omega
    rw [toNat_rayMul hsupply] at hle
    rw [toNat_rayDiv ht]
    exact halfUp_whole_le ray_pos hs.liquidityIndex hle
  · exact Reserve.failsOnly_scaleSupply ho hindex _

theorem failsOnly_take (ho : S .overflow) (hb : S .badRequest) (hc : curve.Bends) (hs : book.collateralReserve.Sound)
    {amount scaled : UInt256} (hle : scaled.toNat ≤ book.parties.borrowerCollateral.scaledSupply.toNat)
    (hcovered : book.parties.borrowerCollateral.scaledSupply.toNat ≤ book.collateralReserve.scaledSupply.toNat)
    (receiveSupply : Bool) : FailsOnly S (book.take curve amount scaled receiveSupply) := by
  refine failsOnly_ite (fun _ => ?_) fun _ => ?_
  · refine (Position.failsOnly_removeSupply hle).bind fun _ _ => ?_
    exact (Position.failsOnly_addSupply ho scaled _).bind fun _ _ => failsOnly_pure _
  · apply (failsOnly_require fun _ => hb).bind
    intro _ havailable
    have havailable := le_iff.1 (require_eq_ok.1 havailable)
    refine FailsOnly.bind (Reserve.failsOnly_refresh ho hc hs.factor (by omega)) fun refreshed hr => ?_
    obtain ⟨_, _, _, _, rfl, _⟩ := Reserve.refresh_spec hr
    refine FailsOnly.bind (Reserve.failsOnly_burnSupply (by dsimp only; omega)) fun _ _ => ?_
    refine (Position.failsOnly_removeSupply hle).bind fun _ _ => ?_
    exact (Position.failsOnly_receive ho amount _).bind fun _ _ => failsOnly_pure _

theorem take_scaledSupply {taken : Book} {amount scaled : UInt256} {receiveSupply : Bool}
    (h : book.take curve amount scaled receiveSupply = .ok taken) :
    taken.parties.borrowerCollateral.scaledSupply.toNat + scaled.toNat =
      book.parties.borrowerCollateral.scaledSupply.toNat := by
  unfold take at h
  split at h
  · obtain ⟨p, _, hp, _, rfl⟩ := seizeSupply_spec h
    obtain ⟨_, _, rfl, hremoved, _⟩ := Position.removeSupply_spec hp
    exact hremoved
  · obtain ⟨_, _, p, _, _, hp, _, _, rfl, _⟩ := seizeUnderlying_spec h
    obtain ⟨_, _, rfl, hremoved, _⟩ := Position.removeSupply_spec hp
    exact hremoved

theorem failsOnly_chargeFee (ho : S .overflow) {scaled : UInt256}
    (hle : scaled.toNat ≤ book.parties.borrowerCollateral.scaledSupply.toNat) :
    FailsOnly S (book.chargeFee scaled) := by
  refine failsOnly_ite (fun _ => failsOnly_pure _) fun _ => ?_
  refine (Position.failsOnly_removeSupply hle).bind fun _ _ => ?_
  exact (Position.failsOnly_creditSupply ho scaled _).bind fun _ _ => failsOnly_pure _

theorem failsOnly_seize (ho : S .overflow) (hb : S .badRequest) (hc : curve.Bends) (hs : book.collateralReserve.Sound)
    (hsupply : book.parties.borrowerCollateral.scaledSupply.rayMul book.collateralReserve.liquidityIndex =
      .ok book.parties.borrowerCollateral.supply)
    (hcovered : book.parties.borrowerCollateral.scaledSupply.toNat ≤ book.collateralReserve.scaledSupply.toNat)
    {debt : UInt256} (hfit : amounts.Fit debt book.parties.borrowerCollateral.supply) (receiveSupply : Bool) :
    FailsOnly S (book.seize curve amounts receiveSupply) := by
  apply (failsOnly_scaledSeizure ho hs hsupply hfit).bind
  intro scaled hscaled
  have hle := scaledSeizure_le hs.liquidityIndex hsupply hfit hscaled
  refine FailsOnly.bind (failsOnly_take ho hb hc hs (by omega) hcovered receiveSupply) fun taken ht => ?_
  have hrest := take_scaledSupply ht
  exact FailsOnly.bind (failsOnly_chargeFee ho (by omega)) fun _ _ => failsOnly_pure _

/-! ### The liquidation -/

variable {debtConfig collateralConfig : ReserveConfig} {terms : Terms}

theorem failsOnly_liquidateNow (ho : S .overflow) (hb : S .badRequest)
    (hz : terms.collateralPrice = 0 → S .divisionByZero) (hd : debtConfig.Valid) (hc : collateralConfig.Valid)
    (ha : book.Accrued) (now : Nat) :
    FailsOnly S (book.liquidateNow debtConfig collateralConfig terms now) := by
  apply (failsOnly_quote ho hb hc hz book).bind
  intro amounts hq
  obtain ⟨debt, hdebt, hfit⟩ := quote_fit hc hq
  apply (failsOnly_repay ho hb hd.bends ha hdebt hfit.debt now).bind
  intro repaid hr
  obtain ⟨hreserve, hposition⟩ := repay_collateral hr
  refine FailsOnly.bind ?_ fun seized _ => (failsOnly_settle ho hb now seized).bind fun _ _ => failsOnly_pure _
  rw [← hposition] at hfit
  refine failsOnly_seize ho hb hc.bends ?_ ?_ ?_ hfit terms.receiveSupply
  · rw [hreserve]
    exact ha.collateralSound
  · rw [hreserve, hposition]
    exact ha.supply
  · rw [hreserve, hposition]
    exact ha.covered

/-- **A liquidation fails for ordinary reasons, or because the collateral has no price.** -/
theorem failsOnly_liquidate (ho : S .overflow) (hb : S .badRequest)
    (hz : terms.collateralPrice = 0 → S .divisionByZero) (hd : debtConfig.Valid) (hc : collateralConfig.Valid)
    (hds : book.debtReserve.Sound) (hcs : book.collateralReserve.Sound)
    (hcovered : book.parties.borrowerCollateral.scaledSupply.toNat ≤ book.collateralReserve.scaledSupply.toNat)
    (now : Nat) : FailsOnly S (book.liquidate debtConfig collateralConfig terms now) := by
  refine (failsOnly_require fun _ => hb).bind fun _ _ => (failsOnly_require fun _ => hb).bind fun _ _ => ?_
  apply (failsOnly_accrue ho hb hds hcs now).bind
  intro accrued ha
  have haccrued := accrue_accrued hds hcs hcovered ha
  exact (failsOnly_liquidateNow ho hb hz hd hc haccrued now).bind fun _ _ => failsOnly_pure _

end Book

end Liquidation

end Lending
