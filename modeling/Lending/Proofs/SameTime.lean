/-
At one time, the order of plain actions on one market does not matter.

The first action at a time brings the market up to it, and the second finds it there. Each changes amounts that the
other looks at, but what a plain action moves does not depend on them (`Account.perform_alike`), so in both orders the
market has the same of everything in the end. Its rates follow, because they are those of the curve at these amounts.
Only the rate that a position is told it earns is that of the moment when the position was last written.

Results:
- `plain_market`: what one plain action does to its market;
- `plain_alike`: on pools whose markets have the same base it makes the same change;
- `plain_square`: so two of them, one after the other, lead to the same market in both orders;
- `submit_same_time`: when two plain actions of different users go through in both orders, the markets are the same in
  the end, and so are the positions but for the rates that those of the users earn.
-/
import Lending.Proofs.Independence
import Lending.Proofs.Movements
import Lending.Proofs.VariableTracking

namespace Lending

open UInt256

/-! ## Plain actions -/

namespace Action

/-- the users that take part in an action -/
def users : Action → List Address
  | account owner _ _ | setCollateral owner _ _ => [owner]
  | transfer sender recipient _ _ => [sender, recipient]
  | liquidation liquidator borrower _ _ _ => [liquidator, borrower]

/-- the plain actions on one market -/
inductive PlainOn (asset : Address) : Action → Prop where
  | account {owner : Address} {action : AccountAction} (h : action.Plain) : PlainOn asset (.account owner asset action)
  | transfer {sender recipient : Address} {amount : UInt256} : PlainOn asset (.transfer sender recipient asset amount)

/-- whether an action writes the market that it names first -/
def writesMarket : Action → Bool
  | account _ _ _ | liquidation _ _ _ _ _ => true
  | setCollateral _ _ _ | transfer _ _ _ _ => false

/-- a plain action writes its market and the positions of its users there, and nothing else -/
theorem PlainOn.footprint {asset : Address} {action : Action} (h : action.PlainOn asset) (treasury : Address) :
    (∀ a ∈ (action.footprint treasury).markets, a = asset) ∧
      ∀ key ∈ (action.footprint treasury).positions, key.asset = asset ∧ key.owner ∈ action.users := by
  cases h with
  | account _ => simp [Action.footprint, users]
  | transfer => simp [Action.footprint, users]

end Action

/-- a market that shares its base with one that was accrued stands at the same time -/
theorem Reserve.accrue_of_base {stored r s : Reserve} {now : Nat} (hr : stored.accrue now = .ok r)
    (hbase : s.base = r.base) : s.accrue now = .ok s := by
  obtain ⟨_, _, _, _, _, _, rfl, _⟩ := accrue_eq_ok hr
  obtain rfl : s.lastUpdate = now := (congrArg Reserve.lastUpdate hbase :)
  exact s.accrue_self

/-- both changes made one after the other, in either order, lead to the same amounts -/
theorem Reserve.SameChange.diamond {start left right last last' : Reserve} (h1 : SameChange start left right last')
    (h2 : SameChange start right left last) :
    last'.available = last.available ∧ last'.unbacked = last.unbacked ∧ last'.scaledSupply = last.scaledSupply ∧
      last'.scaledVariableDebt = last.scaledVariableDebt := by
  obtain ⟨ha, hu, hs, hv⟩ := h1
  obtain ⟨ha', hu', hs', hv'⟩ := h2
  exact ⟨ext (by omega), ext (by omega), ext (by omega), ext (by omega)⟩

namespace Pool

variable {pool next other last : Pool} {now : Nat} {asset : Address} {action : Action} {settings : ReserveConfig}

/-! ## One plain action -/

/-- the market of an asset, brought to `now`, is `r` -/
def StandsAt (now : Nat) (asset : Address) (pool : Pool) (r : Reserve) : Prop :=
  ∃ stored, pool.reserves.get? asset = some stored ∧ stored.accrue now = .ok r

theorem StandsAt.eq {r s : Reserve} (hr : pool.StandsAt now asset r) (hs : pool.StandsAt now asset s) : s = r := by
  obtain ⟨_, hstored, hr⟩ := hr
  obtain ⟨_, hstored', hs⟩ := hs
  obtain rfl := Option.some.inj (hstored.symm.trans hstored')
  exact Except.ok.inj (hs.symm.trans hr)

/-- an action brings the market from `r` to `s`, both at `now`, and leaves its base alone; the market is stored coherent,
or not written at all -/
structure PlainStep (now : Nat) (asset : Address) (settings : ReserveConfig) (action : Action) (pool next : Pool)
    (r s : Reserve) : Prop where
  before : pool.StandsAt now asset r
  after : next.StandsAt now asset s
  base : s.base = r.base
  market : if action.writesMarket then next.reserves.get? asset = some s ∧ s.Coherent settings
    else next.reserves.get? asset = pool.reserves.get? asset

/-- an action that writes positions only leaves the market where it is -/
theorem PlainStep.of_positions {ps : List (Position × Position)} (hw : Writes pool next [] ps) {r : Reserve}
    (hr : pool.StandsAt now asset r) (ha : action.writesMarket = false) :
    PlainStep now asset settings action pool next r r := by
  have hkept : next.reserves.get? asset = pool.reserves.get? asset := hw.get?_reserve_of_ne (List.forall_mem_nil _)
  refine ⟨hr, ?_, rfl, ?_⟩
  · obtain ⟨stored, hstored, hr⟩ := hr
    exact ⟨stored, hkept.trans hstored, hr⟩
  · rw [ha]
    exact hkept

theorem PlainStep.unwritten {r s : Reserve} (h : PlainStep now asset settings action pool next r s)
    (ha : action.writesMarket = false) : s = r := by
  have hkept := h.market
  rw [ha] at hkept
  obtain ⟨stored, hstored, hs⟩ := h.after
  exact h.before.eq ⟨stored, hkept.symm.trans hstored, hs⟩

/-- **What one plain action does to its market.** -/
theorem plain_market (h : Reachable pool) (hc : pool.configs.get? asset = some settings) (hplain : action.PlainOn asset)
    (hn : pool.act now action = .ok next) : ∃ r s, PlainStep now asset settings action pool next r s := by
  have hp := h.wellFormed
  cases hplain with
  | account hplain =>
    cases act_effect hp hn with
    | account hsettings read result writes =>
      obtain rfl := Option.some.inj (hc.symm.trans hsettings)
      obtain ⟨hr, hq⟩ := accountOf_eq_ok read
      obtain ⟨_, _, _, haccrued, _, _⟩ := Account.perform_eq_ok result
      obtain ⟨r, _, hrAccrued, _, _⟩ := Account.accrue_eq_ok haccrued
      have hbase := Account.perform_base hplain (covers_user hp h.variableGap hr hq) hrAccrued result
      have hstored := writes.get?_reserve List.mem_cons_self
      rw [hp.asset hr] at hstored
      exact ⟨r, _, ⟨_, hr, hrAccrued⟩, ⟨_, hstored, Reserve.accrue_of_base hrAccrued hbase⟩, hbase, hstored,
        Account.perform_coherent (h.settled hc hr).steady result⟩
  | transfer =>
    cases act_effect hp hn with
    | selfTransfer market _ result _ writes => exact ⟨_, _, .of_positions writes ⟨_, market, result⟩ rfl⟩
    | transfer market _ _ result _ writes =>
      obtain ⟨_, _, _, hr, _⟩ := Transfer.perform_eq_ok result
      exact ⟨_, _, .of_positions writes ⟨_, market, hr⟩ rfl⟩

/-! ## The same plain action on two pools -/

/-- the positions in a place of two pools differ in nothing but the rate they earn -/
def ReratedAt (key : PositionKey) (pool other : Pool) : Prop :=
  ∃ p rate, pool.positions.get? key = some p ∧ other.positions.get? key = some { p with liquidityRate := rate }

theorem ReratedAt.symm {key : PositionKey} (h : ReratedAt key pool other) : ReratedAt key other pool := by
  obtain ⟨p, rate, hp, hq⟩ := h
  exact ⟨_, p.liquidityRate, hq, hp⟩

/-- what is written to a place of two pools, when it differs in nothing but the rate -/
theorem Writes.reratedAt {first second first' second' : Pool} {rs rs' : List (Reserve × Reserve)}
    {ps ps' : List (Position × Position)} (hw : Writes first second rs ps) (hw' : Writes first' second' rs' ps')
    {w w' : Position × Position} (hm : w ∈ ps) (hm' : w' ∈ ps') {key : PositionKey} (hk : w.1.key = key)
    (hk' : w'.1.key = key) (h : w.2.Rerated w'.2) : ReratedAt key second second' := by
  obtain ⟨rate, hrate⟩ := h
  refine ⟨w.2, rate, ?_, ?_⟩
  · rw [← hk]
    exact hw.get?_position hm
  · rw [← hk', ← hrate]
    exact hw'.get?_position hm'

/-- the same place holds the same position in both pools, whether it was written or not -/
theorem positionOf_eq {owner : Address} {p q : Position}
    (hsame : other.positions.get? ⟨owner, asset⟩ = pool.positions.get? ⟨owner, asset⟩)
    (hp : pool.positionOf owner asset = .ok p) (hq : other.positionOf owner asset = .ok q) : q = p := by
  obtain ⟨_, rfl⟩ := positionOf_eq_ok.1 hp
  obtain ⟨_, rfl⟩ := positionOf_eq_ok.1 hq
  rw [hsame]

theorem plain_alike_account {owner : Address} {change : AccountAction} (h : Reachable pool) (h' : Reachable other)
    (hconfig : other.config = pool.config) (hc : pool.configs.get? asset = some settings)
    (hc' : other.configs.get? asset = some settings) (hplain : change.Plain)
    (hsame : other.positions.get? ⟨owner, asset⟩ = pool.positions.get? ⟨owner, asset⟩) {r s r' s' : Reserve}
    (hstep : PlainStep now asset settings (.account owner asset change) pool next r s)
    (hstep' : PlainStep now asset settings (.account owner asset change) other last r' s') (hbase : r'.base = r.base)
    (hn : Effect now pool next (.account owner asset change))
    (hn' : Effect now other last (.account owner asset change)) :
    ReratedAt ⟨owner, asset⟩ next last ∧ Reserve.SameChange r s r' s' := by
  cases hn with
  | account hsettings read result writes =>
    cases hn' with
    | account hsettings' read' result' writes' =>
      obtain rfl := Option.some.inj (hc.symm.trans hsettings)
      obtain rfl := Option.some.inj (hc'.symm.trans hsettings')
      obtain ⟨hr, hq⟩ := accountOf_eq_ok read
      obtain ⟨hr', hq'⟩ := accountOf_eq_ok read'
      have hcovers := covers_user h.wellFormed h.variableGap hr hq
      have hcovers' := covers_user h'.wellFormed h'.variableGap hr' hq'
      obtain ⟨_, hstored, haccrued⟩ := hstep.before
      obtain rfl := Option.some.inj (hr.symm.trans hstored)
      obtain ⟨_, hstored', haccrued'⟩ := hstep'.before
      obtain rfl := Option.some.inj (hr'.symm.trans hstored')
      have hwritten := writes.get?_reserve List.mem_cons_self
      have hwritten' := writes'.get?_reserve List.mem_cons_self
      rw [h.wellFormed.asset hr] at hwritten
      rw [h'.wellFormed.asset hr'] at hwritten'
      obtain rfl := Option.some.inj (hwritten.symm.trans hstep.market.1)
      obtain rfl := Option.some.inj (hwritten'.symm.trans hstep'.market.1)
      rw [hconfig] at result'
      obtain ⟨hrerated, hchange⟩ := Account.perform_alike hplain hcovers hcovers' haccrued haccrued' hbase
        (.of_eq (positionOf_eq hsame hq hq')) result result'
      exact ⟨writes.reratedAt writes' List.mem_cons_self List.mem_cons_self (h.wellFormed.key_of_positionOf hq)
        (h'.wellFormed.key_of_positionOf hq') hrerated, hchange⟩

theorem plain_alike_transfer {sender recipient : Address} {amount : UInt256} (hp : pool.WellFormed)
    (hp' : other.WellFormed)
    (hsame : ∀ u ∈ [sender, recipient], other.positions.get? ⟨u, asset⟩ = pool.positions.get? ⟨u, asset⟩)
    {r r' : Reserve} (hr : pool.StandsAt now asset r) (hr' : other.StandsAt now asset r') (hbase : r'.base = r.base)
    (hn : Effect now pool next (.transfer sender recipient asset amount))
    (hn' : Effect now other last (.transfer sender recipient asset amount)) :
    ReratedAt ⟨sender, asset⟩ next last ∧ ReratedAt ⟨recipient, asset⟩ next last := by
  have hsender := hsame sender List.mem_cons_self
  have hrecipient := hsame recipient (List.mem_cons_of_mem _ List.mem_cons_self)
  obtain ⟨_, hstored, haccrued⟩ := hr
  obtain ⟨_, hstored', haccrued'⟩ := hr'
  -- a transfer to oneself is one on both pools
  have hothers {pool : Pool} (hp : pool.WellFormed) {p q : Position} (hread : pool.positionOf sender asset = .ok p)
      (hread' : pool.positionOf sender asset = .ok q) : p.owner = q.owner := by
    rw [Except.ok.inj (hread.symm.trans hread')]
  cases hn with
  | selfTransfer market read result settled writes =>
    cases hn' with
    | selfTransfer market' read' result' settled' writes' =>
      obtain rfl := Option.some.inj (market.symm.trans hstored)
      obtain rfl := Option.some.inj (market'.symm.trans hstored')
      obtain rfl := Except.ok.inj (result.symm.trans haccrued)
      obtain rfl := Except.ok.inj (result'.symm.trans haccrued')
      have hsame := Position.Rerated.of_eq (positionOf_eq hsender read read')
      have hrerated := Position.accrue_alike hbase hsame settled settled'
      have hat := writes.reratedAt writes' List.mem_cons_self List.mem_cons_self (hp.key_of_positionOf read)
        (hp'.key_of_positionOf read') hrerated
      exact ⟨hat, hat⟩
    | transfer _ readSender readRecipient _ others _ => exact absurd (hothers hp' readSender readRecipient) others
  | transfer market readSender readRecipient result others writes =>
    cases hn' with
    | selfTransfer => exact absurd (hothers hp readSender readRecipient) others
    | transfer market' readSender' readRecipient' result' others' writes' =>
      obtain rfl := Option.some.inj (market.symm.trans hstored)
      obtain rfl := Option.some.inj (market'.symm.trans hstored')
      have hsame := Position.Rerated.of_eq (positionOf_eq hsender readSender readSender')
      have hsame' := Position.Rerated.of_eq (positionOf_eq hrecipient readRecipient readRecipient')
      have hrerated := Transfer.perform_alike haccrued haccrued' hbase ⟨hsame, hsame'⟩ result result'
      exact ⟨writes.reratedAt writes' List.mem_cons_self List.mem_cons_self (hp.key_of_positionOf readSender)
          (hp'.key_of_positionOf readSender') hrerated.sender,
        writes.reratedAt writes' (List.mem_cons_of_mem _ List.mem_cons_self)
          (List.mem_cons_of_mem _ List.mem_cons_self) (hp.key_of_positionOf readRecipient)
          (hp'.key_of_positionOf readRecipient') hrerated.recipient⟩

/-- **A plain action makes the same change on pools whose markets have the same base and where its users have the same
positions.** -/
theorem plain_alike (h : Reachable pool) (h' : Reachable other) (hconfig : other.config = pool.config)
    (hc : pool.configs.get? asset = some settings) (hc' : other.configs.get? asset = some settings)
    (hplain : action.PlainOn asset)
    (hsame : ∀ u ∈ action.users, other.positions.get? ⟨u, asset⟩ = pool.positions.get? ⟨u, asset⟩) {r s r' s' : Reserve}
    (hstep : PlainStep now asset settings action pool next r s)
    (hstep' : PlainStep now asset settings action other last r' s') (hbase : r'.base = r.base)
    (hn : pool.act now action = .ok next) (hn' : other.act now action = .ok last) :
    Reserve.SameChange r s r' s' ∧ ∀ u ∈ action.users, ReratedAt ⟨u, asset⟩ next last := by
  have heffect := act_effect h.wellFormed hn
  have heffect' := act_effect h'.wellFormed hn'
  cases hplain with
  | account hplain =>
    have hsame := hsame _ List.mem_cons_self
    obtain ⟨hrerated, hchange⟩ :=
      plain_alike_account h h' hconfig hc hc' hplain hsame hstep hstep' hbase heffect heffect'
    exact ⟨hchange, List.forall_mem_singleton.2 hrerated⟩
  | transfer =>
    obtain ⟨hsender, hrecipient⟩ := plain_alike_transfer h.wellFormed h'.wellFormed hsame hstep.before hstep'.before
      hbase heffect heffect'
    obtain rfl := hstep.unwritten rfl
    obtain rfl := hstep'.unwritten rfl
    exact ⟨.refl _ _, List.forall_mem_cons.2 ⟨hsender, List.forall_mem_singleton.2 hrecipient⟩⟩

/-! ## Two plain actions -/

/-- a plain action leaves alone the other markets, and in its own market the positions of others -/
theorem Frame.positions_of_plain {treasury : Address} (hf : Frame pool next (action.footprint treasury))
    (hplain : action.PlainOn asset) {key : PositionKey} (hk : key.asset = asset → key.owner ∉ action.users) :
    next.positions.get? key = pool.positions.get? key := by
  refine hf.positions key fun hm => ?_
  obtain ⟨hasset, howner⟩ := (hplain.footprint treasury).2 key hm
  exact hk hasset howner

theorem Frame.reserves_of_plain {treasury : Address} (hf : Frame pool next (action.footprint treasury))
    (hplain : action.PlainOn asset) {a : Address} (ha : a ≠ asset) :
    next.reserves.get? a = pool.reserves.get? a :=
  hf.reserves a fun hm => ha ((hplain.footprint treasury).1 a hm)

/-- after two steps a market is stored coherent, unless neither of them has written it -/
theorem PlainStep.pair {second : Action} {r s t : Reserve} (h1 : PlainStep now asset settings action pool next r s)
    (h2 : PlainStep now asset settings second next last s t) :
    if action.writesMarket || second.writesMarket then last.reserves.get? asset = some t ∧ t.Coherent settings
    else last.reserves.get? asset = pool.reserves.get? asset := by
  have hm1 := h1.market
  have hm2 := h2.market
  cases hw2 : second.writesMarket with
  | true =>
    rw [hw2] at hm2
    rw [Bool.or_true]
    exact hm2
  | false =>
    obtain rfl := h2.unwritten hw2
    rw [hw2] at hm2
    rw [Bool.or_false]
    have hkept : last.reserves.get? asset = next.reserves.get? asset := hm2
    rw [hkept]
    exact hm1

/-- two plain steps in both orders: the market ends up the same -/
theorem PlainStep.confluent {second : Action} {left right : Pool} {start l r s t : Reserve}
    (h1 : PlainStep now asset settings action pool left start l) (h2 : PlainStep now asset settings second left last l s)
    (h1' : PlainStep now asset settings second pool right start r)
    (h2' : PlainStep now asset settings action right other r t) (hfirst : Reserve.SameChange start l r t)
    (hsecond : Reserve.SameChange start r l s) : other.reserves.get? asset = last.reserves.get? asset := by
  have hlast := h1.pair h2
  have hother := h1'.pair h2'
  rw [Bool.or_comm] at hother
  split at hlast
  · next hwrites =>
    rw [if_pos hwrites] at hother
    obtain ⟨havailable, hunbacked, hsupply, hdebt⟩ := hfirst.diamond hsecond
    have hbase : t.base = s.base := by rw [h2'.base, h1'.base, h2.base, h1.base]
    rw [hlast.1, hother.1, hlast.2.eq_of_base hother.2 hbase havailable hunbacked hsupply hdebt]
  · next hwrites =>
    rw [if_neg hwrites] at hother
    exact hother.trans hlast.symm

theorem Effect.listed (h : Effect now pool next action) (hp : pool.WellFormed) (hplain : action.PlainOn asset) :
    ∃ settings, pool.configs.get? asset = some settings := by
  cases hplain with
  | account _ =>
    cases h with
    | account hsettings _ _ _ => exact ⟨_, hsettings⟩
  | transfer =>
    cases h with
    | selfTransfer market _ _ _ _ => exact hp.settingsOf market
    | transfer market _ _ _ _ _ => exact hp.settingsOf market

/-- **Two plain actions of different users, in both orders: the market ends up the same, and what each action makes of
the positions of its users is the same but for the rates that they earn.** -/
theorem plain_square (h : Reachable pool) {first second : Action} (hf : first.PlainOn asset)
    (hs : second.PlainOn asset) (hd : List.Disjoint first.users second.users) {left right : Pool}
    (hleft : pool.apply ⟨now, first⟩ = .ok left) (hlast : left.apply ⟨now, second⟩ = .ok last)
    (hright : pool.apply ⟨now, second⟩ = .ok right) (hother : right.apply ⟨now, first⟩ = .ok other) :
    other.reserves.get? asset = last.reserves.get? asset ∧ (∀ u ∈ first.users, ReratedAt ⟨u, asset⟩ left other) ∧
      ∀ u ∈ second.users, ReratedAt ⟨u, asset⟩ right last := by
  have hreach := h.apply hleft
  have hreach' := h.apply hright
  have hframe := (act_effect h.wellFormed hleft).frame h.wellFormed
  have hframe' := (act_effect h.wellFormed hright).frame h.wellFormed
  obtain ⟨settings, hc⟩ := (act_effect h.wellFormed hleft).listed h.wellFormed hf
  have hcLeft : left.configs.get? asset = some settings := by rw [hframe.configs, hc]
  have hcRight : right.configs.get? asset = some settings := by rw [hframe'.configs, hc]
  -- the four steps, along both sides of the square
  obtain ⟨start, l, hstep⟩ := plain_market h hc hf hleft
  obtain ⟨_, s, hstepLast⟩ := plain_market hreach hcLeft hs hlast
  obtain ⟨_, r, hstep'⟩ := plain_market h hc hs hright
  obtain ⟨_, t, hstepOther⟩ := plain_market hreach' hcRight hf hother
  obtain rfl := hstep.after.eq hstepLast.before
  obtain rfl := hstep.before.eq hstep'.before
  obtain rfl := hstep'.after.eq hstepOther.before
  -- the users of one action have not been touched by the other, so each makes the same change on both sides
  obtain ⟨hchange, hfirst⟩ := plain_alike h hreach' hframe'.config hc hcRight hf
    (fun u hu => hframe'.positions_of_plain hs fun _ hm => hd hu hm) hstep hstepOther hstep'.base hleft hother
  obtain ⟨hchange', hsecond⟩ := plain_alike h hreach hframe.config hc hcLeft hs
    (fun u hu => hframe.positions_of_plain hf fun _ hm => hd hm hu) hstep' hstepLast hstep.base hright hlast
  exact ⟨hstep.confluent hstepLast hstep' hstepOther hchange hchange', hfirst, hsecond⟩

/-- **When two plain actions of different users go through in both orders at one time, they lead to the same markets,
and to the same positions but for the rates that the positions of these users earn.** -/
theorem submit_same_time (h : Reachable pool) {first second : Action} (hf : first.PlainOn asset)
    (hs : second.PlainOn asset) (hd : List.Disjoint first.users second.users)
    (h1 : pool.submit [⟨now, first⟩, ⟨now, second⟩] = .ok last)
    (h2 : pool.submit [⟨now, second⟩, ⟨now, first⟩] = .ok other) :
    other.config = last.config ∧ other.configs = last.configs ∧ other.reserves = last.reserves ∧
      ∀ key, other.positions.get? key = last.positions.get? key ∨
        (key.asset = asset ∧ key.owner ∈ first.users ++ second.users ∧
          ∃ p rate, last.positions.get? key = some p ∧
            other.positions.get? key = some { p with liquidityRate := rate }) := by
  obtain ⟨left, hleft, hlast⟩ := submit_pair.1 h1
  obtain ⟨right, hright, hother⟩ := submit_pair.1 h2
  obtain ⟨hmarket, hfirst, hsecond⟩ := plain_square h hf hs hd hleft hlast hright hother
  have hp := (h.apply hleft).wellFormed
  have hp' := (h.apply hright).wellFormed
  have hframe := (act_effect h.wellFormed hleft).frame h.wellFormed
  have hframeLast := (act_effect hp hlast).frame hp
  have hframe' := (act_effect h.wellFormed hright).frame h.wellFormed
  have hframeOther := (act_effect hp' hother).frame hp'
  refine ⟨?_, ?_, Table.ext_get? fun a => ?_, fun key => ?_⟩
  · rw [hframeOther.config, hframe'.config, hframeLast.config, hframe.config]
  · rw [hframeOther.configs, hframe'.configs, hframeLast.configs, hframe.configs]
  · by_cases ha : a = asset
    · rw [ha, hmarket]
    · rw [hframeOther.reserves_of_plain hf ha, hframe'.reserves_of_plain hs ha, hframeLast.reserves_of_plain hs ha,
        hframe.reserves_of_plain hf ha]
  · obtain ⟨owner, a⟩ := key
    by_cases hplace : a = asset ∧ owner ∈ first.users ++ second.users
    · obtain ⟨rfl, howner⟩ := hplace
      refine .inr ⟨rfl, howner, ?_⟩
      rcases List.mem_append.1 howner with hu | hu
      · obtain ⟨p, rate, hp, hq⟩ := hfirst owner hu
        exact ⟨p, rate, (hframeLast.positions_of_plain hs fun _ hm => hd hu hm).trans hp, hq⟩
      · obtain ⟨p, rate, hp, hq⟩ := (hsecond owner hu).symm
        exact ⟨p, rate, hp, (hframeOther.positions_of_plain hf fun _ hm => hd hm hu).trans hq⟩
    · have hn1 : a = asset → owner ∉ first.users := fun ha hm => hplace ⟨ha, List.mem_append_left _ hm⟩
      have hn2 : a = asset → owner ∉ second.users := fun ha hm => hplace ⟨ha, List.mem_append_right _ hm⟩
      refine .inl ?_
      rw [hframeOther.positions_of_plain hf hn1, hframe'.positions_of_plain hs hn2,
        hframeLast.positions_of_plain hs hn2, hframe.positions_of_plain hf hn1]

/-- a withdrawal and a repayment at one time: the market ends up the same, but the supplier is told the rate from before
the repayment or the one after it -/
theorem submit_same_time_repayment :
    ∃ pool last other, runFrom Sample.poolConfig Sample.borrowed = .ok pool ∧
      pool.submit [⟨500, .account Sample.supplier Sample.debt (.withdraw (Sample.tokens 10))⟩,
        ⟨500, .account Sample.borrower Sample.debt (.repay (Sample.tokens 20) .variableRate)⟩] = .ok last ∧
      pool.submit [⟨500, .account Sample.borrower Sample.debt (.repay (Sample.tokens 20) .variableRate)⟩,
        ⟨500, .account Sample.supplier Sample.debt (.withdraw (Sample.tokens 10))⟩] = .ok other ∧
      other.reserves = last.reserves ∧
      other.positions.get? ⟨Sample.supplier, Sample.debt⟩ ≠ last.positions.get? ⟨Sample.supplier, Sample.debt⟩ := by
  obtain ⟨pool, hrun, last, hlast, other, hother, hne⟩ :
      ∃ pool, runFrom Sample.poolConfig Sample.borrowed = .ok pool ∧
        ∃ last, pool.submit [⟨500, .account Sample.supplier Sample.debt (.withdraw (Sample.tokens 10))⟩,
          ⟨500, .account Sample.borrower Sample.debt (.repay (Sample.tokens 20) .variableRate)⟩] = .ok last ∧
        ∃ other, pool.submit [⟨500, .account Sample.borrower Sample.debt (.repay (Sample.tokens 20) .variableRate)⟩,
          ⟨500, .account Sample.supplier Sample.debt (.withdraw (Sample.tokens 10))⟩] = .ok other ∧
        other.positions.get? ⟨Sample.supplier, Sample.debt⟩ ≠ last.positions.get? ⟨Sample.supplier, Sample.debt⟩ := by
    decide +kernel
  have hreach : Reachable pool := Reaches.of_runFrom (fun _ _ => trivial) hrun
  have husers : List.Disjoint [Sample.supplier] [Sample.borrower] := List.singleton_disjoint.2 (by decide)
  have hwithdraw : (Action.account Sample.supplier Sample.debt (.withdraw (Sample.tokens 10))).PlainOn Sample.debt :=
    .account trivial
  have hrepay : Action.PlainOn Sample.debt
      (.account Sample.borrower Sample.debt (.repay (Sample.tokens 20) .variableRate)) := .account rfl
  obtain ⟨_, _, hreserves, _⟩ := submit_same_time hreach hwithdraw hrepay husers hlast hother
  exact ⟨pool, last, other, hrun, hlast, hother, hreserves, hne⟩

end Pool

end Lending
