/-
What it means for a pool to be rewritten, and what follows for look-ups and sums.

`WellFormed` is the pool's bookkeeping: every reserve and every position is stored under its own key, positions exist in
listed markets only, and all settings were accepted. `Writes pool next rs ps` says that `next` is `pool` with the stored
reserves `rs` and positions `ps`, each given with what it was before, rewritten in their places. From it alone follow
where every stored value comes from (`Writes.reserve_cases`, `Writes.position_cases`), that the bookkeeping is kept
(`Writes.wellFormed`), and by how much the gap of a tally changes (`Writes.gap`).
-/
import Mathlib.Algebra.Group.Nat.Hom
import Mathlib.Algebra.Order.BigOperators.Group.List
import Lending.Proofs.Account

namespace Lending

open Ranked (rank)

/-! ## Sums over a table -/

section Table

variable {κ α : Type} [Ranked κ]

/-- putting an entry adds its value to a sum and removes that of the entry it replaces -/
theorem Entries.sum_put (k : κ) (v : α) (g : α → ℤ) {entries : List (κ × α)} (h : Entries.Ascending entries) :
    ((Entries.put k v entries).map fun e => g e.2).sum =
      (entries.map fun e => g e.2).sum + g v - ((Entries.find? k entries).map g).getD 0 := by
  induction entries with
  | nil => simp [Entries.put, Entries.find?]
  | cons x rest ih =>
    obtain ⟨l, w⟩ := x
    have hx := List.pairwise_cons.1 h
    have hrest := ih hx.2
    rcases Nat.lt_trichotomy (rank k) (rank l) with hlt | heq | hgt
    · have hnone : Entries.find? k rest = none := Entries.find?_eq_none fun e he => hlt.trans (hx.1 e he)
      simp only [Entries.put, if_pos hlt, Entries.find?, if_neg hlt.ne, hnone, List.map_cons, List.sum_cons,
        Option.map_none, Option.getD_none]
      omega
    · simp only [Entries.put, Entries.find?, heq, lt_irrefl, if_false, if_true, List.map_cons, List.sum_cons,
        Option.map_some, Option.getD_some]
      omega
    · simp only [Entries.put, Entries.find?, if_neg hgt.not_gt, if_neg hgt.ne', List.map_cons, List.sum_cons]
      omega

theorem Table.sum_insert (t : Table κ α) (k : κ) (v : α) (g : α → ℤ) :
    ((t.insert k v).values.map g).sum = (t.values.map g).sum + g v - ((t.get? k).map g).getD 0 := by
  have := Entries.sum_put k v g t.ascending
  simpa only [Table.values, Table.insert, Table.get?, List.map_map, Function.comp_def] using this

theorem Entries.find?_of_mem {k : κ} {v : α} {entries : List (κ × α)} (h : Entries.Ascending entries)
    (hm : (k, v) ∈ entries) : Entries.find? k entries = some v := by
  induction entries with
  | nil => cases hm
  | cons x rest ih =>
    obtain ⟨l, w⟩ := x
    have hx := List.pairwise_cons.1 h
    rcases List.mem_cons.1 hm with heq | hm
    · cases heq
      exact if_pos rfl
    · rw [Entries.find?, if_neg (hx.1 _ hm).ne']
      exact ih hx.2 hm

theorem Entries.mem_of_find? {k : κ} {v : α} {entries : List (κ × α)} (h : Entries.find? k entries = some v) :
    (k, v) ∈ entries := by
  induction entries with
  | nil => cases h
  | cons x rest ih =>
    obtain ⟨l, w⟩ := x
    unfold Entries.find? at h
    split at h
    · next heq =>
      obtain rfl := Ranked.rank_inj heq
      cases h
      exact List.mem_cons_self
    · exact List.mem_cons_of_mem _ (ih h)

theorem Table.mem_values {t : Table κ α} {v : α} : v ∈ t.values ↔ ∃ k, t.get? k = some v := by
  unfold Table.values
  rw [List.mem_map]
  constructor
  · rintro ⟨⟨k, w⟩, hm, rfl⟩
    exact ⟨k, Entries.find?_of_mem t.ascending hm⟩
  · rintro ⟨k, hk⟩
    exact ⟨(k, v), Entries.mem_of_find? hk, rfl⟩

theorem Table.not_has_iff {t : Table κ α} {k : κ} : ¬ t.Has k ↔ t.get? k = none := by
  rw [Table.Has, Option.isSome_iff_ne_none, not_not]

theorem Table.get?_insert (t : Table κ α) [DecidableEq κ] (k l : κ) (v : α) :
    (t.insert k v).get? l = if l = k then some v else t.get? l := by
  split
  · next h => rw [h, Table.get?_insert_self]
  · next h => exact t.get?_insert_ne v h

/-! ## Several entries at once -/

/-- the table with the values of all these entries set, the first of the list first -/
def Table.insertAll (t : Table κ α) (entries : List (κ × α)) : Table κ α :=
  entries.foldl (fun t e => t.insert e.1 e.2) t

theorem Table.get?_insertAll_of_notMem {entries : List (κ × α)} {k : κ} (h : k ∉ entries.map Prod.fst)
    (t : Table κ α) : (t.insertAll entries).get? k = t.get? k := by
  induction entries generalizing t with
  | nil => rfl
  | cons e entries ih =>
    rw [List.map_cons, List.mem_cons, not_or] at h
    exact (ih h.2 _).trans (t.get?_insert_ne e.2 h.1)

theorem Table.get?_insertAll_of_mem {entries : List (κ × α)} (hd : (entries.map Prod.fst).Nodup) {k : κ} {v : α}
    (h : (k, v) ∈ entries) (t : Table κ α) : (t.insertAll entries).get? k = some v := by
  induction entries generalizing t with
  | nil => cases h
  | cons e entries ih =>
    rw [List.map_cons, List.nodup_cons] at hd
    rcases List.mem_cons.1 h with rfl | h
    · exact (Table.get?_insertAll_of_notMem hd.1 _).trans (t.get?_insert_self k v)
    · exact ih hd.2 h _

/-- a value of the new table is one of those set, or an old one that none of them replaced -/
theorem Table.get?_insertAll_cases {entries : List (κ × α)} {t : Table κ α} {k : κ} {v : α}
    (h : (t.insertAll entries).get? k = some v) :
    (k, v) ∈ entries ∨ (k ∉ entries.map Prod.fst ∧ t.get? k = some v) := by
  induction entries generalizing t with
  | nil => exact .inr ⟨List.not_mem_nil, h⟩
  | cons e entries ih =>
    rcases ih h with h | ⟨hk, h⟩
    · exact .inl (List.mem_cons_of_mem _ h)
    · by_cases he : k = e.1
      · rw [he, Table.get?_insert_self] at h
        cases h
        exact .inl (by rw [he]; exact List.mem_cons_self)
      · rw [Table.get?_insert_ne _ _ he] at h
        refine .inr ⟨?_, h⟩
        rw [List.map_cons, List.mem_cons, not_or]
        exact ⟨he, hk⟩

theorem Table.sum_insertAll {entries : List (κ × α)} (hd : (entries.map Prod.fst).Nodup) (g : α → ℤ)
    (t : Table κ α) : ((t.insertAll entries).values.map g).sum =
      (t.values.map g).sum + (entries.map fun e => g e.2 - ((t.get? e.1).map g).getD 0).sum := by
  induction entries generalizing t with
  | nil => simp [Table.insertAll]
  | cons e entries ih =>
    rw [List.map_cons, List.nodup_cons] at hd
    have hrest : (entries.map fun d => g d.2 - (((t.insert e.1 e.2).get? d.1).map g).getD 0) =
        entries.map fun d => g d.2 - ((t.get? d.1).map g).getD 0 := by
      refine List.map_congr_left fun d hm => ?_
      have hne : d.1 ≠ e.1 := fun heq => hd.1 (heq ▸ List.mem_map_of_mem (f := Prod.fst) hm)
      rw [t.get?_insert_ne e.2 hne]
    have := ih hd.2 (t.insert e.1 e.2)
    rw [hrest, Table.sum_insert] at this
    rw [List.map_cons, List.sum_cons]
    simp only [Table.insertAll, List.foldl_cons] at this ⊢
    omega

/-- what a look-up is worth changes by the one entry at its key, if there is one -/
theorem Table.getD_insertAll {entries : List (κ × α)} (hd : (entries.map Prod.fst).Nodup) [DecidableEq κ] (g : α → ℤ)
    (k : κ) (t : Table κ α) : (((t.insertAll entries).get? k).map g).getD 0 =
      ((t.get? k).map g).getD 0 +
        (entries.map fun e => if e.1 = k then g e.2 - ((t.get? e.1).map g).getD 0 else 0).sum := by
  induction entries generalizing t with
  | nil => simp [Table.insertAll]
  | cons e entries ih =>
    rw [List.map_cons, List.nodup_cons] at hd
    have hrest : (entries.map fun d => if d.1 = k then g d.2 - (((t.insert e.1 e.2).get? d.1).map g).getD 0 else 0) =
        entries.map fun d => if d.1 = k then g d.2 - ((t.get? d.1).map g).getD 0 else 0 := by
      refine List.map_congr_left fun d hm => ?_
      have hne : d.1 ≠ e.1 := fun heq => hd.1 (heq ▸ List.mem_map_of_mem (f := Prod.fst) hm)
      rw [t.get?_insert_ne e.2 hne]
    have := ih hd.2 (t.insert e.1 e.2)
    rw [hrest, Table.get?_insert] at this
    rw [List.map_cons, List.sum_cons]
    simp only [Table.insertAll, List.foldl_cons] at this ⊢
    rw [this]
    by_cases he : k = e.1
    · subst he
      simp only [if_true, Option.map_some, Option.getD_some]
      omega
    · rw [if_neg he, if_neg (Ne.symm he)]
      omega

end Table

theorem sum_map_filter {α : Type} (p : α → Bool) (g : α → ℤ) (l : List α) :
    ((l.filter p).map g).sum = (l.map fun a => if p a then g a else 0).sum := by
  induction l with
  | nil => rfl
  | cons a l ih => by_cases h : p a <;> simp [h, ih]

/-- a sum of amounts may be taken over the integers -/
theorem cast_sum_map (f : Position → Nat) (l : List Position) :
    ((l.map f).sum : ℤ) = (l.map fun p => (f p : ℤ)).sum := by
  have hcast := map_list_sum (Nat.castAddMonoidHom ℤ) (l.map f)
  rwa [List.map_map] at hcast

namespace Pool

/-! ## Sums over a pool -/

/-- the stored positions in the market of an asset -/
def positionsIn (asset : Address) (pool : Pool) : List Position :=
  pool.positions.values.filter fun p => p.asset = asset

/-- the sum of the parts that the positions in a market hold -/
def partsOf (t : Tally) (asset : Address) (pool : Pool) : ℤ := ((pool.positionsIn asset).map t.part).sum

/-- the total that a market keeps; an asset without a market has none -/
def totalOf (t : Tally) (asset : Address) (pool : Pool) : ℤ := ((pool.reserves.get? asset).map t.total).getD 0

/-- the total that a market keeps less the parts that its positions hold -/
def gap (t : Tally) (asset : Address) (pool : Pool) : ℤ := pool.totalOf t asset - pool.partsOf t asset

/-! ## Bookkeeping -/

/-- every value is stored under its own key, in a listed market, under settings that were accepted -/
structure WellFormed (pool : Pool) : Prop where
  config : pool.config.Valid
  settings : ∀ {asset settings}, pool.configs.get? asset = some settings → settings.Valid
  listed : ∀ asset, pool.configs.Has asset ↔ pool.reserves.Has asset
  asset : ∀ {asset reserve}, pool.reserves.get? asset = some reserve → reserve.asset = asset
  key : ∀ {key position}, pool.positions.get? key = some position → position.key = key
  market : ∀ {key position}, pool.positions.get? key = some position → pool.reserves.Has key.asset

theorem has_of_get? {pool : Pool} {asset : Address} {r : Reserve} (h : pool.reserves.get? asset = some r) :
    pool.reserves.Has asset := by
  unfold Table.Has
  rw [h]
  rfl

/-- every market has settings -/
theorem WellFormed.settingsOf {pool : Pool} (h : pool.WellFormed) {asset : Address} {r : Reserve}
    (hr : pool.reserves.get? asset = some r) : ∃ settings, pool.configs.get? asset = some settings :=
  Option.isSome_iff_exists.1 ((h.listed asset).2 (has_of_get? hr))

theorem reserveOf_eq_ok {pool : Pool} {asset : Address} {r : Reserve} :
    pool.reserveOf asset = .ok r ↔ pool.reserves.get? asset = some r := by
  unfold reserveOf
  split
  · next s hs => rw [hs]; exact ⟨fun h => by cases h; rfl, fun h => by cases h; rfl⟩
  · next hs => rw [hs]; exact ⟨nofun, nofun⟩

theorem configOf_eq_ok {pool : Pool} {asset : Address} {c : ReserveConfig} :
    pool.configOf asset = .ok c ↔ pool.configs.get? asset = some c := by
  unfold configOf
  split
  · next s hs => rw [hs]; exact ⟨fun h => by cases h; rfl, fun h => by cases h; rfl⟩
  · next hs => rw [hs]; exact ⟨nofun, nofun⟩

theorem positionOf_eq_ok {pool : Pool} {owner asset : Address} {p : Position} :
    pool.positionOf owner asset = .ok p ↔
      pool.reserves.Has asset ∧ p = (pool.positions.get? ⟨owner, asset⟩).getD (.empty owner asset 0) := by
  simp only [positionOf, bind_eq_ok, require_eq_ok]
  constructor
  · rintro ⟨_, hh, h⟩
    cases h
    exact ⟨hh, rfl⟩
  · rintro ⟨hh, rfl⟩
    exact ⟨(), hh, rfl⟩

/-- a position that is looked up is in its place, whether it was written before or not -/
theorem WellFormed.key_of_positionOf {pool : Pool} (h : pool.WellFormed) {owner asset : Address} {p : Position}
    (hp : pool.positionOf owner asset = .ok p) : p.key = ⟨owner, asset⟩ := by
  obtain ⟨_, rfl⟩ := positionOf_eq_ok.1 hp
  cases hg : pool.positions.get? ⟨owner, asset⟩ with
  | none => rfl
  | some q => exact h.key hg

theorem WellFormed.asset_of_positionOf {pool : Pool} (h : pool.WellFormed) {owner asset : Address} {p : Position}
    (hp : pool.positionOf owner asset = .ok p) : p.asset = asset :=
  congrArg PositionKey.asset (h.key_of_positionOf hp)

/-- an asset without a market has no positions -/
theorem WellFormed.positionsIn_unlisted {pool : Pool} (h : pool.WellFormed) {asset : Address}
    (hr : pool.reserves.get? asset = none) : pool.positionsIn asset = [] := by
  apply List.filter_eq_nil_iff.2
  intro p hm
  rw [decide_eq_true_eq]
  rintro rfl
  obtain ⟨key, hk⟩ := Table.mem_values.1 hm
  have hmarket := h.market hk
  rw [← h.key hk] at hmarket
  exact Table.not_has_iff.2 hr hmarket

/-- in a market without a gap, the total covers the part of each position -/
theorem WellFormed.part_le {pool : Pool} (h : pool.WellFormed) {t : Tally} (hpos : ∀ p, 0 ≤ t.part p)
    {asset : Address} (hgap : pool.gap t asset = 0) {r : Reserve} (hr : pool.reserves.get? asset = some r)
    {owner : Address} {p : Position} (hp : pool.positionOf owner asset = .ok p) : t.part p ≤ t.total r := by
  have hparts : ∀ x ∈ (pool.positionsIn asset).map t.part, 0 ≤ x := by
    intro x hx
    obtain ⟨q, _, rfl⟩ := List.mem_map.1 hx
    exact hpos q
  have htotal : t.total r = ((pool.positionsIn asset).map t.part).sum := by
    simp only [gap, totalOf, partsOf, hr, Option.map_some, Option.getD_some] at hgap
    omega
  rw [htotal]
  have hasset := h.asset_of_positionOf hp
  obtain ⟨_, hq⟩ := positionOf_eq_ok.1 hp
  cases hg : pool.positions.get? ⟨owner, asset⟩ with
  | none =>
    rw [hg, Option.getD_none] at hq
    rw [hq, t.part_empty]
    exact List.sum_nonneg hparts
  | some q =>
    rw [hg, Option.getD_some] at hq
    rw [← hq] at hg
    have hmem : p ∈ pool.positionsIn asset := List.mem_filter.2 ⟨Table.mem_values.2 ⟨_, hg⟩, by simpa using hasset⟩
    exact List.single_le_sum hparts _ (List.mem_map_of_mem hmem)

/-! ## Writing -/

/-- writes reserves and then positions, the first of each list first -/
def rewrite (pool : Pool) (rs : List Reserve) (ps : List Position) : Pool :=
  ps.foldl putPosition (rs.foldl putReserve pool)

theorem foldl_putReserve (rs : List Reserve) (pool : Pool) :
    rs.foldl putReserve pool =
      { pool with reserves := pool.reserves.insertAll (rs.map fun r => (r.asset, r)) } := by
  induction rs generalizing pool with
  | nil => rfl
  | cons r rs ih => rw [List.foldl_cons, ih]; rfl

theorem foldl_putPosition (ps : List Position) (pool : Pool) :
    ps.foldl putPosition pool =
      { pool with positions := pool.positions.insertAll (ps.map fun p => (p.key, p)) } := by
  induction ps generalizing pool with
  | nil => rfl
  | cons p ps ih => rw [List.foldl_cons, ih]; rfl

theorem rewrite_eq (pool : Pool) (rs : List Reserve) (ps : List Position) :
    pool.rewrite rs ps =
      { pool with
        reserves := pool.reserves.insertAll (rs.map fun r => (r.asset, r))
        positions := pool.positions.insertAll (ps.map fun p => (p.key, p)) } := by
  unfold rewrite
  rw [foldl_putReserve, foldl_putPosition]

/-- `next` is `pool` with stored reserves and positions rewritten in their places; each comes as the pair of what it was
and what it is -/
structure Writes (pool next : Pool) (rs : List (Reserve × Reserve)) (ps : List (Position × Position)) : Prop where
  result : next = pool.rewrite (rs.map Prod.snd) (ps.map Prod.snd)
  reserve : ∀ w ∈ rs, pool.reserves.get? w.1.asset = some w.1 ∧ w.2.listing = w.1.listing
  position : ∀ w ∈ ps, pool.positionOf w.1.owner w.1.asset = .ok w.1 ∧ w.2.key = w.1.key
  reserves_nodup : (rs.map fun w => w.1.asset).Nodup
  positions_nodup : (ps.map fun w => w.1.key).Nodup

namespace Writes

variable {pool next : Pool} {rs : List (Reserve × Reserve)} {ps : List (Position × Position)}

theorem reserves_eq (h : Writes pool next rs ps) :
    next.reserves = pool.reserves.insertAll (rs.map fun w => (w.1.asset, w.2)) := by
  rw [h.result, rewrite_eq]
  refine congrArg pool.reserves.insertAll ?_
  rw [List.map_map]
  refine List.map_congr_left fun w hw => ?_
  simp only [Function.comp, Reserve.asset, (h.reserve w hw).2]

theorem positions_eq (h : Writes pool next rs ps) :
    next.positions = pool.positions.insertAll (ps.map fun w => (w.1.key, w.2)) := by
  rw [h.result, rewrite_eq]
  refine congrArg pool.positions.insertAll ?_
  rw [List.map_map]
  refine List.map_congr_left fun w hw => ?_
  simp only [Function.comp, (h.position w hw).2]

theorem config_eq (h : Writes pool next rs ps) : next.config = pool.config := by
  rw [h.result, rewrite_eq]

theorem configs_eq (h : Writes pool next rs ps) : next.configs = pool.configs := by
  rw [h.result, rewrite_eq]

/-- a stored reserve is one that was written, or an old one that was not -/
theorem reserve_cases (h : Writes pool next rs ps) {asset : Address} {r : Reserve}
    (hr : next.reserves.get? asset = some r) :
    (∃ w ∈ rs, w.1.asset = asset ∧ w.2 = r) ∨
      ((∀ w ∈ rs, w.1.asset ≠ asset) ∧ pool.reserves.get? asset = some r) := by
  rw [h.reserves_eq] at hr
  rcases Table.get?_insertAll_cases hr with hm | ⟨hn, hr⟩
  · obtain ⟨w, hw, he⟩ := List.mem_map.1 hm
    cases he
    exact .inl ⟨w, hw, rfl, rfl⟩
  · refine .inr ⟨fun w hw he => hn ?_, hr⟩
    rw [List.map_map]
    exact he ▸ List.mem_map_of_mem (f := Prod.fst ∘ fun w : Reserve × Reserve => (w.1.asset, w.2)) hw

theorem position_cases (h : Writes pool next rs ps) {key : PositionKey} {p : Position}
    (hp : next.positions.get? key = some p) :
    (∃ w ∈ ps, w.1.key = key ∧ w.2 = p) ∨
      ((∀ w ∈ ps, w.1.key ≠ key) ∧ pool.positions.get? key = some p) := by
  rw [h.positions_eq] at hp
  rcases Table.get?_insertAll_cases hp with hm | ⟨hn, hp⟩
  · obtain ⟨w, hw, he⟩ := List.mem_map.1 hm
    cases he
    exact .inl ⟨w, hw, rfl, rfl⟩
  · refine .inr ⟨fun w hw he => hn ?_, hp⟩
    rw [List.map_map]
    exact he ▸ List.mem_map_of_mem (f := Prod.fst ∘ fun w : Position × Position => (w.1.key, w.2)) hw

theorem get?_reserve (h : Writes pool next rs ps) {w : Reserve × Reserve} (hw : w ∈ rs) :
    next.reserves.get? w.1.asset = some w.2 := by
  have hm : (w.1.asset, w.2) ∈ rs.map fun w => (w.1.asset, w.2) := List.mem_map.2 ⟨w, hw, rfl⟩
  rw [h.reserves_eq]
  refine Table.get?_insertAll_of_mem ?_ hm _
  rw [List.map_map]
  exact h.reserves_nodup

theorem get?_reserve_of_ne (h : Writes pool next rs ps) {asset : Address} (hn : ∀ w ∈ rs, w.1.asset ≠ asset) :
    next.reserves.get? asset = pool.reserves.get? asset := by
  rw [h.reserves_eq]
  refine Table.get?_insertAll_of_notMem ?_ _
  rw [List.map_map]
  intro hm
  obtain ⟨w, hw, he⟩ := List.mem_map.1 hm
  exact hn w hw he

theorem get?_position (h : Writes pool next rs ps) {w : Position × Position} (hw : w ∈ ps) :
    next.positions.get? w.1.key = some w.2 := by
  have hm : (w.1.key, w.2) ∈ ps.map fun w => (w.1.key, w.2) := List.mem_map.2 ⟨w, hw, rfl⟩
  rw [h.positions_eq]
  refine Table.get?_insertAll_of_mem ?_ hm _
  rw [List.map_map]
  exact h.positions_nodup

theorem get?_position_of_ne (h : Writes pool next rs ps) {key : PositionKey} (hn : ∀ w ∈ ps, w.1.key ≠ key) :
    next.positions.get? key = pool.positions.get? key := by
  rw [h.positions_eq]
  refine Table.get?_insertAll_of_notMem ?_ _
  rw [List.map_map]
  intro hm
  obtain ⟨w, hw, he⟩ := List.mem_map.1 hm
  exact hn w hw he

/-- the listed markets stay the same -/
theorem has_iff (h : Writes pool next rs ps) (asset : Address) :
    next.reserves.Has asset ↔ pool.reserves.Has asset := by
  by_cases hw : ∃ w ∈ rs, w.1.asset = asset
  · obtain ⟨w, hw, rfl⟩ := hw
    exact ⟨fun _ => has_of_get? (h.reserve w hw).1, fun _ => has_of_get? (h.get?_reserve hw)⟩
  · have hn : ∀ w ∈ rs, w.1.asset ≠ asset := fun w hm he => hw ⟨w, hm, he⟩
    unfold Table.Has
    rw [h.get?_reserve_of_ne hn]

theorem wellFormed (h : Writes pool next rs ps) (hp : pool.WellFormed) : next.WellFormed where
  config := by
    rw [h.config_eq]
    exact hp.config
  settings := by
    rw [h.configs_eq]
    exact hp.settings
  listed := by
    intro asset
    rw [h.configs_eq, h.has_iff]
    exact hp.listed asset
  asset := by
    intro asset r hr
    rcases h.reserve_cases hr with ⟨w, hw, rfl, rfl⟩ | ⟨_, hr⟩
    · exact congrArg Listing.asset (h.reserve w hw).2
    · exact hp.asset hr
  key := by
    intro key p hq
    rcases h.position_cases hq with ⟨w, hw, rfl, rfl⟩ | ⟨_, hq⟩
    · exact (h.position w hw).2
    · exact hp.key hq
  market := by
    intro key p hq
    rw [h.has_iff]
    rcases h.position_cases hq with ⟨w, hw, rfl, rfl⟩ | ⟨_, hq⟩
    · exact (positionOf_eq_ok.1 (h.position w hw).1).1
    · exact hp.market hq

/-! ### Tallies -/

theorem totalOf (h : Writes pool next rs ps) (t : Tally) (asset : Address) :
    next.totalOf t asset = pool.totalOf t asset +
      (rs.map fun w => if w.1.asset = asset then t.total w.2 - t.total w.1 else 0).sum := by
  unfold Pool.totalOf
  rw [h.reserves_eq, Table.getD_insertAll, List.map_map]
  · congr 2
    refine List.map_congr_left fun w hw => ?_
    simp only [Function.comp, (h.reserve w hw).1, Option.map_some, Option.getD_some]
  · rw [List.map_map]
    exact h.reserves_nodup

/-- what the place of a position held before it was written, counted in the market of `asset` -/
theorem part_before (h : Writes pool next rs ps) (t : Tally) (asset : Address) {w : Position × Position}
    (hw : w ∈ ps) :
    ((pool.positions.get? w.1.key).map fun p => if p.asset = asset then t.part p else 0).getD 0 =
      if w.1.asset = asset then t.part w.1 else 0 := by
  obtain ⟨_, hq⟩ := positionOf_eq_ok.1 (h.position w hw).1
  have hkey : (⟨w.1.owner, w.1.asset⟩ : PositionKey) = w.1.key := rfl
  rw [hkey] at hq
  cases hg : pool.positions.get? w.1.key with
  | none =>
    rw [hg, Option.getD_none] at hq
    have hzero : t.part w.1 = 0 := by
      rw [hq]
      exact t.part_empty _ _
    simp [hzero]
  | some q =>
    rw [hg, Option.getD_some] at hq
    rw [← hq]
    rfl

theorem partsOf (h : Writes pool next rs ps) (t : Tally) (asset : Address) :
    next.partsOf t asset = pool.partsOf t asset +
      (ps.map fun w => if w.1.asset = asset then t.part w.2 - t.part w.1 else 0).sum := by
  unfold Pool.partsOf positionsIn
  rw [sum_map_filter, sum_map_filter, h.positions_eq, Table.sum_insertAll, List.map_map]
  · congr 2
    refine List.map_congr_left fun w hw => ?_
    have hasset : w.2.asset = w.1.asset := congrArg PositionKey.asset (h.position w hw).2
    simp only [Function.comp, decide_eq_true_eq, h.part_before t asset hw, hasset]
    split <;> omega
  · rw [List.map_map]
    exact h.positions_nodup

/-- **The gap of a tally changes by what the written markets and positions change by.** -/
theorem gap (h : Writes pool next rs ps) (t : Tally) (asset : Address) :
    next.gap t asset = pool.gap t asset +
      (rs.map fun w => if w.1.asset = asset then t.total w.2 - t.total w.1 else 0).sum -
      (ps.map fun w => if w.1.asset = asset then t.part w.2 - t.part w.1 else 0).sum := by
  unfold Pool.gap
  rw [h.totalOf, h.partsOf]
  omega

end Writes

end Pool

end Lending
