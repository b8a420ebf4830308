/-
Which causes a computation can fail with.

`FailsOnly causes x` says that `x`, if it is refused, is refused for one of `causes`. It is the error half of a
specification: a sequence fails only with what its halves fail with (`FailsOnly.bind`), where the second half may be
judged knowing what the first returned. All arithmetic can overflow, so the lemmas on it ask that `causes` has
`overflow` and name the side condition under which nothing else happens: no divisor is zero, no difference is negative.
-/
import Lending.Proofs.Rounding

namespace Lending

/-- `x` is refused, if at all, for one of `causes` -/
def FailsOnly {α : Type} (causes : Fault → Prop) (x : Checked α) : Prop := ∀ f, x = .error f → causes f

variable {α β : Type} {S : Fault → Prop}

theorem failsOnly_ok (a : α) : FailsOnly S (.ok a) := nofun

theorem failsOnly_pure (a : α) : FailsOnly S (pure a : Checked α) := nofun

theorem failsOnly_error {f : Fault} (h : S f) : FailsOnly S (.error f : Checked α) := by
  intro g hg
  cases hg
  exact h

theorem FailsOnly.bind {x : Checked α} {g : α → Checked β} (hx : FailsOnly S x)
    (hg : ∀ a, x = .ok a → FailsOnly S (g a)) : FailsOnly S (x >>= g) := by
  intro f hf
  rcases bind_eq_error.1 hf with hf | ⟨a, ha, hf⟩
  · exact hx f hf
  · exact hg a ha f hf

/-- a first half that is known to go through is no cause -/
theorem FailsOnly.bind_ok {x : Checked α} {g : α → Checked β} {a : α} (hx : x = .ok a) (hg : FailsOnly S (g a)) :
    FailsOnly S (x >>= g) := by
  subst hx
  exact hg

theorem failsOnly_ite {p : Prop} [Decidable p] {x y : Checked α} (hx : p → FailsOnly S x)
    (hy : ¬ p → FailsOnly S y) : FailsOnly S (if p then x else y) := by
  split
  · next h => exact hx h
  · next h => exact hy h

theorem failsOnly_require {p : Prop} [Decidable p] {f : Fault} (h : ¬ p → S f) : FailsOnly S (require p f) := by
  intro g hg
  obtain ⟨hp, rfl⟩ := require_eq_error.1 hg
  exact h hp

/-! ## Evaluation -/

/-- a computation that returns something with a property is found by computing it -/
instance {α : Type} (x : Checked α) (p : α → Prop) [DecidablePred p] : Decidable (∃ a, x = .ok a ∧ p a) :=
  match x with
  | .ok a => decidable_of_iff (p a) ⟨fun h => ⟨a, rfl, h⟩, fun ⟨_, ha, h⟩ => Except.ok.inj ha ▸ h⟩
  | .error _ => isFalse fun ⟨_, ha, _⟩ => nomatch ha

/-- so is one whose result, if there is one, has a property -/
instance {α : Type} (x : Checked α) (p : α → Prop) [DecidablePred p] : Decidable (∀ a, x = .ok a → p a) :=
  match x with
  | .ok a => decidable_of_iff (p a) ⟨fun h _ ha => Except.ok.inj ha ▸ h, fun h => h a rfl⟩
  | .error _ => isTrue nofun

theorem exists_ok_iff {x : Checked α} {a : α} (h : x = .ok a) {p : α → Prop} : (∃ b, x = .ok b ∧ p b) ↔ p a := by
  subst h
  exact ⟨fun ⟨_, hb, hp⟩ => Except.ok.inj hb ▸ hp, fun hp => ⟨a, rfl, hp⟩⟩

/-- so is the fault of one that is refused -/
instance {α : Type} (x : Checked α) (f : Fault) : Decidable (x = .error f) :=
  match x with
  | .ok _ => isFalse nofun
  | .error g => decidable_of_iff (g = f) ⟨fun h => congrArg Except.error h, fun h => Except.error.inj h⟩

/-! ## Arithmetic -/

namespace UInt256

theorem failsOnly_fit (ho : S .overflow) (n : Nat) : FailsOnly S (fit n) := by
  intro f hf
  rw [(fit_eq_error.1 hf).2]
  exact ho

theorem failsOnly_add (ho : S .overflow) (a b : UInt256) : FailsOnly S (a.add b) := failsOnly_fit ho _

theorem failsOnly_mul (ho : S .overflow) (a b : UInt256) : FailsOnly S (a.mul b) := failsOnly_fit ho _

theorem failsOnly_product (ho : S .overflow) (factors : List UInt256) : FailsOnly S (product factors) := by
  unfold product
  generalize (1 : UInt256) = acc
  induction factors generalizing acc with
  | nil => exact failsOnly_pure acc
  | cons a rest ih =>
    rw [List.foldlM_cons]
    exact (failsOnly_mul ho acc a).bind fun next _ => ih next

theorem failsOnly_subOr {f : Fault} {a b : UInt256} (h : a.toNat < b.toNat → S f) : FailsOnly S (subOr f a b) := by
  intro g hg
  obtain ⟨hlt, rfl⟩ := subOr_eq_error.1 hg
  exact h hlt

theorem failsOnly_sub {a b : UInt256} (h : b.toNat ≤ a.toNat) : FailsOnly S (a.sub b) :=
  failsOnly_subOr fun hlt => absurd h (Nat.not_le.2 hlt)

theorem failsOnly_mulHalfUp (ho : S .overflow) (one : Nat) (a : UInt256) (b : Nat) :
    FailsOnly S (mulHalfUp one a b) :=
  (failsOnly_fit ho _).bind fun n _ => failsOnly_pure (n.divNat one)

theorem failsOnly_divHalfUp (ho : S .overflow) (one : Nat) (a : UInt256) {b : Nat} (hb : b ≠ 0) :
    FailsOnly S (divHalfUp one a b) :=
  (failsOnly_require fun h => absurd hb h).bind fun _ _ =>
    (failsOnly_fit ho _).bind fun n _ => failsOnly_pure (n.divNat b)

theorem failsOnly_rayMul (ho : S .overflow) (a b : UInt256) : FailsOnly S (a.rayMul b) := failsOnly_mulHalfUp ho _ a _

theorem failsOnly_rayDiv (ho : S .overflow) (a : UInt256) {b : UInt256} (hb : b.toNat ≠ 0) :
    FailsOnly S (a.rayDiv b) :=
  failsOnly_divHalfUp ho _ a hb

theorem failsOnly_percentMul (ho : S .overflow) (a : UInt256) (share : Nat) : FailsOnly S (a.percentMul share) :=
  failsOnly_mulHalfUp ho _ a _

theorem failsOnly_percentDiv (ho : S .overflow) (a : UInt256) {share : Nat} (hs : share ≠ 0) :
    FailsOnly S (a.percentDiv share) :=
  failsOnly_divHalfUp ho _ a hs

theorem failsOnly_wadToRay (ho : S .overflow) (a : UInt256) : FailsOnly S a.wadToRay := failsOnly_fit ho _

end UInt256

end Lending
