/-
The ways a lending operation can be refused, and the monad in which every operation runs.

`Fault` has one constructor per cause, with its stable numeric code and its wording. A `Checked` computation either
returns a value or stops at the first cause it meets, so of two causes the one that is checked first is reported.
-/

namespace Lending

/-- why an operation is refused -/
inductive Fault where
  | overflow
  | divisionByZero
  | invariantViolation
  | badRequest
  | invalidConfig
  | reserveNotFound
  | mintCapExceeded
  deriving DecidableEq, Repr

namespace Fault

/-- the stable number of a cause: arithmetic causes are below 1200, the market's own start there -/
def code : Fault → Nat
  | overflow => 12
  | divisionByZero => 13
  | invariantViolation => 1200
  | badRequest => 1201
  | invalidConfig => 1202
  | reserveNotFound => 1203
  | mintCapExceeded => 1204

/-- the wording of a cause -/
def message : Fault → String
  | overflow => "arithmetic overflow"
  | divisionByZero => "division by zero"
  | invariantViolation => "invariant violation"
  | badRequest => "bad request"
  | invalidConfig => "invalid reserve config"
  | reserveNotFound => "reserve not found"
  | mintCapExceeded => "unbacked mint cap exceeded"

/-- every cause, in the order of the codes -/
def all : List Fault :=
  [overflow, divisionByZero, invariantViolation, badRequest, invalidConfig, reserveNotFound, mintCapExceeded]

theorem mem_all (f : Fault) : f ∈ all := by cases f <;> decide

theorem code_injective {f g : Fault} (h : f.code = g.code) : f = g := by
  cases f <;> cases g <;> first | rfl | exact absurd h (by decide)

end Fault

/-- a computation that returns a value or stops with a fault -/
abbrev Checked (α : Type) : Type := Except Fault α

/-- continues when the condition holds and stops with `fault` otherwise -/
def require (condition : Prop) [Decidable condition] (fault : Fault) : Checked Unit :=
  if condition then .ok () else .error fault

theorem require_eq_ok {p : Prop} [Decidable p] {f : Fault} {u : Unit} : require p f = .ok u ↔ p := by
  unfold require
  split <;> simp_all

theorem require_eq_error {p : Prop} [Decidable p] {f g : Fault} : require p f = .error g ↔ ¬ p ∧ f = g := by
  unfold require
  split <;> simp_all

theorem require_congr {p q : Prop} [Decidable p] [Decidable q] (h : p ↔ q) (f : Fault) : require p f = require q f := by
  unfold require
  simp only [h]

theorem ok_bind {α β : Type} (a : α) (f : α → Checked β) : (Except.ok a >>= f) = f a := rfl

/-- a sequence returns a value exactly when both of its halves do -/
theorem bind_eq_ok {α β : Type} {x : Checked α} {f : α → Checked β} {b : β} :
    x >>= f = .ok b ↔ ∃ a, x = .ok a ∧ f a = .ok b := by
  cases x with
  | ok a => exact ⟨fun h => ⟨a, rfl, h⟩, fun ⟨_, ha, h⟩ => by cases ha; exact h⟩
  | error e => exact ⟨nofun, fun ⟨_, ha, _⟩ => nomatch ha⟩

/-- a sequence stops with the fault of its first half, or else with that of its second -/
theorem bind_eq_error {α β : Type} {x : Checked α} {f : α → Checked β} {e : Fault} :
    x >>= f = .error e ↔ x = .error e ∨ ∃ a, x = .ok a ∧ f a = .error e := by
  cases x with
  | ok a => exact ⟨fun h => .inr ⟨a, rfl, h⟩, fun h => by
      rcases h with h | ⟨_, ha, h⟩
      · cases h
      · cases ha; exact h⟩
  | error e' => exact ⟨fun h => by cases h; exact .inl rfl, fun h => by
      rcases h with h | ⟨_, ha, _⟩
      · cases h; rfl
      · cases ha⟩

end Lending
