/-
Addresses of accounts and assets: twenty bytes, kept as the number they spell from the first byte on, so that the order
of the numbers is the order of the bytes.
-/

namespace Lending

/-- an address of twenty bytes -/
structure Address where
  toNat : Nat
  toNat_lt : toNat < Nat.pow 2 160
  deriving DecidableEq

namespace Address

@[ext] theorem ext {a b : Address} (h : a.toNat = b.toNat) : a = b := by
  cases a; cases b; cases h; rfl

/-- the address spelled by the lowest twenty bytes of `n` -/
def ofNat (n : Nat) : Address := ⟨n % Nat.pow 2 160, Nat.mod_lt _ (Nat.two_pow_pos 160)⟩

instance : Inhabited Address := ⟨ofNat 0⟩
instance : Repr Address := ⟨fun a _ => repr a.toNat⟩

/-- the address whose twenty bytes are all `byte` -/
def repeated (byte : UInt8) : Address := ofNat ((List.replicate 20 byte.toNat).foldl (fun n b => n * 256 + b) 0)

end Address

end Lending
