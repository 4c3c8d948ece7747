import Mathlib.Data.List.Basic
import Mathlib.Algebra.Group.Nat.Basic

/-!
# Results, panics and bytes

The library is Rust.  A function returning `Result<T, E>` is modelled as returning
`Except E T`.  A function that may also panic (`unwrap`, `expect`, `todo!()`, a failed
`debug_assert!`) returns in `Outcome`, whose failure is the panic with its message; a function
that does both returns `Outcome (Except E T)`.  "Never panics" is then a statement that the
`Outcome` is `.ok`.  The messages are the ones the standard library prints: `Result::unwrap`
and `Result::expect` end theirs with the `{:?}` text of the error, which `RustDebug` gives.

Byte strings (`Vec<u8>`, `&[u8]`, the contents of a `BytesMut`) are lists of bytes, and
`u32` values go to and from the wire in big-endian order (`be32`, `u32FromBeBytes`).
-/

namespace Libkrimes

/-- Byte strings: `Vec<u8>`, `&[u8]` and the contents of a `BytesMut`. -/
abbrev Bytes := List UInt8

/-- A Rust panic, with its message. -/
structure Panic where
  /-- The panic message. -/
  msg : String
  deriving Repr, DecidableEq

/-- A computation that returns a value or panics. -/
abbrev Outcome := Except Panic

/-- Rust's `{:?}` formatting, for the values a panic message prints. -/
class RustDebug (α : Type) where
  /-- The text `format!("{:?}", a)` gives. -/
  debug : α → String

namespace Outcome

/-- `Option::unwrap`. -/
def unwrap {α : Type} : Option α → Outcome α
  | some a => .ok a
  | none => .error ⟨"called `Option::unwrap()` on a `None` value"⟩

/-- `Result::unwrap`. -/
def unwrapOk {ε α : Type} [RustDebug ε] : Except ε α → Outcome α
  | .ok a => .ok a
  | .error e => .error ⟨"called `Result::unwrap()` on an `Err` value: " ++ RustDebug.debug e⟩

/-- `Result::expect(msg)`. -/
def expect {ε α : Type} [RustDebug ε] (msg : String) : Except ε α → Outcome α
  | .ok a => .ok a
  | .error e => .error ⟨msg ++ ": " ++ RustDebug.debug e⟩

/-- `todo!()`. -/
def todo {α : Type} : Outcome α := .error ⟨"not yet implemented"⟩

/-- `debug_assert!(cond)`, in a debug build. -/
def debugAssert (cond : Bool) (what : String) : Outcome Unit :=
  if cond then .ok () else .error ⟨"assertion failed: " ++ what⟩

@[simp] theorem unwrap_some {α : Type} (a : α) : unwrap (some a) = .ok a := rfl

@[simp] theorem unwrapOk_ok {ε α : Type} [RustDebug ε] (a : α) :
    unwrapOk (.ok a : Except ε α) = .ok a := rfl

@[simp] theorem expect_ok {ε α : Type} [RustDebug ε] (msg : String) (a : α) :
    expect msg (.ok a : Except ε α) = .ok a := rfl

@[simp] theorem expect_error {ε α : Type} [RustDebug ε] (msg : String) (e : ε) :
    expect msg (.error e : Except ε α) = .error ⟨msg ++ ": " ++ RustDebug.debug e⟩ := rfl

theorem unwrapOk_eq_ok {ε α : Type} [RustDebug ε] {r : Except ε α} {a : α} :
    unwrapOk r = .ok a ↔ r = .ok a := by
  cases r <;> simp [unwrapOk]

end Outcome

/-! ### Computing in `Except` -/

@[simp] theorem except_ok_bind {ε α β : Type} (a : α) (f : α → Except ε β) :
    (Except.ok a >>= f) = f a := rfl

@[simp] theorem except_error_bind {ε α β : Type} (e : ε) (f : α → Except ε β) :
    (Except.error e >>= f) = Except.error e := rfl

@[simp] theorem except_map_ok {ε α β : Type} (f : α → β) (a : α) :
    (f <$> (Except.ok a : Except ε α)) = Except.ok (f a) := rfl

@[simp] theorem except_map_error {ε α β : Type} (f : α → β) (e : ε) :
    (f <$> (Except.error e : Except ε α)) = Except.error e := rfl

@[simp] theorem except_pure {ε α : Type} (a : α) : (pure a : Except ε α) = Except.ok a := rfl

@[simp] theorem except_bind_ok {ε α : Type} (x : Except ε α) : (x >>= Except.ok) = x := by
  cases x <;> rfl

theorem except_bind_eq_ok {ε α β : Type} {x : Except ε α} {f : α → Except ε β} {b : β} :
    (x >>= f) = .ok b ↔ ∃ a, x = .ok a ∧ f a = .ok b := by
  cases x <;> simp

theorem except_map_eq_ok {ε α β : Type} {f : α → β} {x : Except ε α} {b : β} :
    f <$> x = .ok b ↔ ∃ a, x = .ok a ∧ f a = b := by
  cases x <;> simp

theorem except_exists_bind_ok {ε α β : Type} {x : Except ε α} {f : α → Except ε β} :
    (∃ b, (x >>= f) = .ok b) ↔ ∃ a, x = .ok a ∧ ∃ b, f a = .ok b := by
  cases x <;> simp

/-! ### Big-endian `u32` -/

/-- `u32::to_be_bytes`: the four bytes of a `u32`, most significant first. -/
def be32 (n : UInt32) : Bytes :=
  [(n.toNat / 0x1000000).toUInt8, (n.toNat / 0x10000).toUInt8, (n.toNat / 0x100).toUInt8,
    n.toNat.toUInt8]

/-- `u32::from_be_bytes`. -/
def u32FromBeBytes (b₀ b₁ b₂ b₃ : UInt8) : UInt32 :=
  UInt32.ofNat (b₀.toNat * 0x1000000 + b₁.toNat * 0x10000 + b₂.toNat * 0x100 + b₃.toNat)

/-- The big-endian value of four bytes, `b₀·2²⁴ + b₁·2¹⁶ + b₂·2⁸ + b₃`. -/
theorem u32FromBeBytes_eq (b₀ b₁ b₂ b₃ : UInt8) : u32FromBeBytes b₀ b₁ b₂ b₃ =
    UInt32.ofNat (b₀.toNat * 2 ^ 24 + b₁.toNat * 2 ^ 16 + b₂.toNat * 2 ^ 8 + b₃.toNat) := rfl

@[simp] theorem length_be32 (n : UInt32) : (be32 n).length = 4 := rfl

/-- `u32::from_be_bytes` inverts `u32::to_be_bytes`. -/
theorem u32FromBeBytes_be32 (n : UInt32) :
    u32FromBeBytes (n.toNat / 0x1000000).toUInt8 (n.toNat / 0x10000).toUInt8
      (n.toNat / 0x100).toUInt8 n.toNat.toUInt8 = n := by
  have h : n.toNat < 0x100000000 := n.val.isLt
  apply UInt32.toNat.inj
  show (n.toNat / 0x1000000 % 0x100 * 0x1000000 + n.toNat / 0x10000 % 0x100 * 0x10000 +
    n.toNat / 0x100 % 0x100 * 0x100 + n.toNat % 0x100) % 0x100000000 = n.toNat
  omega

/-- `String::as_bytes`: the UTF-8 encoding. -/
def asBytes (s : String) : Bytes := s.toUTF8.toList

end Libkrimes
