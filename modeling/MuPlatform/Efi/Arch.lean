import Mathlib.Algebra.Group.Nat.Defs
import Mathlib.Data.Nat.Basic

/-!
# Architectures and unsigned widths

The sources are built for 32-bit and for 64-bit ARM, and the width of `UINTN` follows the
architecture.  Conversions to an unsigned type keep the low bits, and a difference of unsigned
values wraps.
-/

namespace MuPlatform

/-- The two architectures the sources are built for. -/
inductive Arch
  | arm | aarch64
  deriving DecidableEq, Repr

namespace Arch

/-- The width of `UINTN` and of pointers. -/
def uintnBits : Arch → ℕ
  | arm => 32
  | aarch64 => 64

/-- A value converted to `UINTN`. -/
def uintn (arch : Arch) (n : ℕ) : ℕ := n % 2 ^ arch.uintnBits

lemma uintn_of_lt {arch : Arch} {n : ℕ} (h : n < 2 ^ arch.uintnBits) : arch.uintn n = n :=
  Nat.mod_eq_of_lt h

lemma uintn_lt (arch : Arch) (n : ℕ) : arch.uintn n < 2 ^ arch.uintnBits :=
  Nat.mod_lt _ (Nat.two_pow_pos _)

/-- A difference of `UINTN` values. -/
def uintnSub (arch : Arch) (a b : ℕ) : ℕ := arch.uintn (a + (2 ^ arch.uintnBits - b))

lemma uintnSub_of_le {arch : Arch} {a b : ℕ} (h : b ≤ a) (ha : a < 2 ^ arch.uintnBits) :
    arch.uintnSub a b = a - b := by
  have hsum : a + (2 ^ arch.uintnBits - b) = (a - b) + 2 ^ arch.uintnBits := by omega
  rw [uintnSub, uintn, hsum, Nat.add_mod_right, Nat.mod_eq_of_lt (by omega)]

/-- Converting the sum first does not change the difference. -/
lemma uintnSub_uintn_add {arch : Arch} {a k : ℕ} (ha : a ≤ 2 ^ arch.uintnBits)
    (hk : k < 2 ^ arch.uintnBits) : arch.uintnSub (arch.uintn (a + k)) a = k := by
  have hsum : a + k + (2 ^ arch.uintnBits - a) = k + 2 ^ arch.uintnBits := by omega
  rw [uintnSub, uintn, uintn, Nat.mod_add_mod, hsum, Nat.add_mod_right, Nat.mod_eq_of_lt hk]

/-- `sizeof (UINTN)`. -/
def uintnBytes : Arch → ℕ
  | .arm => 4
  | .aarch64 => 8

lemma pow_uintnBytes (arch : Arch) : 256 ^ arch.uintnBytes = 2 ^ arch.uintnBits := by
  cases arch <;> decide

lemma uintn_le (arch : Arch) (n : ℕ) : arch.uintn n ≤ n := Nat.mod_le _ _

/-- A `UINTN` has at least thirty-two bits. -/
lemma uintn_mod {arch : Arch} {n : ℕ} : arch.uintn n % 2 ^ 32 = n % 2 ^ 32 :=
  Nat.mod_mod_of_dvd n (Nat.pow_dvd_pow 2 (by cases arch <;> decide))

lemma uintnBits_le (arch : Arch) : arch.uintnBits ≤ 64 := by
  cases arch <;> decide

end Arch

/-- A value converted to `UINT64`. -/
def uint64 (n : ℕ) : ℕ := n % 2 ^ 64

lemma uint64_of_lt {n : ℕ} (h : n < 2 ^ 64) : uint64 n = n := Nat.mod_eq_of_lt h

lemma uint64_lt (n : ℕ) : uint64 n < 2 ^ 64 := Nat.mod_lt _ (Nat.two_pow_pos _)

/-- A difference of `UINT64` values. -/
def uint64Sub (a b : ℕ) : ℕ := uint64 (a + (2 ^ 64 - b))

lemma uint64Sub_of_le {a b : ℕ} (h : b ≤ a) (ha : a < 2 ^ 64) : uint64Sub a b = a - b := by
  have hsum : a + (2 ^ 64 - b) = (a - b) + 2 ^ 64 := by omega
  rw [uint64Sub, uint64, hsum, Nat.add_mod_right, Nat.mod_eq_of_lt (by omega)]

end MuPlatform
