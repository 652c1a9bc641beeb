import Mathlib.Data.UInt
import Mathlib.Algebra.Order.Ring.Nat

/-! # Machine words of the limiter

Every counter of the limiter is a Go `uint64`: window totals, segment values, start
times, versions and loads. They are modelled as `UInt64`, so each `+` and `-` of the source
wraps exactly as Go's does. The lemmas below move comparisons and wrap-free arithmetic to
`Nat`, where `omega` closes them.

`computeRetryIn` converts to `int64` and returns a `time.Duration` (signed nanoseconds);
both are `Int` here, reduced into the 64-bit two's complement range by `wrapInt64`.
-/

namespace LoadLimiter

/-! ## Unsigned words -/

theorem u64_le_iff {a b : UInt64} : a ≤ b ↔ a.toNat ≤ b.toNat := Iff.rfl

theorem u64_lt_iff {a b : UInt64} : a < b ↔ a.toNat < b.toNat := Iff.rfl

theorem u64_eq_iff {a b : UInt64} : a = b ↔ a.toNat = b.toNat :=
  ⟨congrArg UInt64.toNat, fun h => UInt64.eq_of_toBitVec_eq (BitVec.eq_of_toNat_eq h)⟩

theorem u64_ne_iff {a b : UInt64} : a ≠ b ↔ a.toNat ≠ b.toNat := not_congr u64_eq_iff

theorem u64_toNat_lt (a : UInt64) : a.toNat < 2 ^ 64 := a.toNat_lt_size

theorem u64_toNat_add (a b : UInt64) : (a + b).toNat = (a.toNat + b.toNat) % 2 ^ 64 :=
  BitVec.toNat_add _ _

theorem u64_toNat_mul (a b : UInt64) : (a * b).toNat = (a.toNat * b.toNat) % 2 ^ 64 :=
  BitVec.toNat_mul _ _

theorem u64_toNat_add_of_lt {a b : UInt64} (h : a.toNat + b.toNat < 2 ^ 64) :
    (a + b).toNat = a.toNat + b.toNat := by
  rw [u64_toNat_add]
  exact Nat.mod_eq_of_lt h

theorem u64_toNat_sum (l : List UInt64) : l.sum.toNat = (l.map UInt64.toNat).sum % 2 ^ 64 := by
  induction l with
  | nil => rfl
  | cons a l ih =>
      rw [List.sum_cons, u64_toNat_add, ih, List.map_cons, List.sum_cons, Nat.add_mod_mod]

theorem u64_toNat_sum_of_lt {l : List UInt64} (h : (l.map UInt64.toNat).sum < 2 ^ 64) :
    l.sum.toNat = (l.map UInt64.toNat).sum := by
  rw [u64_toNat_sum, Nat.mod_eq_of_lt h]

theorem u64_toNat_sub_of_le {a b : UInt64} (h : b.toNat ≤ a.toNat) :
    (a - b).toNat = a.toNat - b.toNat :=
  UInt64.toNat_sub_of_le a b h

theorem u64_toNat_mul_of_lt {a b : UInt64} (h : a.toNat * b.toNat < 2 ^ 64) :
    (a * b).toNat = a.toNat * b.toNat := by
  rw [u64_toNat_mul]
  exact Nat.mod_eq_of_lt h

theorem u64_toNat_ofNat_of_lt {n : Nat} (h : n < 2 ^ 64) : (UInt64.ofNat n).toNat = n :=
  UInt64.toNat_ofNat_of_lt h

@[simp] theorem u64_toNat_zero : (0 : UInt64).toNat = 0 := rfl

@[simp] theorem u64_toNat_one : (1 : UInt64).toNat = 1 := rfl

theorem u64_pos_iff {a : UInt64} : 0 < a ↔ 0 < a.toNat := Iff.rfl

theorem u64_eq_zero_iff {a : UInt64} : a = 0 ↔ a.toNat = 0 := u64_eq_iff

/-! ## Signed words -/

/-- Reduce an integer into `[-2^63, 2^63)`, as a Go `int64` conversion or arithmetic
result does. -/
def wrapInt64 (z : Int) : Int := (z + 2 ^ 63) % 2 ^ 64 - 2 ^ 63

theorem wrapInt64_of_mem {z : Int} (hlo : -2 ^ 63 ≤ z) (hhi : z < 2 ^ 63) :
    wrapInt64 z = z := by
  unfold wrapInt64
  rw [Int.emod_eq_of_lt (by omega) (by omega)]
  omega

abbrev Duration := Int

def millisecondsDuration (ms : UInt64) : Duration :=
  wrapInt64 (1000000 * wrapInt64 ms.toNat)

theorem millisecondsDuration_of_le {ms : UInt64} (h : ms.toNat ≤ 9223372036854) :
    millisecondsDuration ms = 1000000 * ms.toNat := by
  have hms : wrapInt64 ms.toNat = ms.toNat := wrapInt64_of_mem (by omega) (by omega)
  unfold millisecondsDuration
  rw [hms]
  exact wrapInt64_of_mem (by omega) (by omega)

end LoadLimiter
