import Mathlib.Data.List.Basic
import Mathlib.Data.Int.Notation

/-!
# Return codes, machine integers and byte strings

The vocabulary every other module shares: the two return codes of the framework,
the `errno` values its handlers test, the conversions C applies to `int` results
and to `size_t` arguments, and C strings as lists of bytes without their
terminating NUL.

Integers are mathematical and wrapping is explicit: an `int32_t` expression is
written as `toInt32` of its exact value, and an `int` handed to a `size_t`
parameter as `toSizeT` of it.
-/

namespace GuitarTea

/-! ## Return codes -/

/-- `GT_OK`. -/
def gtOk : ℤ := 0

/-- `GT_ERROR`. -/
def gtError : ℤ := -1

@[simp] theorem gtError_ne_gtOk : gtError ≠ gtOk := by decide

/-- A value of `errno`. -/
abbrev Errno := ℤ

/-- `EAGAIN`, as on Linux. -/
def eagain : Errno := 11

/-- `EWOULDBLOCK`, as on Linux: the same number as `EAGAIN`. -/
def ewouldblock : Errno := 11

/-- `EEXIST`. -/
def eexist : Errno := 17

/-- `ENOMEM`. -/
def enomem : Errno := 12

/-- `ECONNRESET`. -/
def econnreset : Errno := 104

/-! ## Machine integers -/

/-- The value an exact integer takes in an `int32_t`. -/
def toInt32 (x : ℤ) : ℤ := (x + 2147483648) % 4294967296 - 2147483648

/-- The value an `int` takes when it is converted to `size_t`. -/
def toSizeT (x : ℤ) : ℕ := (x % 18446744073709551616).toNat

/-- Conversion to `int32_t` is the identity on the range of the type. -/
theorem toInt32_of_range {x : ℤ} (hl : -2147483648 ≤ x) (hu : x < 2147483648) :
    toInt32 x = x := by
  rw [toInt32]
  omega

/-- A non-negative `int` keeps its value as a `size_t`. -/
theorem toSizeT_of_nonneg {x : ℤ} (h : 0 ≤ x) (hu : x < 2147483648) :
    (toSizeT x : ℤ) = x := by
  rw [toSizeT]
  omega

/-- `ntohl` on a little-endian host: the four bytes in reverse order. -/
def ntohl (x : BitVec 32) : BitVec 32 :=
  (x.extractLsb' 0 8 ++ x.extractLsb' 8 8 ++ x.extractLsb' 16 8 ++ x.extractLsb' 24 8 : BitVec 32)

/-- `ntohs` on a little-endian host. -/
def ntohs (x : BitVec 16) : BitVec 16 :=
  (x.extractLsb' 0 8 ++ x.extractLsb' 8 8 : BitVec 16)

/-! ## Byte strings -/

/-- The bytes of a C string literal, without the terminating NUL. -/
def cstr (s : String) : List UInt8 := s.toList.map fun c => c.toNat.toUInt8

@[simp] theorem length_cstr (s : String) : (cstr s).length = s.length := by
  simp [cstr, String.length_toList]

end GuitarTea
