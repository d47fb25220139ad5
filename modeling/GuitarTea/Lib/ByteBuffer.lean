import Mathlib.Data.List.Basic
import Mathlib.Data.Int.Notation
import Mathlib.Data.List.TakeWhile

/-!
# Byte buffers of a fixed size

A `ByteBuffer n` is an array of `n` bytes, such as a local `char buf[n]`.  Its
length is part of the type, so no operation can produce a buffer of another size.
Offsets are integers, because a C program computes them with signed arithmetic: a
store or a load that leaves the array, on either side, is `none`.

## Main definitions

* `ByteBuffer n` — `n` bytes.
* `ByteBuffer.zero` — the buffer an initialiser `{0}` gives.
* `ByteBuffer.store` — overwrite the bytes from an offset on.
* `ByteBuffer.load` — read a number of bytes from the start.
* `ByteBuffer.cString` — the C string at the start.
-/

/-- An array of `n` bytes. -/
structure ByteBuffer (n : ℕ) where
  /-- The contents, from the first byte on. -/
  bytes : List UInt8
  length_eq : bytes.length = n

namespace ByteBuffer

variable {n : ℕ}

/-- All bytes zero. -/
def zero (n : ℕ) : ByteBuffer n := ⟨List.replicate n 0, by simp⟩

/-- Overwrite the bytes at `off`, `off + 1`, …; `none` when one of them lies
outside the buffer. Storing nothing touches no byte and always succeeds. -/
def store (b : ByteBuffer n) (off : ℤ) (data : List UInt8) : Option (ByteBuffer n) :=
  if data = [] then some b
  else if h : 0 ≤ off ∧ off + data.length ≤ n then
    some ⟨b.bytes.take off.toNat ++ data ++ b.bytes.drop (off.toNat + data.length), by
      have hlen := b.length_eq
      simp only [List.length_append, List.length_take, List.length_drop]
      omega⟩
  else none

/-- The first `count` bytes; `none` when the buffer has fewer. -/
def load (b : ByteBuffer n) (count : ℤ) : Option (List UInt8) :=
  if 0 ≤ count ∧ count ≤ n then some (b.bytes.take count.toNat) else none

/-- The C string at the start: the bytes up to the first NUL.  Without a NUL in the buffer
a reader of the string leaves it, which is `none`. -/
def cString (b : ByteBuffer n) : Option (List UInt8) :=
  if 0 ∈ b.bytes then some (b.bytes.takeWhile (· ≠ 0)) else none

/-- A store succeeds exactly when every byte it writes is in the buffer. -/
theorem isSome_store_iff (b : ByteBuffer n) (off : ℤ) (data : List UInt8) :
    (b.store off data).isSome ↔ data = [] ∨ (0 ≤ off ∧ off + data.length ≤ n) := by
  rw [store]
  by_cases hd : data = []
  · simp [hd]
  · by_cases h : 0 ≤ off ∧ off + data.length ≤ n <;> simp [hd, h]

/-- A load succeeds exactly when it stays in the buffer. -/
theorem isSome_load_iff (b : ByteBuffer n) (count : ℤ) :
    (b.load count).isSome ↔ 0 ≤ count ∧ count ≤ n := by
  rw [load]
  by_cases h : 0 ≤ count ∧ count ≤ n <;> simp [h]

/-! ## Filling a buffer from the front -/

/-- A store right behind what was stored before extends it. -/
theorem exists_store_after {b : ByteBuffer n} {before : List UInt8} {off : ℤ}
    (hbefore : before <+: b.bytes) (hoff : off = before.length) (data : List UInt8)
    (hfit : before.length + data.length ≤ n) :
    ∃ b', b.store off data = some b' ∧ before ++ data <+: b'.bytes := by
  by_cases hd : data = []
  · subst hd
    exact ⟨b, by simp [store], by simpa using hbefore⟩
  · have hin : 0 ≤ off ∧ off + data.length ≤ n := by omega
    have htake : b.bytes.take off.toNat = before := by
      rw [hoff, Int.toNat_natCast]
      exact (List.prefix_iff_eq_take.mp hbefore).symm
    refine ⟨_, by rw [store, if_neg hd, dif_pos hin], ?_⟩
    simp only [htake]
    exact List.prefix_append _ _

/-- What was stored at the front can be read back. -/
theorem load_of_prefix {b : ByteBuffer n} {data : List UInt8} (h : data <+: b.bytes)
    {count : ℤ} (hcount : count = data.length) : b.load count = some data := by
  have hle : data.length ≤ n := by
    rw [← b.length_eq]
    exact h.length_le
  rw [load, if_pos (by omega), hcount, Int.toNat_natCast]
  exact congrArg some (List.prefix_iff_eq_take.mp h).symm

/-! ## Strings -/

/-- What a buffer of zeros holds after a store at its front. -/
theorem exists_store_zero {data : List UInt8} (h : data.length ≤ n) :
    ∃ b, (zero n).store 0 data = some b ∧ b.bytes = data ++ List.replicate (n - data.length) 0 := by
  by_cases hd : data = []
  · subst hd
    exact ⟨zero n, by simp [store], by simp [zero]⟩
  · refine ⟨_, by rw [store, if_neg hd, dif_pos (by omega)], ?_⟩
    simp [zero]

/-- **A buffer of zeros ends what is stored in it**, as long as one of them is left: the C
string is what was stored, up to the first NUL. -/
theorem exists_cString_store {data : List UInt8} (h : data.length < n) :
    ∃ b, (zero n).store 0 data = some b ∧ b.cString = some (data.takeWhile (· ≠ 0)) := by
  obtain ⟨b, hstore, hbytes⟩ := exists_store_zero (Nat.le_of_lt h)
  obtain ⟨k, hk⟩ : ∃ k, n - data.length = k + 1 := ⟨n - data.length - 1, by omega⟩
  rw [hk, List.replicate_succ] at hbytes
  have hzeros : ((0 : UInt8) :: List.replicate k 0).takeWhile (· ≠ 0) = [] := rfl
  have hstring : b.bytes.takeWhile (· ≠ 0) = data.takeWhile (· ≠ 0) := by
    rw [hbytes, List.takeWhile_append, hzeros, List.append_nil]
    split
    · rename_i hall
      exact (List.takeWhile_prefix _).eq_of_length hall |>.symm
    · rfl
  refine ⟨b, hstore, ?_⟩
  rw [cString, if_pos (by simp [hbytes]), hstring]

end ByteBuffer
