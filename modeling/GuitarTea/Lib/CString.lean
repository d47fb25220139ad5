import GuitarTea.Lib.ByteBuffer
import Mathlib.Data.List.TakeWhile
import Mathlib.Data.UInt
import Mathlib.Tactic.Common

/-!
# Searching and copying C strings

A C string is the list of its bytes without the terminating NUL.  A pointer into
it is an index, and a null pointer is `none`.

## Main definitions

* `lastIdx` — the last index at which a value stands.
* `strrchr` — the last occurrence of a byte in a C string.
* `strncpy` — copy a number of bytes into a buffer, padded with NULs.
* `IsDecimal` — the strings of decimal digits, with their value.
* `strtol` — the number at the front of a string, in base ten.
-/

namespace CString

section LastIdx

variable {α : Type*} [DecidableEq α]

/-- The last index at which `c` stands in a list. -/
def lastIdx (c : α) : List α → Option ℕ
  | [] => none
  | x :: xs => match lastIdx c xs with
    | some i => some (i + 1)
    | none => if x = c then some 0 else none

/-- The last occurrence in two lists in a row. -/
theorem lastIdx_append (c : α) (s t : List α) : lastIdx c (s ++ t) =
    match lastIdx c t with
    | some i => some (s.length + i)
    | none => lastIdx c s := by
  induction s with
  | nil =>
      rw [List.nil_append]
      cases lastIdx c t <;> simp [lastIdx]
  | cons x xs ih =>
      rw [List.cons_append, lastIdx, ih]
      cases lastIdx c t with
      | none => rfl
      | some i =>
          simp only [List.length_cons]
          congr 1
          omega

theorem lastIdx_eq_none_iff {c : α} {s : List α} : lastIdx c s = none ↔ c ∉ s := by
  induction s with
  | nil => simp [lastIdx]
  | cons x xs ih =>
      rw [lastIdx, List.mem_cons, not_or, ← ih]
      cases lastIdx c xs with
      | none =>
          by_cases hx : x = c
          · simp [hx]
          · simp [hx, Ne.symm hx]
      | some i => simp

/-- Behind its last occurrence a value does not stand. -/
theorem lastIdx_append_cons {c : α} {t : List α} (h : c ∉ t) (s : List α) :
    lastIdx c (s ++ c :: t) = some s.length := by
  rw [lastIdx_append, lastIdx, lastIdx_eq_none_iff.mpr h]
  simp

theorem lastIdx_append_of_notMem {c : α} {t : List α} (h : c ∉ t) (s : List α) :
    lastIdx c (s ++ t) = lastIdx c s := by
  rw [lastIdx_append, lastIdx_eq_none_iff.mpr h]

/-- The value stands at its last index. -/
theorem getElem?_of_lastIdx {c : α} {s : List α} {i : ℕ} (h : lastIdx c s = some i) :
    s[i]? = some c := by
  induction s generalizing i with
  | nil => simp [lastIdx] at h
  | cons x xs ih =>
      rw [lastIdx] at h
      cases hxs : lastIdx c xs with
      | none =>
          by_cases hx : x = c
          · obtain rfl : 0 = i := by simpa [hxs, hx] using h
            simp [hx]
          · simp [hxs, hx] at h
      | some j =>
          obtain rfl : j + 1 = i := by simpa [hxs] using h
          rw [List.getElem?_cons_succ]
          exact ih hxs

theorem lt_length_of_lastIdx {c : α} {s : List α} {i : ℕ} (h : lastIdx c s = some i) :
    i < s.length := by
  have hget := getElem?_of_lastIdx h
  exact (List.getElem?_eq_some_iff.mp hget).1

/-- What stands behind the last occurrence of a value, or all of the list. -/
def afterLast (c : α) (s : List α) : List α :=
  match lastIdx c s with
  | some i => s.drop (i + 1)
  | none => s

end LastIdx

/-- `strrchr`: the last occurrence of a byte.  The terminating NUL is part of the
string. -/
def strrchr (src : List UInt8) (c : UInt8) : Option ℕ := lastIdx c (src ++ [0])

theorem strrchr_of_ne_zero (src : List UInt8) {c : UInt8} (h : c ≠ 0) :
    strrchr src c = lastIdx c src :=
  lastIdx_append_of_notMem (by simpa using h) src

/-- `strncpy` of `num` bytes to an offset of a buffer: the string is cut off there or
padded with NULs, so that `num` bytes are written in either case. -/
def strncpy {n : ℕ} (dst : ByteBuffer n) (off : ℤ) (src : List UInt8) (num : ℕ) :
    Option (ByteBuffer n) :=
  if num = 0 then some dst
  else if 0 ≤ off ∧ off + num ≤ n then
    dst.store off (src.take num ++ List.replicate (num - src.length) 0)
  else none

/-- A copy succeeds exactly when every byte it writes is in the buffer. -/
theorem isSome_strncpy_iff {n : ℕ} (dst : ByteBuffer n) (off : ℤ) (src : List UInt8) (num : ℕ) :
    (strncpy dst off src num).isSome ↔ num = 0 ∨ (0 ≤ off ∧ off + num ≤ n) := by
  rw [strncpy]
  by_cases hnum : num = 0
  · simp [hnum]
  · by_cases hfit : 0 ≤ off ∧ off + num ≤ n
    · have hlen : (src.take num ++ List.replicate (num - src.length) (0 : UInt8)).length = num := by
        simp only [List.length_append, List.length_take, List.length_replicate]
        omega
      rw [if_neg hnum, if_pos hfit, ByteBuffer.isSome_store_iff, hlen]
      exact iff_of_true (.inr hfit) (.inr hfit)
    · simp [hnum, hfit]

/-- Bytes of the string itself, copied right behind what was stored before, extend it:
there is no padding. -/
theorem exists_strncpy_after {n : ℕ} {dst : ByteBuffer n} {before : List UInt8} {off : ℤ}
    (hbefore : before <+: dst.bytes) (hoff : off = before.length) {src : List UInt8} {num : ℕ}
    (hnum : num ≤ src.length) (hfit : before.length + num ≤ n) :
    ∃ dst', strncpy dst off src num = some dst' ∧ before ++ src.take num <+: dst'.bytes := by
  rw [strncpy]
  by_cases hzero : num = 0
  · subst hzero
    exact ⟨dst, by simp, by simpa using hbefore⟩
  · have hlen : (src.take num).length = num := List.length_take_of_le hnum
    have hpad : List.replicate (num - src.length) (0 : UInt8) = [] := by
      rw [Nat.sub_eq_zero_of_le hnum, List.replicate_zero]
    rw [if_neg hzero, if_pos (by omega), hpad, List.append_nil]
    exact ByteBuffer.exists_store_after hbefore hoff _ (by omega)

/-- A NUL behind a string ends it, whatever stands behind the NUL. -/
theorem takeWhile_of_terminated {s bytes : List UInt8} (hs : 0 ∉ s) (h : s ++ [0] <+: bytes) :
    bytes.takeWhile (· ≠ 0) = s := by
  obtain ⟨rest, rfl⟩ := h
  rw [List.append_assoc, List.takeWhile_append_of_pos]
  · simp
  · intro c hc
    have hne : c ≠ 0 := fun hzero => hs (hzero ▸ hc)
    simpa using hne

/-! ## Numbers in strings -/

/-- `isspace`, in the C locale. -/
def isspace (c : UInt8) : Bool := c = 32 || (9 ≤ c && c ≤ 13)

/-- `isdigit`. -/
def isdigit (c : UInt8) : Bool := 48 ≤ c && c ≤ 57

/-- The value of a string of digits. -/
def digitsValue (s : List UInt8) : ℕ := s.foldl (fun n c => 10 * n + (c.toNat - 48)) 0

/-- The string is a decimal number, written with digits only. -/
def IsDecimal (s : List UInt8) (p : ℕ) : Prop :=
  s ≠ [] ∧ (∀ c ∈ s, isdigit c) ∧ digitsValue s = p

/-- `strtol` in base ten, with a `long` of 64 bits: white space, a sign and as many digits
as there are, saturated at the ends of the type. -/
def strtol (s : List UInt8) : ℤ :=
  let s := s.dropWhile isspace
  let signed := s.head? = some 45 ∨ s.head? = some 43
  let n : ℤ := digitsValue ((if signed then s.tail else s).takeWhile isdigit)
  if s.head? = some 45 then max (-n) (-9223372036854775808) else min n 9223372036854775807

/-- A digit is neither white space nor a sign. -/
theorem isspace_of_isdigit {c : UInt8} (h : isdigit c) :
    isspace c = false ∧ c ≠ 45 ∧ c ≠ 43 := by
  simp only [isdigit, Bool.and_eq_true, decide_eq_true_eq, UInt8.le_iff_toNat_le] at h
  change 48 ≤ c.toNat ∧ c.toNat ≤ 57 at h
  refine ⟨?_, ?_, ?_⟩
  · simp only [isspace, Bool.or_eq_false_iff, Bool.and_eq_false_iff, decide_eq_false_iff_not,
      UInt8.le_iff_toNat_le]
    refine ⟨?_, .inr ?_⟩
    · rintro rfl
      exact absurd h.1 (by decide)
    · change ¬ c.toNat ≤ 13
      omega
  · rintro rfl
    exact absurd h.1 (by decide)
  · rintro rfl
    exact absurd h.1 (by decide)

/-- A decimal number is read as it stands, up to the largest `long`. -/
theorem strtol_of_isDecimal {s : List UInt8} {p : ℕ} (h : IsDecimal s p) :
    strtol s = min (p : ℤ) 9223372036854775807 := by
  obtain ⟨hne, hdigits, rfl⟩ := h
  obtain ⟨c, rest, rfl⟩ := List.exists_cons_of_ne_nil hne
  obtain ⟨hspace, hminus, hplus⟩ := isspace_of_isdigit (hdigits c List.mem_cons_self)
  have htrim : (c :: rest).dropWhile isspace = c :: rest :=
    List.dropWhile_cons_of_neg (by simp [hspace])
  have hall : (c :: rest).takeWhile isdigit = c :: rest := List.takeWhile_eq_self_iff.mpr hdigits
  simp only [strtol, htrim, List.head?_cons, Option.some.injEq, hminus, hplus, or_self, if_false,
    hall]

end CString
