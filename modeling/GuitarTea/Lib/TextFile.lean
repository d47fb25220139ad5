import GuitarTea.Lib.CString

/-!
# Lines and numbers in text files

A text file is a list of bytes, and each of its lines ends in a newline.  `lines` takes the
file apart, and does so rightly if no line has a newline in itself.

A number is written with the digits of its base.  In any base up to sixteen they are no
newlines, and in base ten `digitsValue` reads them.

## Main definitions

* `lines` — the lines of a file.
* `digitBytes` — a number in a base.
-/

namespace TextFile

open CString

/-! ## Lines -/

/-- The lines of a file, without their newlines. -/
def lines : List UInt8 → List (List UInt8)
  | [] => []
  | b :: bs =>
      if b = 10 then [] :: lines bs
      else match lines bs with
        | [] => [[b]]
        | line :: rest => (b :: line) :: rest

/-- The first line. -/
theorem lines_append {line : List UInt8} (h : 10 ∉ line) (rest : List UInt8) :
    lines (line ++ 10 :: rest) = line :: lines rest := by
  induction line with
  | nil => simp [lines]
  | cons b line ih =>
      obtain ⟨hb, hline⟩ := not_or.mp (List.mem_cons.not.mp h)
      rw [List.cons_append, lines, if_neg (Ne.symm hb), ih hline]

/-- **The lines of a file** are those it was written from. -/
theorem lines_flatMap {ls : List (List UInt8)} (h : ∀ line ∈ ls, 10 ∉ line) :
    lines (ls.flatMap (· ++ [10])) = ls := by
  induction ls with
  | nil => rfl
  | cons line ls ih =>
      rw [List.flatMap_cons, List.append_assoc, List.singleton_append,
        lines_append (h line List.mem_cons_self),
        ih fun l hl => h l (List.mem_cons_of_mem line hl)]

/-! ## Numbers -/

/-- The bytes of a number in a base. -/
def digitBytes (b n : ℕ) : List UInt8 := (Nat.toDigits b n).map fun c => c.toNat.toUInt8

/-- A digit in base ten. -/
theorem toNat_digitChar {d : ℕ} (h : d < 10) : (Nat.digitChar d).toNat.toUInt8.toNat = 48 + d := by
  revert d
  decide

/-- The digits in a base up to sixteen. -/
theorem digitChar_ne_newline {d : ℕ} (h : d < 16) : (Nat.digitChar d).toNat.toUInt8 ≠ 10 := by
  revert d
  decide

/-- The last digit and the others. -/
theorem digitBytes_of_le {b n : ℕ} (hb : 1 < b) (h : b ≤ n) :
    digitBytes b n = digitBytes b (n / b) ++ [(Nat.digitChar (n % b)).toNat.toUInt8] := by
  rw [digitBytes, Nat.toDigits_of_base_le hb h, List.map_append]
  rfl

theorem digitBytes_of_lt {b n : ℕ} (h : n < b) :
    digitBytes b n = [(Nat.digitChar n).toNat.toUInt8] := by
  rw [digitBytes, Nat.toDigits_of_lt_base h]
  rfl

/-- **Digits are digits**: what holds of those of the base holds of all that are written. -/
theorem forall_mem_digitBytes {b : ℕ} (hb : 1 < b) {p : UInt8 → Prop}
    (h : ∀ d < b, p (Nat.digitChar d).toNat.toUInt8) (n : ℕ) : ∀ c ∈ digitBytes b n, p c := by
  induction n using Nat.strongRecOn with
  | ind n ih =>
      intro c hc
      by_cases hn : n < b
      · rw [digitBytes_of_lt hn, List.mem_singleton] at hc
        exact hc ▸ h n hn
      · rw [digitBytes_of_le hb (by omega), List.mem_append, List.mem_singleton] at hc
        rcases hc with hc | rfl
        · exact ih (n / b) (Nat.div_lt_self (by omega) hb) c hc
        · exact h (n % b) (Nat.mod_lt n (by omega))

theorem newline_notMem_digitBytes {b : ℕ} (hb : 1 < b) (hle : b ≤ 16) (n : ℕ) :
    10 ∉ digitBytes b n := by
  intro hmem
  exact forall_mem_digitBytes hb (p := (· ≠ 10))
    (fun d hd => digitChar_ne_newline (by omega)) n 10 hmem rfl

theorem length_digitBytes_le {b n k : ℕ} (hb : 1 < b) (hk : 0 < k) (h : n < b ^ k) :
    (digitBytes b n).length ≤ k := by
  rw [digitBytes, List.length_map]
  exact (Nat.length_toDigits_le_iff hb hk).mpr h

/-- **Numbers are read as they were written.** -/
theorem isDecimal_digitBytes (n : ℕ) : IsDecimal (digitBytes 10 n) n := by
  refine ⟨by simp [digitBytes], ?_, ?_⟩
  · refine forall_mem_digitBytes (by decide) (fun d hd => ?_) n
    simp only [isdigit, Bool.and_eq_true, decide_eq_true_eq, UInt8.le_iff_toNat_le,
      toNat_digitChar hd]
    change 48 ≤ 48 + d ∧ 48 + d ≤ 57
    omega
  · induction n using Nat.strongRecOn with
    | ind n ih =>
        by_cases hn : n < 10
        · rw [digitBytes_of_lt hn]
          simp [digitsValue, toNat_digitChar hn]
        · have hlast := ih (n / 10) (by omega)
          rw [digitsValue] at hlast
          rw [digitBytes_of_le (by decide) (by omega), digitsValue, List.foldl_append, hlast]
          have hdigit := toNat_digitChar (Nat.mod_lt n (by decide : 0 < 10))
          simp only [List.foldl_cons, List.foldl_nil, hdigit]
          omega

end TextFile
