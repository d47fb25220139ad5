import GuitarTea.Lib.CString
import GuitarTea.Base

/-!
# The backtrace of a fatal signal

`gt_backtrace_print` cuts the address and the symbol out of each frame that
`backtrace_symbols` describes, and puts one behind the other in a buffer of 128
bytes.  It trusts the frames: the array may be null, a frame without a symbol has
no parentheses, and a symbol may be longer than the buffer.

A result of `none` is undefined behaviour: a null array is read, a delimiter that
`strrchr` did not find is used, or a byte outside the buffer is written.

## Main definitions

* `gtStrcut`, `gtBacktracePrint` — the two functions.
* `Frame` — the frames that `backtrace_symbols` describes.
* `Frame.Fits` — both cuts of a frame stay in the buffer.
-/

namespace GuitarTea

open CString

/-- `GT_BACKTRACE_BUF_SIZE`. -/
def gtBacktraceBufSize : ℕ := 128

/-- `gt_strcut`, with `dst` given as a buffer and an offset. -/
def gtStrcut {n : ℕ} (dst : ByteBuffer n) (off : ℤ) (src : List UInt8) (cstart cend : UInt8)
    (flag : Bool) : Option (ℤ × ByteBuffer n) := do
  let start ← strrchr src cstart
  let stop ← strrchr src cend
  let subLen := toInt32 ((stop : ℤ) - start + 1)
  let first := if flag then start else start + 1
  -- `begin + 1` may lie behind the NUL of `src`, where there is nothing to copy from
  if src.length < first ∧ toSizeT subLen ≠ 0 then none
  else
    let dst ← strncpy dst off (src.drop first) (toSizeT subLen)
    let dst ← dst.store (off + subLen) [0]
    some (subLen, dst)

/-- `(`, `)`, `[` and `]`. -/
def delimiters : List UInt8 := [40, 41, 91, 93]

/-- One round of the loop of `gt_backtrace_print`: the frame buffer and the lines
printed so far. -/
def backtraceFrame (frame : ByteBuffer gtBacktraceBufSize) (lines : List (List UInt8))
    (string : List UInt8) :
    Option (ByteBuffer gtBacktraceBufSize × List (List UInt8)) := do
  let (strnum, frame) ← gtStrcut frame 0 string 91 93 true
  let (_, frame) ← gtStrcut frame strnum string 40 41 true
  some (frame, lines ++ [frame.bytes.takeWhile (· ≠ 0) ++ cstr "\n"])

/-- `gt_backtrace_print`: the lines printed.  `backtrace` found `nptrs` frames, and
`strings` is what `backtrace_symbols` returned for them. -/
def gtBacktracePrint (sig : ℤ) {nptrs : ℕ} (strings : Option (Fin nptrs → List UInt8)) :
    Option (List (List UInt8)) :=
  let head := cstr "Calltrace: Catch Signal " ++ cstr (toString sig) ++ cstr "\n"
  ((List.finRange nptrs).foldlM
    (fun (frame, lines) i => strings.bind fun strings => backtraceFrame frame lines (strings i))
    (ByteBuffer.zero gtBacktraceBufSize, [head])).map Prod.snd

/-! ## What one frame needs -/

/-- The `sub_len` of a cut, if both delimiters are there. -/
def cutLen (src : List UInt8) (cstart cend : UInt8) : Option ℤ := do
  let start ← strrchr src cstart
  let stop ← strrchr src cend
  some (toInt32 ((stop : ℤ) - start + 1))

/-- A cut returns its length. -/
theorem fst_gtStrcut {n : ℕ} {dst : ByteBuffer n} {off : ℤ} {src : List UInt8}
    {cstart cend : UInt8} {flag : Bool} {r : ℤ × ByteBuffer n}
    (h : gtStrcut dst off src cstart cend flag = some r) : cutLen src cstart cend = some r.1 := by
  simp only [gtStrcut, Option.bind_eq_bind, Option.bind_eq_some_iff,
    Option.ite_none_left_eq_some, Option.some.injEq] at h
  obtain ⟨start, hstart, stop, hstop, -, copied, -, ended, -, rfl⟩ := h
  simp [cutLen, hstart, hstop]

/-- A string that a byte was found in. -/
theorem le_length_of_strrchr {src : List UInt8} {c : UInt8} {i : ℕ}
    (h : strrchr src c = some i) : i ≤ src.length := by
  have hlt := lt_length_of_lastIdx h
  rw [List.length_append, List.length_singleton] at hlt
  omega

/-- A cut with its delimiters begins in the string. -/
theorem gtStrcut_kept {n : ℕ} (dst : ByteBuffer n) (off : ℤ) {src : List UInt8}
    {cstart cend : UInt8} {i j : ℕ} (hi : strrchr src cstart = some i)
    (hj : strrchr src cend = some j) : gtStrcut dst off src cstart cend true =
      (strncpy dst off (src.drop i) (toSizeT (toInt32 ((j : ℤ) - i + 1)))).bind fun dst =>
        (dst.store (off + toInt32 ((j : ℤ) - i + 1)) [0]).map
          fun dst => (toInt32 ((j : ℤ) - i + 1), dst) := by
  have hin : ¬ (src.length < i ∧ toSizeT (toInt32 ((j : ℤ) - i + 1)) ≠ 0) := by
    have hle := le_length_of_strrchr hi
    omega
  simp only [gtStrcut, hi, hj, Option.bind_eq_bind, Option.bind_some, if_true, if_neg hin,
    Option.map_eq_bind, Function.comp_def]

/-- **When a cut with its delimiters is safe**: both are there, the end does not lie before
the beginning, and the NUL fits behind it. -/
theorem isSome_gtStrcut_iff {n : ℕ} (hn : n ≤ 2147483648) (dst : ByteBuffer n) {off : ℤ}
    (hoff : 0 ≤ off) (src : List UInt8) (cstart cend : UInt8) :
    (gtStrcut dst off src cstart cend true).isSome ↔
      ∃ len, cutLen src cstart cend = some len ∧ 0 ≤ len ∧ off + len < n := by
  cases hstart : strrchr src cstart with
  | none => simp [gtStrcut, cutLen, hstart]
  | some start =>
      cases hstop : strrchr src cend with
      | none => simp [gtStrcut, cutLen, hstart, hstop]
      | some stop =>
          let len := toInt32 ((stop : ℤ) - start + 1)
          have hrange : -2147483648 ≤ len ∧ len < 2147483648 := by
            simp only [len, toInt32]
            omega
          have hrun := gtStrcut_kept dst off hstart hstop
          have hlen : cutLen src cstart cend = some len := by simp [cutLen, hstart, hstop, len]
          have hcopy := isSome_strncpy_iff dst off (src.drop start) (toSizeT len)
          simp only [hlen, Option.some.injEq, exists_eq_left']
          change _ = (strncpy dst off (src.drop start) (toSizeT len)).bind _ at hrun
          rw [hrun]
          cases hcopied : strncpy dst off (src.drop start) (toSizeT len) with
          | none =>
              have hout : ¬ (toSizeT len = 0 ∨ 0 ≤ off ∧ off + toSizeT len ≤ n) := by
                simpa [hcopied] using hcopy
              refine iff_of_false (by simp) ?_
              rintro ⟨hnonneg, hfit⟩
              have := toSizeT_of_nonneg hnonneg hrange.2
              omega
          | some dst' =>
              have hin : toSizeT len = 0 ∨ 0 ≤ off ∧ off + toSizeT len ≤ n := by
                simpa [hcopied] using hcopy
              have hnonneg : 0 ≤ len := by
                by_contra hneg
                rw [toSizeT] at hin
                omega
              rw [Option.bind_some, Option.isSome_map, ByteBuffer.isSome_store_iff]
              simp only [List.cons_ne_nil, false_or, List.length_singleton]
              omega

/-- The cuts of one frame, whatever is in the buffer. -/
theorem isSome_backtraceFrame_iff (frame : ByteBuffer gtBacktraceBufSize)
    (lines : List (List UInt8)) (string : List UInt8) :
    (backtraceFrame frame lines string).isSome ↔
      ∃ addrLen symLen, cutLen string 91 93 = some addrLen ∧ cutLen string 40 41 = some symLen ∧
        0 ≤ addrLen ∧ 0 ≤ symLen ∧ addrLen + symLen ≤ 127 := by
  have hfirst := isSome_gtStrcut_iff (by decide) frame le_rfl string 91 93
  cases haddr : gtStrcut frame 0 string 91 93 true with
  | none =>
      have hno : ¬ ∃ len, cutLen string 91 93 = some len ∧ 0 ≤ len ∧
          0 + len < (gtBacktraceBufSize : ℤ) := by
        simpa [haddr] using hfirst
      refine iff_of_false (by simp [backtraceFrame, haddr]) ?_
      rintro ⟨addrLen, symLen, hlen, -, hnonneg, hnonneg', hfit⟩
      refine hno ⟨addrLen, hlen, hnonneg, ?_⟩
      simp only [gtBacktraceBufSize]
      omega
  | some r =>
      obtain ⟨strnum, frame'⟩ := r
      have hstrnum : cutLen string 91 93 = some strnum := fst_gtStrcut haddr
      have hnonneg : 0 ≤ strnum := by
        obtain ⟨len, hlen, hnonneg, -⟩ := hfirst.mp (by simp [haddr])
        obtain rfl : strnum = len := Option.some.inj (hstrnum.symm.trans hlen)
        exact hnonneg
      have hsecond := isSome_gtStrcut_iff (by decide) frame' hnonneg string 40 41
      have hround : (backtraceFrame frame lines string).isSome ↔
          (gtStrcut frame' strnum string 40 41 true).isSome := by
        simp only [backtraceFrame, haddr, Option.bind_eq_bind, Option.bind_some]
        cases gtStrcut frame' strnum string 40 41 true <;> rfl
      rw [hround, hsecond, hstrnum]
      simp only [gtBacktraceBufSize, Option.some.injEq]
      constructor
      · rintro ⟨symLen, hsym, hnonneg', hfit⟩
        exact ⟨strnum, symLen, rfl, hsym, hnonneg, hnonneg', by omega⟩
      · rintro ⟨addrLen, symLen, rfl, hsym, -, hnonneg', hfit⟩
        exact ⟨symLen, hsym, hnonneg', by omega⟩

/-! ## All frames -/

/-- A loop whose rounds do not depend on one another. -/
theorem isSome_foldlM_iff {α β : Type*} {f : β → α → Option β} {P : α → Prop}
    (h : ∀ b x, (f b x).isSome ↔ P x) (xs : List α) (b : β) :
    (xs.foldlM f b).isSome ↔ ∀ x ∈ xs, P x := by
  induction xs generalizing b with
  | nil => simp
  | cons x xs ih =>
      rw [List.foldlM_cons, List.forall_mem_cons, ← h b x]
      cases hx : f b x with
      | none => simp
      | some b' => simpa using ih b'

/-- A frame as `backtrace_symbols` describes it: `path(symbol+offset) [address]`, or
the address alone.  An address has no delimiters; nothing is known of the rest. -/
inductive Frame
  | full (path symbol : List UInt8) (address : { s : List UInt8 // ∀ c ∈ delimiters, c ∉ s })
  | bare (address : { s : List UInt8 // ∀ c ∈ delimiters, c ∉ s })

/-- The text of a frame. -/
def Frame.text : Frame → List UInt8
  | .full path symbol address =>
      path ++ cstr "(" ++ symbol ++ cstr ") [" ++ address.val ++ cstr "]"
  | .bare address => cstr "[" ++ address.val ++ cstr "]"

/-- The condition on a frame: it has a symbol, and the two groups with their delimiters
are at most 127 bytes long.  A symbol with a parenthesis counts from the last one
on, and the lengths are `int32_t`. -/
def Frame.Fits : Frame → Prop
  | .full _ symbol address =>
      let addrLen := toInt32 (address.val.length + 2)
      let symLen := toInt32 ((afterLast 40 symbol).length + 2)
      0 ≤ addrLen ∧ 0 ≤ symLen ∧ addrLen + symLen ≤ 127
  | .bare _ => False

instance (f : Frame) : Decidable f.Fits :=
  match f with
  | .full _ symbol address =>
      inferInstanceAs (Decidable (0 ≤ toInt32 (address.val.length + 2) ∧
        0 ≤ toInt32 ((afterLast 40 symbol).length + 2) ∧
        toInt32 (address.val.length + 2) + toInt32 ((afterLast 40 symbol).length + 2) ≤ 127))
  | .bare _ => inferInstanceAs (Decidable False)

section Full

variable (path symbol : List UInt8) (address : { s : List UInt8 // ∀ c ∈ delimiters, c ∉ s })

/-- The last opening bracket stands before the address. -/
theorem strrchr_full_bracket : strrchr (Frame.full path symbol address).text 91 =
    some (path.length + symbol.length + 3) := by
  have htext : (Frame.full path symbol address).text =
      (path ++ [40] ++ symbol ++ [41, 32]) ++ 91 :: (address.val ++ [93]) := by
    simp [Frame.text, cstr]
  rw [strrchr_of_ne_zero _ (by decide), htext, lastIdx_append_cons]
  · simp only [List.length_append, List.length_cons, List.length_nil]
    congr 1
    omega
  · simpa using address.property 91 (by decide)

/-- The last closing bracket ends the frame. -/
theorem strrchr_full_bracket_end : strrchr (Frame.full path symbol address).text 93 =
    some (path.length + symbol.length + address.val.length + 4) := by
  have htext : (Frame.full path symbol address).text =
      (path ++ [40] ++ symbol ++ [41, 32, 91] ++ address.val) ++ 93 :: [] := by
    simp [Frame.text, cstr]
  rw [strrchr_of_ne_zero _ (by decide), htext, lastIdx_append_cons (by simp)]
  simp only [List.length_append, List.length_cons, List.length_nil]
  congr 1
  omega

/-- The last closing parenthesis stands behind the symbol. -/
theorem strrchr_full_paren_end : strrchr (Frame.full path symbol address).text 41 =
    some (path.length + symbol.length + 1) := by
  have htext : (Frame.full path symbol address).text =
      (path ++ [40] ++ symbol) ++ 41 :: ([32, 91] ++ address.val ++ [93]) := by
    simp [Frame.text, cstr]
  rw [strrchr_of_ne_zero _ (by decide), htext, lastIdx_append_cons]
  · simp only [List.length_append, List.length_cons, List.length_nil]
    congr 1
    omega
  · simpa using address.property 41 (by decide)

/-- What stands behind the last occurrence is no longer than the whole. -/
theorem length_afterLast_le : (afterLast 40 symbol).length ≤ symbol.length := by
  rw [afterLast]
  split
  · rw [List.length_drop]
    exact Nat.sub_le _ _
  · exact le_rfl

/-- The last opening parenthesis is that of the symbol, or the last one in it. -/
theorem strrchr_full_paren : strrchr (Frame.full path symbol address).text 40 =
    some (path.length + (symbol.length - (afterLast 40 symbol).length)) := by
  have htext : (Frame.full path symbol address).text =
      (path ++ 40 :: symbol) ++ ([41, 32, 91] ++ address.val ++ [93]) := by
    simp [Frame.text, cstr]
  rw [strrchr_of_ne_zero _ (by decide), htext, lastIdx_append_of_notMem]
  · rw [lastIdx_append, lastIdx, afterLast]
    cases hidx : lastIdx 40 symbol with
    | none => simp
    | some i =>
        have hlt := lt_length_of_lastIdx hidx
        simp only [List.length_drop]
        congr 1
        omega
  · simpa using address.property 40 (by decide)

/-- The brackets enclose the address. -/
theorem cutLen_full_address : cutLen (Frame.full path symbol address).text 91 93 =
    some (toInt32 (address.val.length + 2)) := by
  simp only [cutLen, strrchr_full_bracket, strrchr_full_bracket_end, Option.bind_eq_bind,
    Option.bind_some]
  congr 2
  push_cast
  omega

/-- The parentheses enclose the symbol, or what of it stands behind its last
parenthesis. -/
theorem cutLen_full_symbol : cutLen (Frame.full path symbol address).text 40 41 =
    some (toInt32 ((afterLast 40 symbol).length + 2)) := by
  have hle := length_afterLast_le symbol
  simp only [cutLen, strrchr_full_paren, strrchr_full_paren_end, Option.bind_eq_bind,
    Option.bind_some]
  congr 2
  push_cast [hle]
  omega

end Full

/-- A frame without a symbol has no parentheses. -/
theorem cutLen_bare (address : { s : List UInt8 // ∀ c ∈ delimiters, c ∉ s }) :
    cutLen (Frame.bare address).text 40 41 = none := by
  have hno : strrchr (Frame.bare address).text 40 = none := by
    rw [strrchr_of_ne_zero _ (by decide), lastIdx_eq_none_iff]
    simpa [Frame.text, cstr] using address.property 40 (by decide)
  simp [cutLen, hno]

/-- **One frame.**  Its round is safe when it meets the condition, and only then. -/
theorem isSome_backtraceFrame_text_iff (frame : ByteBuffer gtBacktraceBufSize)
    (lines : List (List UInt8)) (f : Frame) :
    (backtraceFrame frame lines f.text).isSome ↔ f.Fits := by
  rw [isSome_backtraceFrame_iff]
  cases f with
  | full path symbol address =>
      rw [cutLen_full_address, cutLen_full_symbol]
      constructor
      · rintro ⟨addrLen, symLen, haddr, hsym, hfits⟩
        rw [← Option.some.inj haddr, ← Option.some.inj hsym] at hfits
        exact hfits
      · intro hfits
        exact ⟨_, _, rfl, rfl, hfits⟩
  | bare address =>
      rw [cutLen_bare]
      refine iff_of_false ?_ (fun h => h)
      rintro ⟨_, _, -, hsym, -⟩
      cases hsym

/-- **When the backtrace is safe.**  Whatever `backtrace_symbols` returns,
`gt_backtrace_print` uses only delimiters that were found and writes only in its
buffer, exactly when there is no frame, or the array is not null and every frame
has a symbol and fits. -/
theorem backtrace_safe_iff (sig : ℤ) {nptrs : ℕ} (frames : Option (Fin nptrs → Frame)) :
    (gtBacktracePrint sig (frames.map fun fs i => (fs i).text)).isSome ↔
      nptrs = 0 ∨ ∃ fs, frames = some fs ∧ ∀ i, (fs i).Fits := by
  cases frames with
  | none =>
      rw [gtBacktracePrint, Option.isSome_map,
        isSome_foldlM_iff (P := fun _ => False) (by intro b i; simp)]
      simp only [List.mem_finRange, forall_true_left, reduceCtorEq, false_and, exists_false,
        or_false]
      constructor
      · intro hnone
        by_contra hne
        exact hnone ⟨0, Nat.pos_of_ne_zero hne⟩
      · rintro rfl i
        exact i.elim0
  | some fs =>
      rw [gtBacktracePrint, Option.isSome_map, isSome_foldlM_iff (P := fun i => (fs i).Fits)]
      · constructor
        · intro hfits
          exact .inr ⟨fs, rfl, fun i => hfits i (List.mem_finRange i)⟩
        · rintro (rfl | ⟨_, ⟨⟩, hfits⟩) i -
          · exact i.elim0
          · exact hfits i
      · intro b i
        exact isSome_backtraceFrame_text_iff b.1 b.2 (fs i)

/-- The address of a frame of `main`. -/
def mainAddress : { s : List UInt8 // ∀ c ∈ delimiters, c ∉ s } :=
  ⟨cstr "0x4011d6", by decide +kernel⟩

/-- A frame of `main` in `./guitar`. -/
def mainFrame (symbol : List UInt8) : Frame := .full (cstr "./guitar") symbol mainAddress

/-- The null array, a frame without a symbol and a symbol of 120 bytes are not handled;
a short symbol is. -/
theorem backtrace_trusts_frames :
    gtBacktracePrint 11 (none : Option (Fin 1 → List UInt8)) = none ∧
    gtBacktracePrint 11 (some fun _ : Fin 1 => (Frame.bare mainAddress).text) = none ∧
    gtBacktracePrint 11 (some fun _ : Fin 1 => (mainFrame (List.replicate 120 97)).text) = none ∧
    gtBacktracePrint 11 (some fun _ : Fin 1 => (mainFrame (cstr "main+0x1b")).text) =
      some [cstr "Calltrace: Catch Signal 11\n", cstr "[0x4011d6](main+0x1b)\n"] :=
  ⟨by decide +kernel, by decide +kernel, by decide +kernel, by decide +kernel⟩

end GuitarTea
