import GuitarTea.Backtrace

/-!
# What a cut copies and what the backtrace prints

`gt_strcut` has one length for both of its modes: the number of bytes from the
first delimiter to the second, both included.  With the delimiters kept, that is
what it copies.  Without them, it begins one byte later and copies as much, so that
the closing delimiter and the byte behind it come along.

`gt_backtrace_print` keeps the delimiters.  It puts the symbol behind the address,
at the place the first cut returned, and the NUL of the second cut hides what an
earlier frame left in the buffer.

## Main definitions

* `CutsOut` — a cut is the text between its delimiters, and returns its length.
* `SymbolFrame` — the frames with a symbol that fits in the buffer.
* `SymbolFrame.line` — the line of such a frame.
-/

namespace GuitarTea

open CString

/-! ## One cut -/

/-- **A cut with its delimiters**, right behind what the buffer already holds: the text
from the one delimiter to the other and a NUL. -/
theorem exists_gtStrcut {n : ℕ} {dst : ByteBuffer n} {before : List UInt8} {off : ℤ}
    (hbefore : before <+: dst.bytes) (hoff : off = before.length) {src : List UInt8}
    {cstart cend : UInt8} {i j : ℕ} (hi : strrchr src cstart = some i)
    (hj : strrchr src cend = some j) (hij : i ≤ j) (hsrc : j < src.length)
    (hlen : j - i + 1 < 2147483648) (hfit : before.length + (j - i + 1) < n) :
    ∃ dst', gtStrcut dst off src cstart cend true = some (((j - i + 1 : ℕ) : ℤ), dst') ∧
      before ++ (src.drop i).take (j - i + 1) ++ [0] <+: dst'.bytes := by
  have hsub : toInt32 ((j : ℤ) - i + 1) = ((j - i + 1 : ℕ) : ℤ) := by
    rw [toInt32_of_range (by omega) (by omega)]
    omega
  have hsize : toSizeT ((j - i + 1 : ℕ) : ℤ) = j - i + 1 := by
    have := toSizeT_of_nonneg (x := ((j - i + 1 : ℕ) : ℤ)) (by omega) (by omega)
    omega
  have hcount : j - i + 1 ≤ (src.drop i).length := by
    rw [List.length_drop]
    omega
  obtain ⟨copied, hcopy, hcopied⟩ :=
    exists_strncpy_after hbefore hoff hcount (Nat.le_of_lt hfit)
  have htext : (before ++ (src.drop i).take (j - i + 1)).length = before.length + (j - i + 1) := by
    rw [List.length_append, List.length_take_of_le hcount]
  have hend : off + ((j - i + 1 : ℕ) : ℤ) =
      (before ++ (src.drop i).take (j - i + 1)).length := by
    omega
  obtain ⟨ended, hstore, hended⟩ := ByteBuffer.exists_store_after hcopied hend [0]
    (by simp only [htext]; exact hfit)
  refine ⟨ended, ?_, hended⟩
  rw [gtStrcut_kept dst off hi hj, hsub, hsize, hcopy, Option.bind_some, hstore, Option.map_some]

/-- The text a cut is asked for: with both delimiters, or strictly between them. -/
def cutText (src : List UInt8) (i j : ℕ) (flag : Bool) : List UInt8 :=
  if flag then ((src ++ [0]).drop i).take (j - i + 1)
  else ((src ++ [0]).drop (i + 1)).take (j - i - 1)

/-- The cut makes the string at its destination the text it is asked for, and returns
the length of that string. -/
def CutsOut {n : ℕ} (dst : ByteBuffer n) (off : ℤ) (src : List UInt8) (cstart cend : UInt8)
    (flag : Bool) (i j : ℕ) : Prop :=
  ∃ ret dst', gtStrcut dst off src cstart cend flag = some (ret, dst') ∧
    (dst'.bytes.drop off.toNat).takeWhile (· ≠ 0) = cutText src i j flag ∧
    ret = ((dst'.bytes.drop off.toNat).takeWhile (· ≠ 0)).length

/-- The length of the text a cut is asked for. -/
theorem length_cutText {src : List UInt8} {i j : ℕ} (hij : i < j) (hj : j ≤ src.length)
    (flag : Bool) : (cutText src i j flag).length = if flag then j - i + 1 else j - i - 1 := by
  cases flag with
  | true =>
      simp only [cutText, if_true, List.length_take, List.length_drop, List.length_append,
        List.length_singleton]
      omega
  | false =>
      simp only [cutText, Bool.false_eq_true, if_false, List.length_take, List.length_drop,
        List.length_append, List.length_singleton]
      omega

section CutsOut

variable {n : ℕ} {dst : ByteBuffer n} {off : ℤ} {src : List UInt8} {cstart cend : UInt8} {i j : ℕ}
  (hi : strrchr src cstart = some i) (hj : strrchr src cend = some j) (hij : i < j)
include hi hj hij

/-- The two modes return the same length, so that the text without the delimiters cannot
be right; and a string holds no NUL. -/
theorem CutsOut.kept {flag : Bool} (h : CutsOut dst off src cstart cend flag i j) :
    flag = true ∧ cend ≠ 0 ∧ j - i + 1 < 2147483648 := by
  obtain ⟨ret, dst', hcut, htext, hret⟩ := h
  have hsub : toInt32 ((j : ℤ) - i + 1) = ret := by
    have hlen := fst_gtStrcut hcut
    simpa [cutLen, hi, hj] using hlen
  rw [htext, length_cutText hij (le_length_of_strrchr hj)] at hret
  cases flag with
  | false =>
      simp only [Bool.false_eq_true, if_false, toInt32] at hret hsub
      omega
  | true =>
      simp only [if_true, toInt32] at hret hsub
      refine ⟨rfl, ?_, by omega⟩
      rintro rfl
      have hget : (cutText src i j true)[j - i]? = some 0 := by
        rw [cutText, if_pos rfl, List.getElem?_take_of_lt (by omega), List.getElem?_drop,
          Nat.add_sub_cancel' hij.le]
        exact getElem?_of_lastIdx hj
      have hmem := List.mem_of_getElem? hget
      rw [← htext] at hmem
      simpa using List.mem_takeWhile_imp hmem

/-- With the delimiters kept the cut is right. -/
theorem cutsOut_of_kept (hoff : 0 ≤ off) (hnul : 0 ∉ src) (hroom : off + (j - i + 1) < n)
    (hcend : cend ≠ 0) (hlen : j - i + 1 < 2147483648) :
    CutsOut dst off src cstart cend true i j := by
  have hjlt : j < src.length := by
    rw [strrchr_of_ne_zero _ hcend] at hj
    exact lt_length_of_lastIdx hj
  have hbefore : (dst.bytes.take off.toNat).length = off.toNat := by
    rw [List.length_take, dst.length_eq]
    omega
  have hoff' : off = (dst.bytes.take off.toNat).length := by omega
  obtain ⟨dst', hcut, hdst'⟩ := exists_gtStrcut (List.take_prefix off.toNat dst.bytes) hoff' hi
    hj hij.le hjlt hlen (by omega)
  have htext : (src.drop i).take (j - i + 1) = cutText src i j true := by
    rw [cutText, if_pos rfl, List.drop_append_of_le_length (by omega),
      List.take_append_of_le_length (by rw [List.length_drop]; omega)]
  have hstring : (dst'.bytes.drop off.toNat).takeWhile (· ≠ 0) = cutText src i j true := by
    rw [← htext]
    apply takeWhile_of_terminated
    · intro hmem
      exact hnul (List.mem_of_mem_drop (List.mem_of_mem_take hmem))
    · obtain ⟨rest, hrest⟩ := hdst'
      refine ⟨rest, ?_⟩
      rw [← hrest]
      simp only [List.append_assoc]
      rw [List.drop_left' hbefore]
  refine ⟨_, dst', hcut, hstring, ?_⟩
  rw [hstring, length_cutText hij hjlt.le, if_pos rfl]

end CutsOut

/-- **When a cut is right.**  Whatever the string, the delimiters and a buffer with room
for the text and a NUL, `gt_strcut` does what it is asked for exactly when the
delimiters are to be kept, the second one is not the NUL, and the length is an
`int32_t`. -/
theorem cutsOut_iff {n : ℕ} (dst : ByteBuffer n) {off : ℤ} (hoff : 0 ≤ off) {src : List UInt8}
    (hnul : 0 ∉ src) {cstart cend : UInt8} (flag : Bool) {i j : ℕ}
    (hi : strrchr src cstart = some i) (hj : strrchr src cend = some j) (hij : i < j)
    (hroom : off + (j - i + 1) < n) :
    CutsOut dst off src cstart cend flag i j ↔
      flag = true ∧ cend ≠ 0 ∧ j - i + 1 < 2147483648 := by
  constructor
  · intro h
    exact h.kept hi hj hij
  · rintro ⟨rfl, hcend, hlen⟩
    exact cutsOut_of_kept hi hj hij hoff hnul hroom hcend hlen

/-- Cutting what stands between the parentheses of `a(b)c` yields `b)c`, and the length 3. -/
theorem not_cutsOut_between :
    strrchr (cstr "a(b)c") 40 = some 1 ∧ strrchr (cstr "a(b)c") 41 = some 3 ∧
    (gtStrcut (ByteBuffer.zero 8) 0 (cstr "a(b)c") 40 41 false).map
      (fun r => (r.1, r.2.bytes.takeWhile (· ≠ 0))) = some (3, cstr "b)c") ∧
    ¬ CutsOut (ByteBuffer.zero 8) 0 (cstr "a(b)c") 40 41 false 1 3 := by
  have hcode : (gtStrcut (ByteBuffer.zero 8) 0 (cstr "a(b)c") 40 41 false).map
      (fun r => (r.1, r.2.bytes.takeWhile (· ≠ 0))) = some (3, cstr "b)c") := by
    decide +kernel
  refine ⟨by decide +kernel, by decide +kernel, hcode, ?_⟩
  rintro ⟨ret, dst', hcut, htext, -⟩
  have hstring : dst'.bytes.takeWhile (· ≠ 0) = cstr "b)c" := by
    rw [hcut] at hcode
    exact congrArg Prod.snd (Option.some.inj hcode)
  rw [Int.toNat_zero, List.drop_zero, hstring] at htext
  exact absurd htext (by decide +kernel)

/-- Keeping them yields `(b)`. -/
theorem cutsOut_kept :
    CutsOut (ByteBuffer.zero 8) 0 (cstr "a(b)c") 40 41 true 1 3 :=
  (cutsOut_iff (ByteBuffer.zero 8) le_rfl (by decide +kernel) true (by decide +kernel)
    (by decide +kernel) (by decide) (by decide)).mpr (by decide)

/-! ## The lines of a backtrace -/

/-- A frame with a symbol, of C strings: the symbol and the address have no delimiters,
the path is any, and the two groups fit in the buffer. -/
structure SymbolFrame where
  /-- The object file, whatever its name. -/
  path : List UInt8
  /-- The symbol and the offset in it. -/
  sym : List UInt8
  /-- The address. -/
  addr : List UInt8
  nul_notMem_path : 0 ∉ path
  nul_notMem_sym : 0 ∉ sym
  nul_notMem_addr : 0 ∉ addr
  sym_free : ∀ c ∈ delimiters, c ∉ sym
  addr_free : ∀ c ∈ delimiters, c ∉ addr
  length_le : sym.length + addr.length + 4 ≤ 127

namespace SymbolFrame

variable (f : SymbolFrame)

/-- The text of the frame. -/
def text : List UInt8 := f.path ++ cstr "(" ++ f.sym ++ cstr ") [" ++ f.addr ++ cstr "]"

/-- The line of the frame: the address and the symbol in their delimiters. -/
def line : List UInt8 := cstr "[" ++ f.addr ++ cstr "](" ++ f.sym ++ cstr ")"

/-- A symbol without parentheses is all that stands behind the last one. -/
theorem afterLast_sym : afterLast 40 f.sym = f.sym := by
  rw [afterLast, lastIdx_eq_none_iff.mpr (f.sym_free 40 (by decide))]

/-- The length of a frame. -/
theorem length_text :
    f.text.length = f.path.length + f.sym.length + f.addr.length + 5 := by
  simp only [text, List.length_append, length_cstr]
  change _ + 1 + _ + 3 + _ + 1 = _
  omega

/-- The bytes the first cut copies. -/
theorem take_drop_address :
    (f.text.drop (f.path.length + f.sym.length + 3)).take (f.addr.length + 2) =
      91 :: f.addr ++ [93] := by
  have htext : f.text = (f.path ++ 40 :: f.sym ++ [41, 32]) ++ (91 :: f.addr ++ [93]) := by
    simp [text, cstr]
  rw [htext, List.drop_left' (by simp; omega), List.take_of_length_le (by simp)]

/-- The bytes the second cut copies. -/
theorem take_drop_symbol :
    (f.text.drop f.path.length).take (f.sym.length + 2) = 40 :: f.sym ++ [41] := by
  have htext : f.text = f.path ++ ((40 :: f.sym ++ [41]) ++ (32 :: 91 :: f.addr ++ [93])) := by
    simp [text, cstr]
  rw [htext, List.drop_left, List.take_left' (by simp)]

/-- The first cut: the address goes to the front of the buffer. -/
theorem exists_cut_address (buf : ByteBuffer gtBacktraceBufSize) :
    ∃ buf', gtStrcut buf 0 f.text 91 93 true = some (((f.addr.length + 2 : ℕ) : ℤ), buf') ∧
      91 :: f.addr ++ [93] <+: buf'.bytes := by
  have hlength := f.length_le
  have hstart : strrchr f.text 91 = some (f.path.length + f.sym.length + 3) :=
    strrchr_full_bracket f.path f.sym ⟨f.addr, f.addr_free⟩
  have hstop : strrchr f.text 93 = some (f.path.length + f.sym.length + f.addr.length + 4) :=
    strrchr_full_bracket_end f.path f.sym ⟨f.addr, f.addr_free⟩
  have hcount : f.path.length + f.sym.length + f.addr.length + 4 -
      (f.path.length + f.sym.length + 3) + 1 = f.addr.length + 2 := by omega
  obtain ⟨buf', hcut, hbuf'⟩ := exists_gtStrcut (List.nil_prefix (l := buf.bytes)) rfl hstart hstop
    (by omega) (by rw [length_text]; omega) (by omega)
    (by rw [List.length_nil, gtBacktraceBufSize]; omega)
  rw [hcount] at hcut
  rw [hcount, take_drop_address, List.nil_append] at hbuf'
  exact ⟨buf', hcut, (List.prefix_append _ _).trans hbuf'⟩

/-- The second cut: the symbol and a NUL go behind the address. -/
theorem exists_cut_symbol {buf : ByteBuffer gtBacktraceBufSize}
    (hbuf : 91 :: f.addr ++ [93] <+: buf.bytes) :
    ∃ buf', gtStrcut buf ((f.addr.length + 2 : ℕ) : ℤ) f.text 40 41 true =
        some (((f.sym.length + 2 : ℕ) : ℤ), buf') ∧
      f.line ++ [0] <+: buf'.bytes := by
  have hlength := f.length_le
  have hstart : strrchr f.text 40 = some f.path.length := by
    have hfull := strrchr_full_paren f.path f.sym ⟨f.addr, f.addr_free⟩
    rw [afterLast_sym, Nat.sub_self, Nat.add_zero] at hfull
    exact hfull
  have hstop : strrchr f.text 41 = some (f.path.length + f.sym.length + 1) :=
    strrchr_full_paren_end f.path f.sym ⟨f.addr, f.addr_free⟩
  have hcount : f.path.length + f.sym.length + 1 - f.path.length + 1 = f.sym.length + 2 := by
    omega
  have hbefore : (91 :: f.addr ++ [93]).length = f.addr.length + 2 := by simp
  obtain ⟨buf', hcut, hbuf'⟩ := exists_gtStrcut hbuf (congrArg Nat.cast hbefore.symm) hstart hstop
    (by omega) (by rw [length_text]; omega) (by omega)
    (by rw [hbefore, gtBacktraceBufSize]; omega)
  rw [hcount] at hcut
  rw [hcount, take_drop_symbol] at hbuf'
  have hline : f.line = 91 :: f.addr ++ [93] ++ (40 :: f.sym ++ [41]) := by simp [line, cstr]
  exact ⟨buf', hcut, hline ▸ hbuf'⟩

/-- A line is a C string. -/
theorem nul_notMem_line : 0 ∉ f.line := by
  have hsym := f.nul_notMem_sym
  have haddr := f.nul_notMem_addr
  simp [line, cstr, hsym, haddr]

/-- **One round of the loop.**  Whatever the buffer holds, the line of the frame is
printed. -/
theorem exists_backtraceFrame (buf : ByteBuffer gtBacktraceBufSize) (lines : List (List UInt8)) :
    ∃ buf', backtraceFrame buf lines f.text = some (buf', lines ++ [f.line ++ cstr "\n"]) := by
  obtain ⟨buf₁, hfirst, hbuf₁⟩ := f.exists_cut_address buf
  obtain ⟨buf₂, hsecond, hbuf₂⟩ := f.exists_cut_symbol hbuf₁
  refine ⟨buf₂, ?_⟩
  simp only [backtraceFrame, hfirst, hsecond, Option.bind_eq_bind, Option.bind_some,
    takeWhile_of_terminated f.nul_notMem_line hbuf₂]

end SymbolFrame

/-- The rounds of the loop for some of the frames, from any buffer on. -/
theorem exists_foldlM_backtraceFrame {nptrs : ℕ} (fs : Fin nptrs → SymbolFrame)
    (is : List (Fin nptrs)) (buf : ByteBuffer gtBacktraceBufSize) (lines : List (List UInt8)) :
    ∃ buf', is.foldlM (fun (b : ByteBuffer gtBacktraceBufSize × List (List UInt8)) i =>
        backtraceFrame b.1 b.2 (fs i).text) (buf, lines) =
      some (buf', lines ++ is.map fun i => (fs i).line ++ cstr "\n") := by
  induction is generalizing buf lines with
  | nil => exact ⟨buf, by simp⟩
  | cons i is ih =>
      obtain ⟨buf₁, hround⟩ := (fs i).exists_backtraceFrame buf lines
      obtain ⟨buf', hrest⟩ := ih buf₁ (lines ++ [(fs i).line ++ cstr "\n"])
      refine ⟨buf', ?_⟩
      rw [List.foldlM_cons, hround, Option.bind_eq_bind, Option.bind_some, hrest, List.map_cons,
        List.append_assoc, List.singleton_append]

/-- **What the backtrace prints.**  For every list of frames with a symbol that fits,
`gt_backtrace_print` prints its heading and the line of each frame, in order. -/
theorem gtBacktracePrint_lines (sig : ℤ) {nptrs : ℕ} (fs : Fin nptrs → SymbolFrame) :
    gtBacktracePrint sig (some fun i => (fs i).text) =
      some ((cstr "Calltrace: Catch Signal " ++ cstr (toString sig) ++ cstr "\n") ::
        List.ofFn fun i => (fs i).line ++ cstr "\n") := by
  obtain ⟨buf', hrounds⟩ := exists_foldlM_backtraceFrame fs (List.finRange nptrs)
    (ByteBuffer.zero gtBacktraceBufSize)
    [cstr "Calltrace: Catch Signal " ++ cstr (toString sig) ++ cstr "\n"]
  simp only [gtBacktracePrint, Option.bind_some]
  rw [hrounds, Option.map_some, List.ofFn_eq_map, List.singleton_append]

/-- A frame whose path has all four delimiters. -/
def longFrame : SymbolFrame where
  path := cstr "/opt/a(b)[c]/gt"
  sym := cstr "gt_signal_routine+0x1f"
  addr := cstr "0x7f00aa11"
  nul_notMem_path := by decide +kernel
  nul_notMem_sym := by decide +kernel
  nul_notMem_addr := by decide +kernel
  sym_free := by decide +kernel
  addr_free := by decide +kernel
  length_le := by decide +kernel

/-- A shorter one. -/
def shortFrame : SymbolFrame where
  path := cstr "./gt"
  sym := cstr "main+0x5"
  addr := cstr "0x40"
  nul_notMem_path := by decide +kernel
  nul_notMem_sym := by decide +kernel
  nul_notMem_addr := by decide +kernel
  sym_free := by decide +kernel
  addr_free := by decide +kernel
  length_le := by decide +kernel

/-- The longer frame, and then the shorter one. -/
def twoFrames (i : Fin 2) : SymbolFrame := if i.val = 0 then longFrame else shortFrame

/-- Nothing of the longer frame is left in the line of the shorter one. -/
theorem gtBacktracePrint_lines_two :
    gtBacktracePrint 11 (some fun i => (twoFrames i).text) =
      some [cstr "Calltrace: Catch Signal 11\n",
        cstr "[0x7f00aa11](gt_signal_routine+0x1f)\n", cstr "[0x40](main+0x5)\n"] := by
  rw [gtBacktracePrint_lines 11 twoFrames]
  decide +kernel

end GuitarTea
