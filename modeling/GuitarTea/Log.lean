import GuitarTea.Base
import GuitarTea.Lib.ByteBuffer

/-!
# The log engine

`gt_log_print` assembles a record in a local buffer of 1024 bytes: a timestamp, a
level tag, the caller's formatted message and a newline.  Each part is placed
behind the previous one with the length that `strftime`, `snprintf` or
`vsnprintf` reported for it.  The last two report the length the text would have
without truncation, so the offsets are not bounded by what was stored.

The offsets are computed by `gtLogOffsets` from the three reported lengths alone,
and `gtLogPrint` performs the stores and the final `write` at these offsets.
`LogOffsets.Inside` is the memory-safety condition on the numbers;
`isSome_gtLogPrint_iff` says that it is exactly what keeps the function inside
its buffer, and `inside_gtLogOffsets_iff` computes it.

A call of one of the `GT_*_LOG` macros is a `LogCall`: the other modules record
these calls with the texts of the source, and `LogCall.render` is the message
`vsnprintf` forms from one.

## Main definitions

* `LogCall`, `LogCall.render` — a call of a logging macro and its message.
* `gtLogOffsets`, `LogOffsets.Inside` — the offsets and their safety condition.
* `gtLogPrint` — the function, on the buffer.
-/

namespace GuitarTea

/-! ## Logging calls -/

/-- `gt_log_level_e`. -/
inductive GtLogLevel
  | info
  | warn
  | error
  | debug
  deriving DecidableEq, Repr

/-- `g_log_level_str`. -/
def gLogLevelStr : GtLogLevel → String
  | .info => "INFO"
  | .warn => "WARN"
  | .error => "ERROR"
  | .debug => "DEBUG"

/-- A piece of a format string together with the argument it consumes. -/
inductive LogPiece
  /-- Text that is copied. -/
  | text (s : String)
  /-- `%s` of a string of the program. -/
  | str (s : List UInt8)
  /-- `%d`. -/
  | int (n : ℤ)
  /-- `%#x`. -/
  | hex (n : ℕ)
  /-- `%s` of `strerror(errnum)`. -/
  | strerror (errnum : Errno)
  deriving DecidableEq, Repr

/-- One call of a logging macro.  `func` and `line` are the `__FUNCTION__` and
`__LINE__` that the macro puts in front of the message. -/
structure LogCall where
  /-- `stdfd_flag`: the `GT_STD_*_LOG` macros write to the standard output. -/
  stdfdFlag : Bool
  level : GtLogLevel
  func : String
  line : ℕ
  msg : List LogPiece
  deriving DecidableEq, Repr

/-- `GT_INFO_LOG`. -/
def gtInfoLog (func : String) (line : ℕ) (msg : List LogPiece) : LogCall :=
  ⟨false, .info, func, line, msg⟩

/-- `GT_WARN_LOG`. -/
def gtWarnLog (func : String) (line : ℕ) (msg : List LogPiece) : LogCall :=
  ⟨false, .warn, func, line, msg⟩

/-- `GT_ERROR_LOG`. -/
def gtErrorLog (func : String) (line : ℕ) (msg : List LogPiece) : LogCall :=
  ⟨false, .error, func, line, msg⟩

/-- The bytes a piece contributes to the message.  The texts of `strerror` are
those of the C library and stay a parameter. -/
def LogPiece.render (strerror : Errno → List UInt8) : LogPiece → List UInt8
  | .text s => cstr s
  | .str s => s
  | .int n => cstr (toString n)
  | .hex n => if n = 0 then cstr "0" else cstr "0x" ++ cstr (String.ofList (Nat.toDigits 16 n))
  | .strerror errnum => strerror errnum

/-- The message of a call, with the prefix `[function:line] ` of the macros. -/
def LogCall.render (strerror : Errno → List UInt8) (c : LogCall) : List UInt8 :=
  cstr "[" ++ cstr c.func ++ cstr ":" ++ cstr (toString c.line) ++ cstr "] " ++
    c.msg.flatMap (LogPiece.render strerror)

/-! ## The offsets -/

/-- `GT_LOG_BUF_MAX_LEN`. -/
def gtLogBufMaxLen : ℤ := 1024

/-- Every offset, size and count that `gt_log_print` computes. -/
structure LogOffsets where
  /-- Where the level tag goes, and the size given for it. -/
  levelOff : ℤ
  levelSize : ℤ
  /-- Where the message goes, and the size given for it. -/
  msgOff : ℤ
  msgSize : ℤ
  /-- `log_length`: where the newline goes, and the size given for it. -/
  logLength : ℤ
  endSize : ℤ
  /-- The number of bytes passed to `write`. -/
  count : ℤ
  deriving DecidableEq, Repr

/-- The arithmetic of `gt_log_print`, from the four lengths reported to it. -/
def gtLogOffsets (retTimeLen retLevelLen retLogLen retEndLen : ℤ) : LogOffsets :=
  let msgSize := toInt32 (gtLogBufMaxLen - retTimeLen - retLevelLen - 1)
  let logLength :=
    if msgSize > retLogLen then toInt32 (retTimeLen + retLevelLen + retLogLen)
    else toInt32 (retTimeLen + retLevelLen + retLogLen - 1)
  { levelOff := retTimeLen
    levelSize := toInt32 (gtLogBufMaxLen - retTimeLen - 1)
    msgOff := toInt32 (retTimeLen + retLevelLen)
    msgSize := msgSize
    logLength := logLength
    endSize := toInt32 (gtLogBufMaxLen - logLength - 1)
    count := toInt32 (logLength + retEndLen) }

/-- An offset inside the buffer, with a size that does not reach past its end. -/
def InBuf (off size : ℤ) : Prop :=
  0 ≤ off ∧ off < gtLogBufMaxLen ∧ 0 ≤ size ∧ size ≤ gtLogBufMaxLen - off

instance (off size : ℤ) : Decidable (InBuf off size) :=
  inferInstanceAs (Decidable
    (0 ≤ off ∧ off < gtLogBufMaxLen ∧ 0 ≤ size ∧ size ≤ gtLogBufMaxLen - off))

/-- All offsets and sizes stay inside the buffer. -/
structure LogOffsets.Inside (o : LogOffsets) : Prop where
  level : InBuf o.levelOff o.levelSize
  msg : InBuf o.msgOff o.msgSize
  log_length : InBuf o.logLength o.endSize
  count_nonneg : 0 ≤ o.count
  count_le : o.count ≤ gtLogBufMaxLen

/-- The size given for the message is what the first two parts leave. -/
theorem toInt32_msgSize {t l : ℕ} (hfit : t + l < 1024) :
    toInt32 (gtLogBufMaxLen - t - l - 1) = 1023 - t - l := by
  rw [toInt32_of_range] <;> simp only [gtLogBufMaxLen] <;> omega

/-- The numbers of `gt_log_print` when no sum leaves `int32_t`. -/
theorem gtLogOffsets_of_fits {t l n : ℕ} (hfit : t + l < 1024) (hn : t + l + n < 2147483648) :
    gtLogOffsets t l n 1 =
      let logLength : ℤ := if (1023 : ℤ) - t - l > n then t + l + n else t + l + n - 1
      { levelOff := t
        levelSize := 1023 - t
        msgOff := t + l
        msgSize := 1023 - t - l
        logLength := logLength
        endSize := 1023 - logLength
        count := logLength + 1 } := by
  have hlevel : toInt32 (gtLogBufMaxLen - t - 1) = 1023 - t := by
    rw [toInt32_of_range] <;> simp only [gtLogBufMaxLen] <;> omega
  have hoff : toInt32 ((t : ℤ) + l) = t + l := toInt32_of_range (by omega) (by omega)
  have hfull : toInt32 ((t : ℤ) + l + n) = t + l + n := toInt32_of_range (by omega) (by omega)
  have hcut : toInt32 ((t : ℤ) + l + n - 1) = t + l + n - 1 :=
    toInt32_of_range (by omega) (by omega)
  simp only [gtLogOffsets, toInt32_msgSize hfit, hlevel, hoff, hfull, hcut, LogOffsets.mk.injEq,
    true_and]
  split
  all_goals
    refine ⟨?_, toInt32_of_range (by omega) (by omega)⟩
    rw [toInt32_of_range] <;> simp only [gtLogBufMaxLen] <;> omega

/-- A record longer than the buffer puts the newline outside of it, after the end
or, once the sum leaves `int32_t`, before the start. -/
theorem logLength_outside {t l n : ℕ} (hfit : t + l < 1024) (hn : n < 2147483648)
    (hlong : 1024 < t + l + n) : ¬ (0 ≤ (gtLogOffsets t l n 1).logLength ∧
      (gtLogOffsets t l n 1).logLength < 1024) := by
  have hcut : ¬ ((1023 : ℤ) - t - l > n) := by omega
  simp only [gtLogOffsets, toInt32_msgSize hfit, hcut, if_false]
  rw [toInt32]
  omega

/-- An offset outside the buffer never comes with a size of zero. -/
theorem endSize_ne_zero {t l n e : ℤ} (hout : ¬ (0 ≤ (gtLogOffsets t l n e).logLength ∧
    (gtLogOffsets t l n e).logLength < 1024)) : toSizeT (gtLogOffsets t l n e).endSize ≠ 0 := by
  have hrange : ∀ x, -2147483648 ≤ toInt32 x ∧ toInt32 x < 2147483648 := by
    intro x
    rw [toInt32]
    omega
  have hl : -2147483648 ≤ (gtLogOffsets t l n e).logLength ∧
      (gtLogOffsets t l n e).logLength < 2147483648 := by
    simp only [gtLogOffsets]
    split <;> exact hrange _
  have hend : (gtLogOffsets t l n e).endSize =
      toInt32 (gtLogBufMaxLen - (gtLogOffsets t l n e).logLength - 1) := rfl
  rw [hend, toSizeT, toInt32, gtLogBufMaxLen]
  omega

/-- **The offsets stay inside the buffer exactly when the record, without its
newline, is at most as long as the buffer.**  The branch for truncated messages
takes `log_length` from the untruncated length, so nothing bounds it. -/
theorem inside_gtLogOffsets_iff {t l n : ℕ} (hfit : t + l < 1024) (hn : n < 2147483648) :
    (gtLogOffsets t l n 1).Inside ↔ t + l + n ≤ 1024 := by
  constructor
  · intro h
    by_contra hlong
    obtain ⟨hnonneg, hlt, _⟩ := h.log_length
    exact logLength_outside hfit hn (by omega) ⟨hnonneg, hlt⟩
  · intro h
    rw [gtLogOffsets_of_fits hfit (by omega)]
    refine ⟨?_, ?_, ?_, ?_, ?_⟩ <;> simp only [InBuf, gtLogBufMaxLen]
    · omega
    · omega
    all_goals split <;> omega

/-! ## The function on its buffer -/

/-- The local buffer of `gt_log_print`. -/
abbrev LogBuf := ByteBuffer 1024

/-- What the `printf` family returns: the untruncated length, or a negative
number when an `int` cannot hold it. -/
def printfLen (text : List UInt8) : ℤ :=
  if text.length < 2147483648 then text.length else -1

/-- What `snprintf` stores for a text in an object of the given size. -/
def printfBytes (size : ℕ) (text : List UInt8) : List UInt8 :=
  if size = 0 then [] else text.take (size - 1) ++ [0]

/-- `snprintf(buf + off, size, ...)` of a formatted text; `none` when a byte is
stored outside `buf`. -/
def snprintf (buf : LogBuf) (off size : ℤ) (text : List UInt8) : Option (ℤ × LogBuf) :=
  (buf.store off (printfBytes (toSizeT size) text)).map fun buf' => (printfLen text, buf')

/-- `strftime(buf, max, ...)` of a formatted time: it returns zero when the text
and its NUL do not fit. -/
def strftime (buf : LogBuf) (max : ℤ) (text : List UInt8) : Option (ℤ × LogBuf) :=
  if text.length < toSizeT max then
    (buf.store 0 (text ++ [0])).map fun buf' => (text.length, buf')
  else some (0, buf)

/-- The text `"[%s] "` of a level. -/
def levelTag (level : GtLogLevel) : List UInt8 :=
  cstr "[" ++ cstr (gLogLevelStr level) ++ cstr "] "

/-- A `write` of a log record. -/
structure LogWrite where
  fd : ℤ
  data : List UInt8
  deriving DecidableEq, Repr

/-- `gt_log_print`, from the formatted time and message.  `now` is `none` when
`gettimeofday` fails.  The outer `none` is an access outside the buffer, the
inner one a return without a `write`. -/
def gtLogPrint (gGtLogFd : ℤ) (now : Option (List UInt8)) (stdfdFlag : Bool)
    (logLevel : GtLogLevel) (text : List UInt8) : Option (Option LogWrite) :=
  match now with
  | none => some none
  | some time =>
    (strftime (ByteBuffer.zero 1024) (gtLogBufMaxLen - 1) time).bind fun (retTimeLen, buf) =>
    if retTimeLen < 0 then some none else
    (snprintf buf retTimeLen (toInt32 (gtLogBufMaxLen - retTimeLen - 1))
      (levelTag logLevel)).bind fun (retLevelLen, buf) =>
    if retLevelLen < 0 then some none else
    (snprintf buf (toInt32 (retTimeLen + retLevelLen))
      (toInt32 (gtLogBufMaxLen - retTimeLen - retLevelLen - 1)) text).bind
        fun (retLogLen, buf) =>
    if retLogLen < 0 then some none else
    let o := gtLogOffsets retTimeLen retLevelLen retLogLen 1
    (snprintf buf o.logLength o.endSize (cstr "\n")).bind fun (retEndLen, buf) =>
    if retEndLen < 0 then some none else
    let fd := if stdfdFlag then 1 else gGtLogFd
    (buf.load (toInt32 (o.logLength + retEndLen))).map fun data => some ⟨fd, data⟩

@[simp] theorem printfLen_newline : printfLen (cstr "\n") = 1 := by decide

theorem printfLen_of_lt {text : List UInt8} (h : text.length < 2147483648) :
    printfLen text = text.length := by
  simp [printfLen, h]

/-- What `snprintf` stores never exceeds the size it was given. -/
theorem length_printfBytes_le (size : ℕ) (text : List UInt8) :
    (printfBytes size text).length ≤ size := by
  rw [printfBytes]
  split
  · simp
  · simp only [List.length_append, List.length_take, List.length_singleton]
    omega

/-- A call of `snprintf` whose offset and size stay in the buffer succeeds. -/
theorem exists_snprintf_of_inBuf (buf : LogBuf) {off size : ℤ} (h : InBuf off size)
    (text : List UInt8) : ∃ buf', snprintf buf off size text = some (printfLen text, buf') := by
  obtain ⟨h0, hlt, hs, hle⟩ := h
  simp only [gtLogBufMaxLen] at hlt hle
  have hlen := length_printfBytes_le (toSizeT size) text
  have hcap := toSizeT_of_nonneg hs (by omega)
  have hok : (buf.store off (printfBytes (toSizeT size) text)).isSome := by
    rw [ByteBuffer.isSome_store_iff]
    right
    omega
  obtain ⟨buf', hb⟩ := Option.isSome_iff_exists.mp hok
  exact ⟨buf', by simp [snprintf, hb]⟩

/-- The newline's `snprintf` stores a byte whenever its size is not zero, so an
offset outside the buffer is a store outside the buffer. -/
theorem snprintf_newline_eq_none (buf : LogBuf) {off size : ℤ} (hsize : toSizeT size ≠ 0)
    (hoff : ¬ (0 ≤ off ∧ off < 1024)) : snprintf buf off size (cstr "\n") = none := by
  have hbytes : 1 ≤ (printfBytes (toSizeT size) (cstr "\n")).length := by
    simp [printfBytes, hsize]
  have hbad : ¬ (buf.store off (printfBytes (toSizeT size) (cstr "\n"))).isSome := by
    rw [ByteBuffer.isSome_store_iff]
    rintro (hnil | hin)
    · simp [hnil] at hbytes
    · omega
  simpa [snprintf] using hbad

/-- A timestamp that fits is stored whole and its length reported; the level tag overwrites
its NUL. -/
theorem exists_strftime_front (buf : LogBuf) (time : List UInt8) (h : time.length < 1023) :
    ∃ buf', strftime buf (gtLogBufMaxLen - 1) time = some ((time.length : ℤ), buf') ∧
      time <+: buf'.bytes := by
  have hcap : toSizeT (gtLogBufMaxLen - 1) = 1023 := by decide
  have hnil : [] <+: buf.bytes := List.nil_prefix
  have hoff : (0 : ℤ) = ([] : List UInt8).length := rfl
  obtain ⟨buf', hstore, hprefix⟩ := ByteBuffer.exists_store_after hnil hoff (time ++ [0])
    (by simp only [List.length_append, List.length_singleton, List.length_nil]; omega)
  refine ⟨buf', by rw [strftime, hcap, if_pos h, hstore]; rfl, ?_⟩
  exact (List.prefix_append _ _).trans hprefix

/-- When the timestamp, the level tag and the message were stored, what remains of the
function is the last `snprintf` and the `write`. -/
theorem gtLogPrint_eq_end {time text : List UInt8} {logLevel : GtLogLevel}
    {buf₀ buf₁ buf₂ : LogBuf}
    (hstrf : strftime (ByteBuffer.zero 1024) (gtLogBufMaxLen - 1) time =
      some ((time.length : ℤ), buf₀))
    (hlevel : snprintf buf₀ time.length (toInt32 (gtLogBufMaxLen - time.length - 1))
      (levelTag logLevel) = some (((levelTag logLevel).length : ℤ), buf₁))
    (hmsg : snprintf buf₁ (toInt32 (time.length + (levelTag logLevel).length))
      (toInt32 (gtLogBufMaxLen - time.length - (levelTag logLevel).length - 1)) text =
        some ((text.length : ℤ), buf₂)) (gGtLogFd : ℤ) (stdfdFlag : Bool) :
    gtLogPrint gGtLogFd (some time) stdfdFlag logLevel text =
      let o := gtLogOffsets time.length (levelTag logLevel).length text.length 1
      (snprintf buf₂ o.logLength o.endSize (cstr "\n")).bind fun r =>
        if r.1 < 0 then some none else
        (r.2.load (toInt32 (o.logLength + r.1))).map fun data =>
          some ⟨if stdfdFlag then 1 else gGtLogFd, data⟩ := by
  have hnonneg : ∀ m : ℕ, ¬ ((m : ℤ) < 0) := by
    intro m
    omega
  simp only [gtLogPrint, hstrf, hlevel, hmsg, Option.bind_some, hnonneg, if_false]

section Safety

variable {time text : List UInt8} {logLevel : GtLogLevel} (htime : time.length < 1023)
  (hfit : time.length + (levelTag logLevel).length < 1024) (htext : text.length < 2147483648)
include htime hfit htext

/-- Up to the newline nothing leaves the buffer. -/
theorem exists_gtLogPrint_eq_end (gGtLogFd : ℤ) (stdfdFlag : Bool) :
    ∃ buf, gtLogPrint gGtLogFd (some time) stdfdFlag logLevel text =
      let o := gtLogOffsets time.length (levelTag logLevel).length text.length 1
      (snprintf buf o.logLength o.endSize (cstr "\n")).bind fun r =>
        if r.1 < 0 then some none else
        (r.2.load (toInt32 (o.logLength + r.1))).map fun data =>
          some ⟨if stdfdFlag then 1 else gGtLogFd, data⟩ := by
  obtain ⟨buf₀, hstrf, -⟩ := exists_strftime_front (ByteBuffer.zero 1024) time htime
  have hlevelBuf : InBuf time.length (toInt32 (gtLogBufMaxLen - time.length - 1)) := by
    rw [toInt32_of_range] <;> simp only [InBuf, gtLogBufMaxLen] <;> omega
  obtain ⟨buf₁, hlevel⟩ := exists_snprintf_of_inBuf buf₀ hlevelBuf (levelTag logLevel)
  have hmsgBuf : InBuf (toInt32 (time.length + (levelTag logLevel).length))
      (toInt32 (gtLogBufMaxLen - time.length - (levelTag logLevel).length - 1)) := by
    rw [toInt32_of_range (x := (time.length : ℤ) + _) (by omega) (by omega), toInt32_of_range] <;>
      simp only [InBuf, gtLogBufMaxLen] <;> omega
  obtain ⟨buf₂, hmsg⟩ := exists_snprintf_of_inBuf buf₁ hmsgBuf text
  rw [printfLen_of_lt (by omega)] at hlevel
  rw [printfLen_of_lt htext] at hmsg
  exact ⟨buf₂, gtLogPrint_eq_end hstrf hlevel hmsg gGtLogFd stdfdFlag⟩

/-- **`gt_log_print` stays inside its buffer exactly when its offsets do.**  The
lengths are those of a timestamp and a level tag that fit, and of a message whose
length `vsnprintf` can report. -/
theorem isSome_gtLogPrint_iff (gGtLogFd : ℤ) (stdfdFlag : Bool) :
    (gtLogPrint gGtLogFd (some time) stdfdFlag logLevel text).isSome ↔
      (gtLogOffsets time.length (levelTag logLevel).length text.length 1).Inside := by
  obtain ⟨buf, hrun⟩ := exists_gtLogPrint_eq_end htime hfit htext gGtLogFd stdfdFlag
  rw [hrun]
  constructor
  · intro hsome
    rw [inside_gtLogOffsets_iff hfit htext]
    by_contra hlong
    have hout := logLength_outside hfit htext (by omega)
    simp [snprintf_newline_eq_none buf (endSize_ne_zero hout) hout] at hsome
  · intro hin
    obtain ⟨buf', hend⟩ := exists_snprintf_of_inBuf buf hin.log_length (cstr "\n")
    have hload : (buf'.load (toInt32 ((gtLogOffsets time.length (levelTag logLevel).length
        text.length 1).logLength + 1))).isSome := by
      rw [ByteBuffer.isSome_load_iff]
      exact ⟨hin.count_nonneg, hin.count_le⟩
    simpa [hend] using hload

end Safety

end GuitarTea
