import GuitarTea.Log

/-!
# The bytes of a log record

What `gt_log_print` hands to `write` when its own test says that the message was
not truncated: the timestamp, the level tag and the message, and one more byte.
That byte is the newline as long as the last `snprintf` has room for a newline and
its NUL.  The test leaves room for the newline only, so for a message of exactly
the greatest length that passes, the `snprintf` of size one stores its NUL alone
and the record ends in it.

## Main definitions

* `NotTruncated` — the test of `gt_log_print`.
* `recordEnd` — the last byte of the record.
-/

namespace GuitarTea

/-- The test `GT_LOG_BUF_MAX_LEN - ret_time_len - ret_level_len - 1 > ret_log_len`. -/
def NotTruncated (retTimeLen retLevelLen retLogLen : ℕ) : Prop :=
  gtLogBufMaxLen - retTimeLen - retLevelLen - 1 > retLogLen

/-- What the last `snprintf` leaves behind the message. -/
def recordEnd (logLength : ℕ) : List UInt8 := if logLength ≤ 1021 then cstr "\n" else [0]

theorem notTruncated_iff {t l n : ℕ} : NotTruncated t l n ↔ t + l + n < 1023 := by
  rw [NotTruncated, gtLogBufMaxLen]
  omega

/-- **`snprintf` behind what is in the buffer already.**  A text that fits is stored
whole, with a NUL that the next call overwrites. -/
theorem exists_snprintf_after {buf : LogBuf} {before : List UInt8} {off size : ℤ}
    (hbefore : before <+: buf.bytes) (hoff : off = before.length)
    (hsize : size = 1023 - before.length) (text : List UInt8) (htext : text.length < 2147483648)
    (hfit : before.length + text.length < 1023) :
    ∃ buf', snprintf buf off size text = some ((text.length : ℤ), buf') ∧
      before ++ text <+: buf'.bytes := by
  have hcap : toSizeT size = 1023 - before.length := by
    have := toSizeT_of_nonneg (x := size) (by omega) (by omega)
    omega
  have hbytes : printfBytes (toSizeT size) text = text ++ [0] := by
    rw [hcap, printfBytes, if_neg (by omega), List.take_of_length_le (by omega)]
  obtain ⟨buf', hstore, hprefix⟩ := ByteBuffer.exists_store_after hbefore hoff (text ++ [0])
    (by simp only [List.length_append, List.length_singleton]; omega)
  refine ⟨buf', by simp [snprintf, hbytes, hstore, printfLen_of_lt htext], ?_⟩
  rw [← List.append_assoc] at hprefix
  exact (List.prefix_append _ _).trans hprefix

/-- The `snprintf` of the newline, which may have room for its NUL only. -/
theorem exists_snprintf_end {buf : LogBuf} {before : List UInt8} {off size : ℤ}
    (hbefore : before <+: buf.bytes) (hoff : off = before.length)
    (hsize : size = 1023 - before.length) (hfit : before.length < 1023) :
    ∃ buf', snprintf buf off size (cstr "\n") = some (1, buf') ∧
      before ++ recordEnd before.length <+: buf'.bytes := by
  have hcap : toSizeT size = 1023 - before.length := by
    have := toSizeT_of_nonneg (x := size) (by omega) (by omega)
    omega
  by_cases hroom : before.length ≤ 1021
  · obtain ⟨buf', hrun, hprefix⟩ := exists_snprintf_after hbefore hoff hsize (cstr "\n")
      (by decide) (by rw [length_cstr]; exact Nat.add_lt_of_lt_sub (by change _ < 1022; omega))
    refine ⟨buf', hrun, ?_⟩
    rwa [recordEnd, if_pos hroom]
  · have hbytes : printfBytes (toSizeT size) (cstr "\n") = [0] := by
      have hone : toSizeT size = 1 := by omega
      rw [hone]
      rfl
    obtain ⟨buf', hstore, hprefix⟩ := ByteBuffer.exists_store_after hbefore hoff [0]
      (by simp only [List.length_singleton]; omega)
    refine ⟨buf', by simp [snprintf, hbytes, hstore], ?_⟩
    rwa [recordEnd, if_neg hroom]

/-- **The bytes of a record that is not truncated.** -/
theorem gtLogPrint_of_notTruncated {time text : List UInt8} {logLevel : GtLogLevel}
    (h : NotTruncated time.length (levelTag logLevel).length text.length) (gGtLogFd : ℤ)
    (stdfdFlag : Bool) :
    gtLogPrint gGtLogFd (some time) stdfdFlag logLevel text =
      some (some ⟨if stdfdFlag then 1 else gGtLogFd, time ++ levelTag logLevel ++ text ++
        recordEnd (time.length + (levelTag logLevel).length + text.length)⟩) := by
  rw [notTruncated_iff] at h
  obtain ⟨buf₀, htime, hprefix₀⟩ := exists_strftime_front (ByteBuffer.zero 1024) time
    (by omega)
  -- The level tag and the message.
  have hsize₁ : toInt32 (gtLogBufMaxLen - time.length - 1) = 1023 - time.length := by
    rw [toInt32_of_range] <;> simp only [gtLogBufMaxLen] <;> omega
  obtain ⟨buf₁, htag, hprefix₁⟩ := exists_snprintf_after hprefix₀ rfl hsize₁ (levelTag logLevel)
    (by omega) (by omega)
  have hoff₂ : toInt32 (time.length + (levelTag logLevel).length) =
      (time ++ levelTag logLevel).length := by
    rw [List.length_append, toInt32_of_range] <;> omega
  have hsize₂ : toInt32 (gtLogBufMaxLen - time.length - (levelTag logLevel).length - 1) =
      1023 - (time ++ levelTag logLevel).length := by
    rw [List.length_append, toInt32_of_range] <;> simp only [gtLogBufMaxLen] <;> omega
  obtain ⟨buf₂, hmsg, hprefix₂⟩ := exists_snprintf_after hprefix₁ hoff₂ hsize₂ text
    (by omega) (by simp only [List.length_append]; omega)
  -- The end of the record.
  have hlen : (time ++ levelTag logLevel ++ text).length =
      time.length + (levelTag logLevel).length + text.length := by
    simp only [List.length_append]
  have ho := gtLogOffsets_of_fits (t := time.length) (l := (levelTag logLevel).length)
    (n := text.length) (by omega) (by omega)
  rw [if_pos (by omega)] at ho
  have hoff₃ : (time.length : ℤ) + (levelTag logLevel).length + text.length =
      (time ++ levelTag logLevel ++ text).length := by
    rw [hlen]
    omega
  have hsize₃ : (1023 : ℤ) - (time.length + (levelTag logLevel).length + text.length) =
      1023 - (time ++ levelTag logLevel ++ text).length := by
    rw [hoff₃]
  obtain ⟨buf₃, hend, hprefix₃⟩ := exists_snprintf_end hprefix₂ hoff₃ hsize₃ (by omega)
  rw [hlen] at hprefix₃
  have hcount : toInt32 ((time.length : ℤ) + (levelTag logLevel).length + text.length + 1) =
      (time ++ levelTag logLevel ++ text ++
        recordEnd (time.length + (levelTag logLevel).length + text.length)).length := by
    have hone : (recordEnd (time.length + (levelTag logLevel).length + text.length)).length =
        1 := by
      rw [recordEnd]
      split <;> rfl
    rw [List.length_append, hlen, hone, toInt32_of_range] <;> omega
  rw [gtLogPrint_eq_end htime htag hmsg, ho]
  dsimp only
  rw [hend, Option.bind_some, if_neg (by simp), ByteBuffer.load_of_prefix hprefix₃ hcount]
  rfl

/-- **When a record is written as it should be.**  For a message that passes the test
of `gt_log_print`, the bytes handed to `write` are the timestamp, the level tag,
the message and a newline exactly when these, without the newline, have at most
1021 bytes. -/
theorem logRecord_bytes_iff {time text : List UInt8} {logLevel : GtLogLevel}
    (h : NotTruncated time.length (levelTag logLevel).length text.length) (gGtLogFd : ℤ)
    (stdfdFlag : Bool) :
    gtLogPrint gGtLogFd (some time) stdfdFlag logLevel text =
        some (some ⟨if stdfdFlag then 1 else gGtLogFd,
          time ++ levelTag logLevel ++ text ++ cstr "\n"⟩) ↔
      time.length + (levelTag logLevel).length + text.length ≤ 1021 := by
  have hnewline : ([0] : List UInt8) ≠ cstr "\n" := by decide
  rw [gtLogPrint_of_notTruncated h]
  by_cases hroom : time.length + (levelTag logLevel).length + text.length ≤ 1021
  · rw [recordEnd, if_pos hroom]
    exact iff_of_true rfl hroom
  · rw [recordEnd, if_neg hroom]
    exact iff_of_false (by simp [hnewline]) hroom

/-- A short message ends in a newline. -/
theorem logRecord_bytes_hello :
    gtLogPrint 3 (some (cstr "2017-10-11 12:00:00 ")) false .info (cstr "hello") =
      some (some ⟨3, cstr "2017-10-11 12:00:00 [INFO] hello\n"⟩) :=
  (logRecord_bytes_iff (notTruncated_iff.mpr (by decide)) 3 false).mpr (by decide)

/-- A message of 995 letters behind the usual timestamp passes the test, and its record
ends in a NUL instead of a newline. -/
theorem longest_message_loses_newline :
    let time := cstr "2017-10-11 12:00:00 "
    let text := List.replicate 995 (97 : UInt8)
    NotTruncated time.length (levelTag .info).length text.length ∧
      gtLogPrint 3 (some time) false .info text =
        some (some ⟨3, time ++ levelTag .info ++ text ++ [0]⟩) ∧
      gtLogPrint 3 (some time) false .info text ≠
        some (some ⟨3, time ++ levelTag .info ++ text ++ cstr "\n"⟩) := by
  intro time text
  have hlen : time.length + (levelTag .info).length + text.length = 1022 := by
    have htime : time.length = 20 := by decide
    have htag : (levelTag .info).length = 7 := by decide
    have htext : text.length = 995 := List.length_replicate
    omega
  have h : NotTruncated time.length (levelTag .info).length text.length := by
    rw [notTruncated_iff]
    omega
  have hrun := gtLogPrint_of_notTruncated h 3 false
  rw [hlen] at hrun
  refine ⟨h, hrun, ?_⟩
  rw [hrun]
  have hnewline : recordEnd 1022 ≠ cstr "\n" := by decide
  simp [hnewline]

end GuitarTea
