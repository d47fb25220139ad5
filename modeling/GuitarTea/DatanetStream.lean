import GuitarTea.LogRecord
import GuitarTea.Network
import Mathlib.Data.List.TakeWhile

/-!
# A stream in the log

The bytes of a connection arrive in any portions, and each call of `gt_datanet_ops_read`
takes what has arrived, up to the 127 bytes it asks for.  Each chunk is logged as the rest
of a message that names the descriptor.  Between the chunks there may be calls that find
nothing to read.

The buffer of the handler has room for the chunk and a NUL, and the record with its
timestamp, level tag and prefix for far more than that: what the records carry, one
behind the other, is the stream.

## Main definitions

* `DatanetCall` — what has arrived when a call is made.
* `datanetReads` — the calls for one connection.
* `chunks` — what they take from the stream.
* `chunkRecord`, `recordPayload` — the record of a chunk, and what it carries.
-/

namespace GuitarTea

/-- A call of `gt_datanet_ops_read`: `errno` before it, how many bytes of the stream have
arrived, and the answers to `epoll_ctl`, which it does not come to. -/
structure DatanetCall where
  errno : Errno
  arrived : ℕ
  ctl : Option Errno
  ctl' : Option Errno

/-- What `read` finds: the bytes that have arrived, and `EAGAIN` if there are none. -/
def DatanetCall.read (c : DatanetCall) (stream : List UInt8) : Except Errno (List UInt8) :=
  if stream.take c.arrived = [] then .error eagain else .ok (stream.take c.arrived)

/-- Successive calls for one event, whose descriptor has `stream` to deliver: the return
values, and what is left of the stream.  A call that returns more than 0 has taken as many
bytes. -/
def datanetReads (ge : EventPtr) :
    World → List UInt8 → List DatanetCall → Option (List ℤ × List UInt8 × World)
  | w, stream, [] => some ([], stream, w)
  | w, stream, c :: calls => do
      let (ret, w) ← gtDatanetOpsRead c.errno (c.read stream) c.ctl c.ctl' ge w
      let (rets, rest, w) ← datanetReads ge w (stream.drop ret.toNat) calls
      some (ret :: rets, rest, w)

/-- What a call takes from the stream. -/
def DatanetCall.chunk (c : DatanetCall) (stream : List UInt8) : List UInt8 :=
  (stream.take c.arrived).take (sizeofBuf - 1)

/-- What successive calls take, but for those that find nothing. -/
def chunks : List UInt8 → List DatanetCall → List (List UInt8)
  | _, [] => []
  | stream, c :: calls =>
      if c.chunk stream = [] then chunks stream calls
      else c.chunk stream :: chunks (stream.drop (c.chunk stream).length) calls

/-- The logging call for what a buffer holds. -/
def chunkLog (efd : ℤ) (text : List UInt8) : LogCall :=
  gtInfoLog "gt_datanet_ops_read" 98 [.text "CFD[", .int efd, .text "]: ", .str text]

/-- What stands between the timestamp and the bytes of the connection. -/
def recordHeader (efd : ℤ) : List UInt8 :=
  cstr "[INFO] [gt_datanet_ops_read:98] CFD[" ++ cstr (toString efd) ++ cstr "]: "

/-- The record of a chunk. -/
def chunkRecord (efd : ℤ) (time text : List UInt8) : List UInt8 :=
  time ++ recordHeader efd ++ text ++ cstr "\n"

/-- What a record carries: the text behind `CFD[fd]: `, without the newline. -/
def recordPayload (efd : ℤ) (record : List UInt8) : List UInt8 :=
  (record.drop (20 + (recordHeader efd).length)).dropLast

/-- The records of logging calls, the `i`-th at the time `time i`. -/
def logRecords (strerror : Errno → List UInt8) (gGtLogFd : ℤ) (time : ℕ → List UInt8)
    (cs : List LogCall) : List (Option (Option LogWrite)) :=
  cs.mapIdx fun i c => gtLogPrint gGtLogFd (some (time i)) c.stdfdFlag c.level (c.render strerror)

/-! ## The calls -/

/-- A text without NULs is printed whole. -/
theorem takeWhile_of_notMem {text : List UInt8} (h : 0 ∉ text) :
    text.takeWhile (· ≠ 0) = text := by
  rw [List.takeWhile_eq_self_iff]
  intro b hb
  have hne : b ≠ 0 := by
    rintro rfl
    exact h hb
  simpa using hne

section Calls

variable {stream : List UInt8} {c : DatanetCall}

/-- A chunk leaves room for the NUL. -/
theorem DatanetCall.length_chunk_lt (c : DatanetCall) (stream : List UInt8) :
    (c.chunk stream).length < sizeofBuf := by
  rw [DatanetCall.chunk, List.length_take, sizeofBuf]
  omega

/-- It is taken from the front of the stream. -/
theorem DatanetCall.chunk_append_drop (c : DatanetCall) (stream : List UInt8) :
    c.chunk stream ++ stream.drop (c.chunk stream).length = stream := by
  have hprefix : c.chunk stream <+: stream :=
    (List.take_prefix _ _).trans (List.take_prefix _ _)
  rw [← List.prefix_iff_eq_append]
  exact hprefix

/-- It is empty exactly when nothing has arrived. -/
theorem DatanetCall.chunk_eq_nil_iff : c.chunk stream = [] ↔ stream.take c.arrived = [] := by
  rw [DatanetCall.chunk, sizeofBuf, List.take_eq_nil_iff]
  simp

/-- **One call** takes its chunk and logs it, if it finds anything. -/
theorem gtDatanetOpsRead_call {w : World} {ge : EventPtr} {ev : GtEvent}
    (h : w.events ge = some ev) (c : DatanetCall) (hnul : 0 ∉ stream) :
    gtDatanetOpsRead c.errno (c.read stream) c.ctl c.ctl' ge w =
      some (((c.chunk stream).length : ℤ), if c.chunk stream = [] then w
        else w.logs (chunkLog ev.efd (c.chunk stream))) := by
  by_cases hnil : stream.take c.arrived = []
  · have hchunk := DatanetCall.chunk_eq_nil_iff.mpr hnil
    rw [DatanetCall.read, if_pos hnil, gtDatanetOpsRead_error h, if_pos (.inl rfl), if_pos hchunk,
      hchunk]
    rfl
  · have hchunk : c.chunk stream ≠ [] := fun hchunk => hnil (DatanetCall.chunk_eq_nil_iff.mp hchunk)
    have hwhole : (c.chunk stream).takeWhile (· ≠ 0) = c.chunk stream := by
      exact takeWhile_of_notMem fun hmem => hnul (List.mem_of_mem_take (List.mem_of_mem_take hmem))
    rw [DatanetCall.read, if_neg hnil, gtDatanetOpsRead_data h c.ctl c.ctl' hnil, if_neg hchunk]
    change some (((c.chunk stream).length : ℤ), w.logs (chunkLog ev.efd
      ((c.chunk stream).takeWhile (· ≠ 0)))) = _
    rw [hwhole]

/-- **All calls** take the stream apart and log the chunks, in order. -/
theorem exists_datanetReads {w : World} {ge : EventPtr} {ev : GtEvent}
    (h : w.events ge = some ev) (calls : List DatanetCall) (hnul : 0 ∉ stream) :
    ∃ rets rest, datanetReads ge w stream calls = some (rets, rest,
        { w with log := w.log ++ (chunks stream calls).map (chunkLog ev.efd) }) ∧
      (chunks stream calls).map (fun chunk => (chunk.length : ℤ)) = rets.filter (0 < ·) ∧
      (chunks stream calls).flatten ++ rest = stream := by
  induction calls generalizing w stream with
  | nil => exact ⟨[], stream, by simp [datanetReads, chunks], rfl, rfl⟩
  | cons c calls ih =>
      have hcall := gtDatanetOpsRead_call h c hnul
      have hrest : 0 ∉ stream.drop (c.chunk stream).length := by
        exact fun hmem => hnul (List.mem_of_mem_drop hmem)
      by_cases hnil : c.chunk stream = []
      · obtain ⟨rets, rest, hrun, hrets, hstream⟩ := ih h hnul
        rw [if_pos hnil] at hcall
        refine ⟨(c.chunk stream).length :: rets, rest, ?_, ?_, ?_⟩
        · simp only [datanetReads, hcall, chunks, if_pos hnil, Option.bind_eq_bind,
            Option.bind_some, Int.toNat_natCast, List.length_eq_zero_iff.mpr hnil,
            List.drop_zero, hrun]
        · rw [chunks, if_pos hnil, hrets, List.filter_cons_of_neg (by simp [hnil])]
        · rw [chunks, if_pos hnil, hstream]
      · rw [if_neg hnil] at hcall
        obtain ⟨rets, rest, hrun, hrets, hstream⟩ :=
          ih (w := w.logs (chunkLog ev.efd (c.chunk stream))) h hrest
        have hpos : 0 < ((c.chunk stream).length : ℤ) := by
          have := List.length_pos_of_ne_nil hnil
          omega
        refine ⟨(c.chunk stream).length :: rets, rest, ?_, ?_, ?_⟩
        · simp only [datanetReads, hcall, chunks, if_neg hnil, Option.bind_eq_bind,
            Option.bind_some, Int.toNat_natCast, hrun]
          simp [World.logs]
        · rw [chunks, if_neg hnil, List.map_cons, hrets,
            List.filter_cons_of_pos (by simpa using hpos)]
        · rw [chunks, if_neg hnil, List.flatten_cons, List.append_assoc, hstream,
            c.chunk_append_drop]

/-- Every chunk leaves room for the NUL. -/
theorem length_lt_of_mem_chunks {calls : List DatanetCall} :
    ∀ {stream : List UInt8}, ∀ chunk ∈ chunks stream calls, chunk.length < sizeofBuf := by
  induction calls with
  | nil => simp [chunks]
  | cons c calls ih =>
      intro stream chunk hchunk
      rw [chunks] at hchunk
      split at hchunk
      · exact ih chunk hchunk
      · rcases List.mem_cons.mp hchunk with rfl | hchunk
        · exact c.length_chunk_lt stream
        · exact ih chunk hchunk

end Calls

/-! ## The records -/

/-- A descriptor has at most ten digits. -/
theorem length_toString_le {fd : ℤ} (h : 0 ≤ fd) (hlt : fd < 2147483648) :
    (toString fd).length ≤ 10 := by
  obtain ⟨n, rfl⟩ := Int.eq_ofNat_of_zero_le h
  exact (Nat.length_repr_le_iff (by decide)).mpr (by omega)

/-- The level tag and the message of a chunk. -/
theorem render_chunkLog (strerror : Errno → List UInt8) (efd : ℤ) (text : List UInt8) :
    levelTag .info ++ (chunkLog efd text).render strerror = recordHeader efd ++ text := by
  have hprefix : levelTag .info ++ (cstr "[" ++ cstr "gt_datanet_ops_read" ++ cstr ":" ++
      cstr (toString 98) ++ cstr "] " ++ cstr "CFD[") =
        cstr "[INFO] [gt_datanet_ops_read:98] CFD[" := by
    decide +kernel
  rw [recordHeader, ← hprefix]
  simp [LogCall.render, chunkLog, gtInfoLog, LogPiece.render]

/-- **The record of a chunk** is not truncated, whatever the descriptor. -/
theorem gtLogPrint_chunkLog {fd : ℤ} (h : 0 ≤ fd) (hlt : fd < 2147483648) {time : List UInt8}
    (htime : time.length = 20) {text : List UInt8} (htext : text.length < sizeofBuf)
    (strerror : Errno → List UInt8) (gGtLogFd : ℤ) :
    gtLogPrint gGtLogFd (some time) (chunkLog fd text).stdfdFlag (chunkLog fd text).level
      ((chunkLog fd text).render strerror) = some (some ⟨gGtLogFd, chunkRecord fd time text⟩) := by
  have hrender := render_chunkLog strerror fd text
  have hlength : (levelTag .info).length + ((chunkLog fd text).render strerror).length ≤ 176 := by
    have hdigits := length_toString_le h hlt
    have hconst : (cstr "[INFO] [gt_datanet_ops_read:98] CFD[").length = 36 ∧
        (cstr "]: ").length = 3 := by
      decide +kernel
    rw [← List.length_append, hrender, recordHeader]
    rw [sizeofBuf] at htext
    simp only [List.length_append, hconst, length_cstr]
    omega
  have hroom : NotTruncated time.length (levelTag .info).length
      ((chunkLog fd text).render strerror).length :=
    notTruncated_iff.mpr (by omega)
  have hfits := (logRecord_bytes_iff hroom gGtLogFd false).mpr (by omega)
  rw [List.append_assoc time, hrender] at hfits
  rw [chunkRecord, List.append_assoc time]
  exact hfits

/-- A record carries its chunk. -/
theorem recordPayload_chunkRecord (efd : ℤ) {time : List UInt8} (htime : time.length = 20)
    (text : List UInt8) : recordPayload efd (chunkRecord efd time text) = text := by
  have hlength : (time ++ recordHeader efd).length = 20 + (recordHeader efd).length := by
    rw [List.length_append, htime]
  rw [recordPayload, chunkRecord, List.append_assoc, List.drop_left' hlength]
  exact List.dropLast_concat

/-- **The stream is in the log.**  For every connection, every stream without NULs and every
way in which its bytes arrive, with `EAGAIN` in between: the calls of
`gt_datanet_ops_read` succeed, and each that returns more than 0 has taken as many bytes
and makes one logging call.  With timestamps of 20 characters, each becomes one record
that ends in a newline, and what the records carry, one behind the other, is the stream up
to what is left of it. -/
theorem datanet_stream_logged {w : World} {ge : EventPtr} {ev : GtEvent}
    (h : w.events ge = some ev) (hfd : 0 ≤ ev.efd) (hlt : ev.efd < 2147483648)
    {stream : List UInt8} (hnul : 0 ∉ stream) (calls : List DatanetCall)
    (strerror : Errno → List UInt8) (gGtLogFd : ℤ) {time : ℕ → List UInt8}
    (htime : ∀ i, (time i).length = 20) :
    ∃ rets rest w' cs records, datanetReads ge w stream calls = some (rets, rest, w') ∧
      w'.log = w.log ++ cs ∧
      logRecords strerror gGtLogFd time cs =
        records.map (fun data => some (some ⟨gGtLogFd, data⟩)) ∧
      records = (chunks stream calls).mapIdx (fun i chunk => chunkRecord ev.efd (time i) chunk) ∧
      records.map (fun data => ((recordPayload ev.efd data).length : ℤ)) =
        rets.filter (0 < ·) ∧
      (records.map (recordPayload ev.efd)).flatten ++ rest = stream := by
  obtain ⟨rets, rest, hrun, hrets, hstream⟩ := exists_datanetReads h calls hnul
  have hpayload : ((chunks stream calls).mapIdx fun i chunk =>
      chunkRecord ev.efd (time i) chunk).map (recordPayload ev.efd) = chunks stream calls := by
    apply List.ext_getElem
    · simp
    · intro i hi _
      simp [recordPayload_chunkRecord ev.efd (htime i)]
  refine ⟨rets, rest, _, (chunks stream calls).map (chunkLog ev.efd), _, hrun, rfl, ?_, rfl,
    ?_, ?_⟩
  · apply List.ext_getElem
    · simp [logRecords]
    · intro i _ hi
      have hi' : i < (chunks stream calls).length := by simpa using hi
      have hroom := length_lt_of_mem_chunks _ (List.getElem_mem hi')
      simpa [logRecords] using gtLogPrint_chunkLog hfd hlt (htime i) hroom strerror gGtLogFd
  · rw [← hrets]
    nth_rewrite 2 [← hpayload]
    rw [List.map_map]
    rfl
  · rw [hpayload, hstream]

/-- A process with the event of one connection. -/
def oneConnection (efd : ℤ) (p : PollerId) : World :=
  { World.boot with
    events := Function.update World.boot.events 1
      (some ⟨efd, ⟨some .gtDatanetOpsRead, none⟩, ⟨epollin, some 1⟩, p⟩) }

/-- `hello` and 130 dots behind it. -/
def helloStream : List UInt8 := cstr "hello" ++ List.replicate 130 46

/-- Three bytes arrive, then nothing, then all the rest, which is more than the buffer has
room for. -/
def helloCalls : List DatanetCall :=
  [⟨0, 3, none, none⟩, ⟨0, 0, none, none⟩, ⟨0, 500, none, none⟩, ⟨0, 500, none, none⟩]

/-- They are three records. -/
theorem datanet_stream_logged_hello :
    ∃ rets rest w' cs, ∃ records : List (List UInt8),
      datanetReads 1 (oneConnection 7 (.datanet 3)) helloStream helloCalls =
        some (rets, rest, w') ∧
      w'.log = [] ++ cs ∧
      logRecords (fun _ => []) 3 (fun _ => cstr "2017-10-11 12:00:00 ") cs =
        records.map (fun data => some (some ⟨3, data⟩)) ∧
      rets = [3, 0, 127, 5] ∧ rest = [] ∧
      (records.map (recordPayload 7)).flatten = helloStream := by
  have hlive : (oneConnection 7 (.datanet 3)).events 1 =
      some ⟨7, ⟨some .gtDatanetOpsRead, none⟩, ⟨epollin, some 1⟩, .datanet 3⟩ := rfl
  have hnul : 0 ∉ helloStream := by decide +kernel
  have hlength : (cstr "2017-10-11 12:00:00 ").length = 20 := by decide +kernel
  have htime : ∀ i : ℕ, ((fun _ => cstr "2017-10-11 12:00:00 ") i).length = 20 := fun _ => hlength
  obtain ⟨rets, rest, w', cs, records, hrun, hlog, hrecords, -, -, hstream⟩ :=
    datanet_stream_logged hlive (by decide) (by decide) hnul helloCalls (fun _ => []) 3 htime
  have hreturned : (datanetReads 1 (oneConnection 7 (.datanet 3)) helloStream helloCalls).map
      (fun r => (r.1, r.2.1)) = some ([3, 0, 127, 5], []) := by
    decide +kernel
  rw [hrun, Option.map_some] at hreturned
  obtain ⟨rfl, rfl⟩ : rets = [3, 0, 127, 5] ∧ rest = [] :=
    Prod.mk.inj (Option.some.inj hreturned)
  exact ⟨_, _, w', cs, records, hrun, hlog, hrecords, rfl, rfl,
    (List.append_nil _).symm.trans hstream⟩

end GuitarTea
