import GuitarTea.DatanetStream
import GuitarTea.Lib.TextFile
import GuitarTea.Sharding

/-!
# The log file as a record of the connections

All handlers of the server write to one log file, one record for each call of a logging
macro.  `readLog` reads the file line by line and takes from it what
`gt_datanet_ops_read` has received, with the descriptor it came from.  As long as no
connection sends a newline, this is what was received, in order, whatever else is in the
file.

With a newline it is not: the bytes of a connection are copied as they are, and what
stands behind the newline may look like a record.

## Main definitions

* `readLine`, `readLog` — what the log says.
* `Foreign` — the records of other calls.
* `arrivals` — what a run has received.

## Main results

* `readLog_logRecords` — a log of such calls is read back.
* `log_demultiplexes` — the log of a server.
* `log_forgeable` — a record that no call has written.
-/

namespace GuitarTea

open CString TextFile

/-! ## Reading -/

/-- What stands between the timestamp and the descriptor. -/
def chunkTag : List UInt8 := cstr "[INFO] [gt_datanet_ops_read:98] CFD["

/-- What a line says was received, if it is the record of a chunk. -/
def readLine (line : List UInt8) : Option (ℕ × List UInt8) :=
  let record := line.drop 20
  if chunkTag.isPrefixOf record then
    let rest := record.drop chunkTag.length
    let fd := rest.takeWhile isdigit
    some (digitsValue fd, rest.drop (fd.length + 3))
  else none

/-- What a log file says was received. -/
def readLog (file : List UInt8) : List (ℕ × List UInt8) := (lines file).filterMap readLine

/-- The bytes a log file says were received on a descriptor. -/
def logStream (fd : ℕ) (file : List UInt8) : List UInt8 :=
  ((readLog file).filter fun r => r.1 = fd).flatMap Prod.snd

/-- The bytes that were written to a file descriptor. -/
def writtenTo (fd : ℤ) (records : List (Option (Option LogWrite))) : List UInt8 :=
  records.flatMap fun r => match r with
    | some (some w) => if w.fd = fd then w.data else []
    | _ => []

/-- A record without its newline. -/
def recordLine (strerror : Errno → List UInt8) (time : List UInt8) (c : LogCall) : List UInt8 :=
  time ++ levelTag c.level ++ c.render strerror

/-! ## Numbers in records -/

theorem cstr_toString (n : ℕ) : cstr (toString (n : ℤ)) = digitBytes 10 n := by
  change (Nat.repr n).toList.map _ = _
  rw [Nat.toList_repr]
  rfl

theorem cstr_toString_negSucc (n : ℕ) :
    cstr (toString (Int.negSucc n)) = cstr "-" ++ digitBytes 10 (n + 1) := by
  have hneg : toString (Int.negSucc n) = "-" ++ Nat.repr (n + 1) := rfl
  simp [hneg, cstr, digitBytes, String.toList_append]

theorem cstr_toDigits (n : ℕ) : cstr (String.ofList (Nat.toDigits 16 n)) = digitBytes 16 n := by
  simp [cstr, digitBytes]

/-! ## The records of chunks -/

/-- The record of a chunk is read back. -/
theorem readLine_recordLine_chunkLog (strerror : Errno → List UInt8) {time : List UInt8}
    (htime : time.length = 20) (fd : ℕ) (text : List UInt8) :
    readLine (recordLine strerror time (chunkLog fd text)) = some (fd, text) := by
  have hrecord : (recordLine strerror time (chunkLog fd text)).drop 20 =
      chunkTag ++ (digitBytes 10 fd ++ (cstr "]: " ++ text)) := by
    rw [recordLine, List.append_assoc, ← htime, List.drop_left]
    change levelTag .info ++ _ = _
    rw [render_chunkLog, recordHeader, cstr_toString, chunkTag]
    simp only [List.append_assoc]
  have hfd : (digitBytes 10 fd ++ (cstr "]: " ++ text)).takeWhile isdigit = digitBytes 10 fd := by
    rw [List.takeWhile_append_of_pos (isDecimal_digitBytes fd).2.1]
    have hstop : (cstr "]: " ++ text).takeWhile isdigit = [] := rfl
    rw [hstop, List.append_nil]
  have hrest : (digitBytes 10 fd ++ (cstr "]: " ++ text)).drop ((digitBytes 10 fd).length + 3) =
      text := by
    rw [← List.append_assoc]
    exact List.drop_left' (by rw [List.length_append]; rfl)
  have hprefix : chunkTag.isPrefixOf (chunkTag ++ (digitBytes 10 fd ++ (cstr "]: " ++ text))) := by
    rw [List.isPrefixOf_iff_prefix]
    exact List.prefix_append _ _
  simp only [readLine, hrecord, hprefix, if_true, List.drop_left, hfd, hrest,
    (isDecimal_digitBytes fd).2.2]

/-! ## The other records -/

/-- The calls of a logging macro that the handlers and the loop around them make, but for the
one that logs a chunk. -/
def otherSites : List (GtLogLevel × String × ℕ) :=
  [(.error, "gt_poller_event_start", 46), (.error, "gt_poller_event_stop", 73),
    (.error, "gt_poller_gevent_create", 84), (.info, "gt_datanet_ops_read", 92),
    (.error, "gt_network_round_dispatch", 111), (.error, "gt_network_round_dispatch", 120),
    (.error, "gt_network_ops_read", 141), (.error, "gt_network_ops_read", 150),
    (.error, "gt_network_ops_read", 161), (.info, "gt_network_ops_read", 172),
    (.error, "gt_poller_epoll_wait", 160), (.error, "gt_signal_ops_read", 226),
    (.info, "gt_process_dump", 70), (.info, "gt_process_snap", 76)]

/-- What the macro puts in front of the message, with the level. -/
def siteTag (level : GtLogLevel) (func : String) (line : ℕ) : List UInt8 :=
  levelTag level ++ (cstr "[" ++ cstr func ++ cstr ":" ++ cstr (toString line) ++ cstr "] ")

/-- An `int32_t`. -/
def IsInt32 (n : ℤ) : Prop := -2147483648 ≤ n ∧ n < 2147483648

instance : DecidablePred IsInt32 :=
  fun n => inferInstanceAs (Decidable (-2147483648 ≤ n ∧ n < 2147483648))

/-- A piece of a message that is short and has no newline. -/
def LogPiece.Short : LogPiece → Prop
  | .text s => 10 ∉ cstr s ∧ s.length ≤ 128
  | .str _ => False
  | .int n => IsInt32 n
  | .hex n => n < 4294967296
  | .strerror _ => True

instance : DecidablePred LogPiece.Short
  | .text s => inferInstanceAs (Decidable (10 ∉ cstr s ∧ s.length ≤ 128))
  | .str _ => .isFalse id
  | .int n => inferInstanceAs (Decidable (IsInt32 n))
  | .hex n => inferInstanceAs (Decidable (n < 4294967296))
  | .strerror _ => .isTrue trivial

/-- A call that logs no chunk, with a short message. -/
structure Foreign (c : LogCall) : Prop where
  stdfdFlag : c.stdfdFlag = false
  site : (c.level, c.func, c.line) ∈ otherSites
  length_le : c.msg.length ≤ 6
  short : ∀ p ∈ c.msg, p.Short

/-- The texts of `strerror` are short and have no newline. -/
def ShortErrors (strerror : Errno → List UInt8) : Prop :=
  ∀ errnum, 10 ∉ strerror errnum ∧ (strerror errnum).length ≤ 128

/-- The tags are short, have no newline, and are no beginning of the record of a chunk. -/
theorem siteTag_of_mem : ∀ s ∈ otherSites,
    10 ∉ siteTag s.1 s.2.1 s.2.2 ∧ (siteTag s.1 s.2.1 s.2.2).length ≤ 64 ∧
      ∃ k ≤ 31, k ≤ (siteTag s.1 s.2.1 s.2.2).length ∧
        (siteTag s.1 s.2.1 s.2.2).take k ≠ chunkTag.take k := by
  decide +kernel

section Pieces

variable {strerror : Errno → List UInt8} (hs : ShortErrors strerror) {p : LogPiece}
include hs

theorem newline_notMem_piece (hp : p.Short) : 10 ∉ p.render strerror := by
  cases p with
  | text s => exact hp.1
  | str s => exact hp.elim
  | int n =>
      cases n with
      | ofNat n =>
          rw [LogPiece.render, Int.ofNat_eq_natCast, cstr_toString]
          exact newline_notMem_digitBytes (by decide) (by decide) n
      | negSucc n =>
          rw [LogPiece.render, cstr_toString_negSucc, List.mem_append, not_or]
          exact ⟨by decide, newline_notMem_digitBytes (by decide) (by decide) (n + 1)⟩
  | hex n =>
      rw [LogPiece.render]
      split
      · decide
      · rw [cstr_toDigits, List.mem_append, not_or]
        exact ⟨by decide, newline_notMem_digitBytes (by decide) (by decide) n⟩
  | strerror errnum => exact (hs errnum).1

theorem length_piece_le (hp : p.Short) : (p.render strerror).length ≤ 128 := by
  cases p with
  | text s => simpa [LogPiece.render] using hp.2
  | str s => exact hp.elim
  | int n =>
      obtain ⟨hlow, hhigh⟩ := hp
      cases n with
      | ofNat n =>
          have hlen := length_digitBytes_le (b := 10) (n := n) (k := 10) (by decide) (by decide)
            (by simp only [Int.ofNat_eq_natCast] at hhigh; omega)
          rw [LogPiece.render, Int.ofNat_eq_natCast, cstr_toString]
          omega
      | negSucc n =>
          have hlen := length_digitBytes_le (b := 10) (n := n + 1) (k := 10) (by decide)
            (by decide) (by omega)
          rw [LogPiece.render, cstr_toString_negSucc, List.length_append, length_cstr]
          change 1 + _ ≤ _
          omega
  | hex n =>
      have hlen := length_digitBytes_le (b := 16) (n := n) (k := 8) (by decide) (by decide) hp
      rw [LogPiece.render]
      split
      · decide
      · rw [cstr_toDigits, List.length_append, length_cstr]
        change 2 + _ ≤ _
        omega
  | strerror errnum => exact (hs errnum).2

end Pieces

/-! ## Records that fit -/

theorem length_flatMap_le {α β : Type} {f : α → List β} {l : List α} {k : ℕ}
    (h : ∀ x ∈ l, (f x).length ≤ k) : (l.flatMap f).length ≤ l.length * k := by
  induction l with
  | nil => simp
  | cons x l ih =>
      have hx := h x List.mem_cons_self
      have hl := ih fun y hy => h y (List.mem_cons_of_mem x hy)
      rw [List.flatMap_cons, List.length_append, List.length_cons, Nat.add_mul]
      omega

/-- A record of the log file with room for its newline, which is the only one. -/
structure Fits (strerror : Errno → List UInt8) (c : LogCall) : Prop where
  stdfdFlag : c.stdfdFlag = false
  newline : 10 ∉ levelTag c.level ++ c.render strerror
  length_le : (levelTag c.level ++ c.render strerror).length ≤ 1001

/-- The call of the macro in `gt_datanet_ops_read` that logs a chunk. -/
def IsChunk (c : LogCall) : Prop :=
  ∃ (fd : ℕ) (text : List UInt8), c = chunkLog fd text ∧ fd < 2147483648 ∧
    text.length < sizeofBuf ∧ 10 ∉ text

section Fits

variable {strerror : Errno → List UInt8} {c : LogCall}

/-- Its record. -/
theorem Fits.gtLogPrint_eq (h : Fits strerror c) {time : List UInt8} (htime : time.length = 20)
    (gGtLogFd : ℤ) : gtLogPrint gGtLogFd (some time) c.stdfdFlag c.level (c.render strerror) =
      some (some ⟨gGtLogFd, recordLine strerror time c ++ [10]⟩) := by
  have hlen := h.length_le
  rw [List.length_append] at hlen
  have hroom : NotTruncated time.length (levelTag c.level).length (c.render strerror).length :=
    notTruncated_iff.mpr (by omega)
  have hprint := (logRecord_bytes_iff hroom gGtLogFd c.stdfdFlag).mpr (by omega)
  rw [hprint, h.stdfdFlag]
  rfl

theorem newline_notMem_recordLine (h : Fits strerror c) {time : List UInt8} (htime : 10 ∉ time) :
    10 ∉ recordLine strerror time c := by
  rw [recordLine, List.append_assoc, List.mem_append, not_or]
  exact ⟨htime, h.newline⟩

theorem IsChunk.fits (h : IsChunk c) : Fits strerror c := by
  obtain ⟨fd, text, rfl, hfd, hlen, hnewline⟩ := h
  rw [sizeofBuf] at hlen
  have hrender : levelTag (chunkLog fd text).level ++ (chunkLog fd text).render strerror =
      chunkTag ++ digitBytes 10 fd ++ cstr "]: " ++ text := by
    change levelTag .info ++ _ = _
    rw [render_chunkLog, recordHeader, cstr_toString, chunkTag]
  have hdigits := length_digitBytes_le (b := 10) (n := fd) (k := 10) (by decide) (by decide)
    (by omega)
  have hconst : 10 ∉ chunkTag ∧ 10 ∉ cstr "]: " ∧ chunkTag.length = 36 ∧
      (cstr "]: ").length = 3 := by
    decide +kernel
  refine ⟨rfl, ?_, ?_⟩
  · rw [hrender]
    simp only [List.mem_append, not_or]
    exact ⟨⟨⟨hconst.1, newline_notMem_digitBytes (by decide) (by decide) fd⟩, hconst.2.1⟩, hnewline⟩
  · rw [hrender]
    simp only [List.length_append, hconst]
    omega

/-- The record of a foreign call begins with the tag of its site. -/
theorem levelTag_append_render (c : LogCall) : levelTag c.level ++ c.render strerror =
    siteTag c.level c.func c.line ++ c.msg.flatMap (LogPiece.render strerror) := by
  simp only [siteTag, LogCall.render, List.append_assoc]

theorem Foreign.fits (h : Foreign c) (hs : ShortErrors strerror) : Fits strerror c := by
  obtain ⟨htag, hlen, -⟩ := siteTag_of_mem _ h.site
  refine ⟨h.stdfdFlag, ?_, ?_⟩
  · rw [levelTag_append_render, List.mem_append, not_or]
    refine ⟨htag, fun hmem => ?_⟩
    obtain ⟨p, hp, hmem⟩ := List.mem_flatMap.mp hmem
    exact newline_notMem_piece hs (h.short p hp) hmem
  · have hmsg : (c.msg.flatMap (LogPiece.render strerror)).length ≤ c.msg.length * 128 := by
      exact length_flatMap_le fun p hp => length_piece_le hs (h.short p hp)
    have hcount := h.length_le
    dsimp only at hlen
    rw [levelTag_append_render, List.length_append]
    omega

/-- The record of a foreign call is passed over. -/
theorem Foreign.readLine_eq_none (h : Foreign c) {time : List UInt8} (htime : time.length = 20) :
    readLine (recordLine strerror time c) = none := by
  obtain ⟨-, -, k, hk, hlong, hdiff⟩ := siteTag_of_mem _ h.site
  have hchunk : 31 ≤ chunkTag.length := by decide +kernel
  have hrecord : (recordLine strerror time c).drop 20 =
      siteTag c.level c.func c.line ++ c.msg.flatMap (LogPiece.render strerror) := by
    rw [recordLine, List.append_assoc, ← htime, List.drop_left, levelTag_append_render]
  have hprefix : ¬ chunkTag.isPrefixOf (siteTag c.level c.func c.line ++
      c.msg.flatMap (LogPiece.render strerror)) := by
    rw [List.isPrefixOf_iff_prefix]
    rintro ⟨rest, hrest⟩
    have htake := congrArg (List.take k) hrest
    rw [List.take_append_of_le_length hlong, List.take_append_of_le_length (hk.trans hchunk)]
      at htake
    exact hdiff htake.symm
  simp only [readLine, hrecord, if_neg hprefix]

end Fits

/-! ## A log file -/

/-- The chunk that a call logs, with its descriptor. -/
def LogCall.received (c : LogCall) : Option (ℕ × List UInt8) :=
  match c.msg with
  | [.text _, .int fd, .text _, .str text] => some (fd.toNat, text)
  | _ => none

theorem Foreign.received_eq_none {c : LogCall} (h : Foreign c) : c.received = none := by
  rw [LogCall.received]
  split
  · rename_i text heq
    have hstr : LogPiece.str text ∈ c.msg := by simp [heq]
    exact (h.short _ hstr).elim
  · rfl

/-- The timestamps have 20 characters and no newline. -/
def Timestamps (time : ℕ → List UInt8) : Prop := ∀ i, (time i).length = 20 ∧ 10 ∉ time i

section File

variable {strerror : Errno → List UInt8} {time : ℕ → List UInt8} {cs : List LogCall}

/-- **The records of calls that fit**, byte for byte: the timestamp, the level tag, the
message and a newline. -/
theorem logRecords_of_fits (htime : Timestamps time) (h : ∀ c ∈ cs, Fits strerror c)
    (gGtLogFd : ℤ) : logRecords strerror gGtLogFd time cs =
      cs.mapIdx fun i c => some (some ⟨gGtLogFd, recordLine strerror (time i) c ++ [10]⟩) := by
  apply List.ext_getElem
  · simp [logRecords]
  · intro i _ hi
    have hi : i < cs.length := by simpa using hi
    have hfits : Fits strerror cs[i] := h cs[i] (List.getElem_mem hi)
    simpa [logRecords] using hfits.gtLogPrint_eq (htime i).1 gGtLogFd

/-- Reading the lines of the records, whatever the timestamps are. -/
theorem filterMap_readLine (htime : Timestamps time) (h : ∀ c ∈ cs, Foreign c ∨ IsChunk c) :
    (cs.mapIdx fun i c => recordLine strerror (time i) c).filterMap readLine =
      cs.filterMap LogCall.received := by
  induction cs generalizing time with
  | nil => rfl
  | cons c cs ih =>
      have hlater : Timestamps fun i => time (i + 1) := fun i => htime (i + 1)
      have hrest := ih hlater fun d hd => h d (List.mem_cons_of_mem c hd)
      have hline : readLine (recordLine strerror (time 0) c) = c.received := by
        rcases h c List.mem_cons_self with hc | ⟨fd, text, rfl, -⟩
        · rw [hc.readLine_eq_none (htime 0).1, hc.received_eq_none]
        · exact readLine_recordLine_chunkLog strerror (htime 0).1 fd text
      rw [List.mapIdx_cons, List.filterMap_cons, List.filterMap_cons, hline, hrest]

/-- **A log file is read back.** -/
theorem readLog_logRecords (htime : Timestamps time) (hfits : ∀ c ∈ cs, Fits strerror c)
    (h : ∀ c ∈ cs, Foreign c ∨ IsChunk c) (gGtLogFd : ℤ) :
    readLog (writtenTo gGtLogFd (logRecords strerror gGtLogFd time cs)) =
      cs.filterMap LogCall.received := by
  have hnewline : ∀ line ∈ cs.mapIdx fun i c => recordLine strerror (time i) c, 10 ∉ line := by
    intro line hline
    obtain ⟨i, hi, rfl⟩ := List.mem_mapIdx.mp hline
    exact newline_notMem_recordLine (hfits _ (List.getElem_mem hi)) (htime i).2
  have hrecords : logRecords strerror gGtLogFd time cs =
      (cs.mapIdx fun i c => recordLine strerror (time i) c).map fun line =>
        some (some ⟨gGtLogFd, line ++ [10]⟩) := by
    rw [logRecords_of_fits htime hfits]
    exact List.ext_getElem (by simp) (by simp)
  have hfile : writtenTo gGtLogFd (logRecords strerror gGtLogFd time cs) =
      (cs.mapIdx fun i c => recordLine strerror (time i) c).flatMap (· ++ [10]) := by
    rw [hrecords, writtenTo, List.flatMap_map]
    simp
  rw [readLog, hfile, lines_flatMap hnewline, filterMap_readLine htime h]

end File

/-! ## What the handlers log -/

/-- The error of a call is an `int32_t`. -/
def IntError (fail : Option Errno) : Prop := ∀ errnum, fail = some errnum → IsInt32 errnum

/-- The epoll descriptors are `int32_t`. -/
def IntEpfds (w : World) : Prop := ∀ p, IsInt32 (w.pollers p).epfd

theorem IntEpfds.congr {w w' : World} (h : IntEpfds w) (hpollers : w'.pollers = w.pollers) :
    IntEpfds w' := by
  rwa [IntEpfds, hpollers]

/-- So are the descriptors of the events. -/
structure IntFields (w : World) : Prop where
  epfd : IntEpfds w
  efd : ∀ ge ev, w.events ge = some ev → 0 ≤ ev.efd ∧ ev.efd < 2147483648

/-- Only foreign calls are added to the log, and no poller is changed. -/
structure Appends (w w' : World) : Prop where
  log : ∃ cs, w'.log = w.log ++ cs ∧ ∀ c ∈ cs, Foreign c
  pollers : w'.pollers = w.pollers

theorem Appends.of_eq {w w' : World} (hlog : w'.log = w.log) (hpollers : w'.pollers = w.pollers) :
    Appends w w' :=
  ⟨⟨[], by simp [hlog], by simp⟩, hpollers⟩

theorem Appends.trans {w w' w'' : World} (h : Appends w w') (h' : Appends w' w'') :
    Appends w w'' := by
  obtain ⟨cs, hcs, hforeign⟩ := h.log
  obtain ⟨cs', hcs', hforeign'⟩ := h'.log
  refine ⟨⟨cs ++ cs', by rw [hcs', hcs, List.append_assoc], fun c hc => ?_⟩,
    h'.pollers.trans h.pollers⟩
  rcases List.mem_append.mp hc with hc | hc
  · exact hforeign c hc
  · exact hforeign' c hc

theorem Appends.logs (w : World) {c : LogCall} (hc : Foreign c) : Appends w (w.logs c) :=
  ⟨⟨[c], rfl, by simpa using hc⟩, rfl⟩

theorem foreign_error {func : String} {line : ℕ} {msg : List LogPiece}
    (hsite : (GtLogLevel.error, func, line) ∈ otherSites) (hlen : msg.length ≤ 6)
    (hshort : ∀ p ∈ msg, p.Short) : Foreign (gtErrorLog func line msg) :=
  ⟨rfl, hsite, hlen, hshort⟩

theorem foreign_info {func : String} {line : ℕ} {msg : List LogPiece}
    (hsite : (GtLogLevel.info, func, line) ∈ otherSites) (hlen : msg.length ≤ 6)
    (hshort : ∀ p ∈ msg, p.Short) : Foreign (gtInfoLog func line msg) :=
  ⟨rfl, hsite, hlen, hshort⟩

/-- The errors of `epoll_ctl` are those it is given and the two refusals. -/
theorem isInt32_epollCtl {k : Kernel (Option EventPtr)} {ctl : Option Errno} {epfd fd : ℤ}
    {op : EpollOp} {e : EpollEvent (Option EventPtr)} {errnum : Errno} (hctl : IntError ctl)
    (h : (k.epollCtl ctl epfd op fd e).1 = some errnum) : IsInt32 errnum := by
  have hrefusal : ∀ held : Option (EpollEvent (Option EventPtr)),
      IntError (Kernel.refusal op held) := by
    rintro held n hn
    cases op <;> cases held <;> cases hn <;> decide
  cases hor : ctl.or (Kernel.refusal op (k.sets epfd fd)) with
  | none => simp [Kernel.epollCtl, hor] at h
  | some n =>
      obtain rfl : n = errnum := by simpa [Kernel.epollCtl, hor] using h
      rcases Option.or_eq_some_iff.mp hor with hfail | ⟨-, hfail⟩
      · exact hctl n hfail
      · exact hrefusal _ n hfail

section Handlers

variable {w w' : World} {ge : EventPtr} {ctl : Option Errno} {ret : ℤ} {eflag : BitVec 32}

theorem appends_pollerCtl {func : String} {line : ℕ} {op : EpollOp} {gevent : GtEvent}
    {e : EpollEvent (Option EventPtr)} (hsite : (GtLogLevel.error, func, line) ∈ otherSites)
    (hepfd : IsInt32 (w.pollers gevent.gpoller).epfd) (hctl : IntError ctl)
    (h : pollerCtl func line ctl op ge gevent e w = (ret, w')) : Appends w w' := by
  simp only [pollerCtl] at h
  split at h
  · rename_i errnum herr
    have herrnum := isInt32_epollCtl hctl herr
    cases h
    refine ⟨⟨[_], rfl, ?_⟩, rfl⟩
    simp only [List.mem_singleton, forall_eq]
    refine foreign_error hsite (by simp) ?_
    simp only [List.forall_mem_cons]
    exact ⟨by decide +kernel, hepfd, by decide +kernel, herrnum, by decide +kernel, trivial,
      by simp⟩
  · cases h
    exact .of_eq rfl rfl

theorem appends_gtPollerEventStart (hw : IntEpfds w) (hctl : IntError ctl)
    (h : gtPollerEventStart ctl eflag ge w = some (ret, w')) : Appends w w' := by
  obtain ⟨gevent, -, h⟩ := Option.map_eq_some_iff.mp h
  dsimp only at h
  split at h
  · cases h
    exact .of_eq rfl rfl
  · exact appends_pollerCtl (by decide) (hw _) hctl h

theorem appends_gtPollerEventStop (hw : IntEpfds w) (hctl : IntError ctl)
    (h : gtPollerEventStop ctl eflag ge w = some (ret, w')) : Appends w w' := by
  obtain ⟨gevent, -, h⟩ := Option.map_eq_some_iff.mp h
  dsimp only at h
  split at h
  · cases h
    exact .of_eq rfl rfl
  · exact appends_pollerCtl (by decide) (hw _) hctl h

theorem appends_gtPollerGeventCreate {malloc r : Option EventPtr} {efd : ℤ} {p : PollerId}
    (h : gtPollerGeventCreate malloc efd p w = some (r, w')) : Appends w w' := by
  cases malloc with
  | none =>
      cases h
      exact .logs w (foreign_error (by decide) (by decide) (by decide +kernel))
  | some ge =>
      simp only [gtPollerGeventCreate, Option.bind_eq_bind, Option.bind_eq_some_iff] at h
      obtain ⟨nodes, -, nodes', -, h⟩ := h
      cases h
      exact .of_eq rfl rfl

theorem appends_gtPollerGeventDestroy (hw : IntEpfds w) (hctl : IntError ctl)
    (h : gtPollerGeventDestroy ctl ge w = some w') : Appends w w' := by
  simp only [gtPollerGeventDestroy, Option.bind_eq_bind, Option.bind_eq_some_iff] at h
  obtain ⟨gevent, -, ⟨ret, w₁⟩, hstop, nodes, -, gevent', -, h⟩ := h
  cases h
  exact (appends_gtPollerEventStop hw hctl hstop).trans (.of_eq rfl rfl)

theorem appends_gtNetworkRoundDispatch {malloc : Option EventPtr} {sockfd : ℤ} (hw : IntEpfds w)
    (hctl : IntError ctl) (hfd : IsInt32 sockfd)
    (h : gtNetworkRoundDispatch malloc ctl sockfd w = some (ret, w')) : Appends w w' := by
  have hidx : IsInt32 (datanetIdx sockfd).val := by
    have := (datanetIdx sockfd).isLt
    simp only [IsInt32]
    omega
  simp only [gtNetworkRoundDispatch, Option.bind_eq_bind, Option.bind_eq_some_iff] at h
  obtain ⟨⟨r, w₁⟩, hcreate, h⟩ := h
  have h₁ := appends_gtPollerGeventCreate hcreate
  cases r with
  | none =>
      cases h
      refine h₁.trans (.logs w₁ (foreign_error (by decide) (by simp) ?_))
      simp only [List.forall_mem_cons]
      exact ⟨by decide +kernel, hidx, by decide +kernel, by simp⟩
  | some ge =>
      simp only [Option.bind_eq_some_iff] at h
      obtain ⟨gevent, -, ⟨ret', w₂⟩, hstart, h⟩ := h
      have hset : Appends w₁ (w₁.setEvent ge (some { gevent with
          ops := { gevent.ops with read := some .gtDatanetOpsRead } })) := .of_eq rfl rfl
      have h₂ := h₁.trans (hset.trans (appends_gtPollerEventStart ((hw.congr h₁.pollers).congr
        hset.pollers) hctl hstart))
      split at h
      · cases h
        refine h₂.trans (.logs w₂ (foreign_error (by decide) (by simp) ?_))
        simp only [List.forall_mem_cons]
        exact ⟨by decide +kernel, hfd, by decide +kernel, hidx, by decide +kernel, by simp⟩
      · cases h
        exact h₂

/-- The errors that `gt_network_ops_read` is answered with, and the descriptor. -/
structure AcceptAnswers.Ints (a : AcceptAnswers) : Prop where
  accept : ∀ errnum, a.accept = .error errnum → IsInt32 errnum
  cfd : ∀ cfd, a.accept = .ok cfd → 0 ≤ cfd ∧ cfd < 2147483648
  setsockopt : IntError a.setsockopt
  setfl : IntError a.setfl
  ctl : IntError a.ctl

theorem appends_gtNetworkOpsRead {a : AcceptAnswers} (hw : IntFields w) (ha : a.Ints)
    (h : gtNetworkOpsRead a ge w = some (ret, w')) : Appends w w' := by
  simp only [gtNetworkOpsRead, Option.bind_eq_bind, Option.bind_eq_some_iff] at h
  obtain ⟨gevent, hev, h⟩ := h
  have hlfd : IsInt32 gevent.efd := by
    obtain ⟨hlow, hhigh⟩ := hw.efd ge gevent hev
    exact ⟨by omega, hhigh⟩
  cases haccept : a.accept with
  | error errnum =>
      simp only [haccept] at h
      split at h
      · cases h
        exact .of_eq rfl rfl
      · cases h
        refine .logs w (foreign_error (by decide) (by simp) ?_)
        simp only [List.forall_mem_cons]
        exact ⟨by decide +kernel, hlfd, by decide +kernel, ha.accept errnum haccept,
          by decide +kernel, trivial, by simp⟩
  | ok cfd =>
      obtain ⟨hnonneg, hlt⟩ := ha.cfd cfd haccept
      have hcfd : IsInt32 cfd := ⟨by omega, hlt⟩
      have hport : IsInt32 (ntohs a.sinPort).toNat := by
        have := (ntohs a.sinPort).isLt
        simp only [IsInt32]
        omega
      simp only [haccept] at h
      have hopen : Appends w { w with kernel := w.kernel.accept cfd } := .of_eq rfl rfl
      split at h
      · rename_i errnum hopt
        cases h
        refine (hopen.trans (.logs _ (foreign_error (by decide) (by simp) ?_))).trans
          (.of_eq rfl rfl)
        simp only [List.forall_mem_cons]
        exact ⟨by decide +kernel, ha.setsockopt errnum hopt, by decide +kernel, trivial, by simp⟩
      · rename_i errnum hopt hfl
        cases h
        refine (hopen.trans (.logs _ (foreign_error (by decide) (by simp) ?_))).trans
          (.of_eq rfl rfl)
        simp only [List.forall_mem_cons]
        exact ⟨by decide +kernel, hcfd, by decide +kernel, ha.setfl errnum hfl, by decide +kernel,
          trivial, by simp⟩
      · simp only [Option.bind_eq_some_iff] at h
        obtain ⟨⟨ret', w₁⟩, hdispatch, h⟩ := h
        have h₁ := hopen.trans (appends_gtNetworkRoundDispatch (hw.epfd.congr hopen.pollers) ha.ctl
          hcfd hdispatch)
        split at h
        · cases h
          exact h₁
        · cases h
          refine h₁.trans (.logs w₁ (foreign_info (by decide) (by simp) ?_))
          simp only [List.forall_mem_cons]
          exact ⟨by decide +kernel, (ntohl a.sAddr).isLt, by decide +kernel, hport,
            by decide +kernel, by simp⟩

/-- The answers that `gt_datanet_ops_read` gets: `int32_t`s, and neither a NUL nor a newline
among the bytes that have arrived. -/
structure PlainRead (errno : Errno) (read : Except Errno (List UInt8)) (ctl ctl' : Option Errno) :
    Prop where
  errno : IsInt32 errno
  ctl : IntError ctl
  ctl' : IntError ctl'
  error : ∀ errnum, read = .error errnum → IsInt32 errnum
  nul : ∀ buf, read = .ok buf → 0 ∉ buf
  newline : ∀ buf, read = .ok buf → 10 ∉ buf

/-- A chunk is logged, and otherwise nothing has come in. -/
theorem gtDatanetOpsRead_log {errno : Errno} {read : Except Errno (List UInt8)}
    {ctl ctl' : Option Errno} {ev : GtEvent} (hw : IntFields w) (hev : w.events ge = some ev)
    (hread : PlainRead errno read ctl ctl')
    (h : gtDatanetOpsRead errno read ctl ctl' ge w = some (ret, w')) :
    (∃ data, data ≠ [] ∧ read = .ok data ∧
      w' = w.logs (chunkLog ev.efd (data.take (sizeofBuf - 1)))) ∨
      Appends w w' ∧ ∀ data, read = .ok data → data = [] := by
  have hefd : IsInt32 ev.efd := by
    obtain ⟨hlow, hhigh⟩ := hw.efd ge ev hev
    exact ⟨by omega, hhigh⟩
  -- the end of the file and the errors, but for those that say that there is nothing yet
  have hdrops : ∀ errnum ret₀, IsInt32 errnum → ((gtPollerEventStop ctl epollin ge
      (w.logs (gtInfoLog "gt_datanet_ops_read" 92
        [.text "Failed to read fd:", .int ev.efd, .text ", errno:", .int errnum]))).bind fun r =>
      (gtPollerGeventDestroy ctl' ge r.2).bind fun w => some (ret₀, w)) = some (ret, w') →
      Appends w w' := by
    intro errnum ret₀ herrnum hrun
    simp only [Option.bind_eq_some_iff] at hrun
    obtain ⟨⟨ret₁, w₁⟩, hstop, w₂, hdestroy, hrun⟩ := hrun
    cases hrun
    have hlog : Foreign (gtInfoLog "gt_datanet_ops_read" 92
        [.text "Failed to read fd:", .int ev.efd, .text ", errno:", .int errnum]) := by
      refine foreign_info (by decide) (by simp) ?_
      simp only [List.forall_mem_cons]
      exact ⟨by decide +kernel, hefd, by decide +kernel, herrnum, by simp⟩
    have h₀ := Appends.logs w hlog
    have h₁ := h₀.trans (appends_gtPollerEventStop (hw.epfd.congr h₀.pollers) hread.ctl hstop)
    exact h₁.trans (appends_gtPollerGeventDestroy (hw.epfd.congr h₁.pollers) hread.ctl' hdestroy)
  cases read with
  | error errnum =>
      refine .inr ⟨?_, by simp⟩
      rw [gtDatanetOpsRead_error hev] at h
      by_cases hagain : eagain = errnum ∨ ewouldblock = errnum
      · rw [if_pos hagain] at h
        cases h
        exact .of_eq rfl rfl
      · rw [if_neg hagain] at h
        exact hdrops errnum (-1) (hread.error errnum rfl) h
  | ok data =>
      by_cases hdata : data = []
      · refine .inr ⟨?_, by simp [hdata]⟩
        subst hdata
        rw [gtDatanetOpsRead_nil hev] at h
        by_cases hagain : eagain = errno ∨ ewouldblock = errno
        · rw [if_pos hagain] at h
          cases h
          exact .of_eq rfl rfl
        · rw [if_neg hagain] at h
          exact hdrops errno 0 hread.errno h
      · have hnul : 0 ∉ data.take (sizeofBuf - 1) := by
          exact fun hmem => hread.nul data rfl (List.mem_of_mem_take hmem)
        rw [gtDatanetOpsRead_data hev ctl ctl' hdata, takeWhile_of_notMem hnul] at h
        cases h
        exact .inl ⟨data, hdata, rfl, rfl⟩

end Handlers

/-! ## Runs -/

/-- What a call receives: the descriptor, and the bytes that `read` takes. -/
def arrival (w : World) : HandlerOp → Option (ℕ × List UInt8)
  | .read ge _ (.ok data) _ _ =>
      if data = [] then none
      else (w.events ge).map fun ev => (ev.efd.toNat, data.take (sizeofBuf - 1))
  | _ => none

/-- What a run receives. -/
def arrivals (lge : EventPtr) : World → List HandlerOp → List (ℕ × List UInt8)
  | _, [] => []
  | w, op :: ops => (arrival w op).toList ++
      match (handlerSystem lge).exec w op with
      | none => []
      | some w' => arrivals lge w' ops

/-- The bytes a run receives on a descriptor. -/
def arrivedOn (fd : ℕ) (l : List (ℕ × List UInt8)) : List UInt8 :=
  (l.filter fun r => r.1 = fd).flatMap Prod.snd

/-- The answers of a call are `int32_t`, and no connection sends a NUL or a newline. -/
def HandlerOp.Plain : HandlerOp → Prop
  | .accept a => a.Ints
  | .read _ errno answer ctl ctl' => PlainRead errno answer ctl ctl'

/-- What holds between calls. -/
structure LogInv (lge : EventPtr) (w : World) : Prop where
  conn : ConnInv lge w
  ints : IntFields w

/-- What a call adds to the log. -/
structure Logged (received : List (ℕ × List UInt8)) (w w' : World) : Prop where
  log : ∃ cs, w'.log = w.log ++ cs ∧ (∀ c ∈ cs, Foreign c ∨ IsChunk c) ∧
    cs.filterMap LogCall.received = received

theorem Appends.logged {w w' : World} (h : Appends w w') : Logged [] w w' := by
  obtain ⟨cs, hcs, hforeign⟩ := h.log
  refine ⟨cs, hcs, fun c hc => .inl (hforeign c hc), ?_⟩
  rw [List.filterMap_eq_nil_iff]
  exact fun c hc => (hforeign c hc).received_eq_none

theorem Logged.trans {w w' w'' : World} {l l' : List (ℕ × List UInt8)} (h : Logged l w w')
    (h' : Logged l' w' w'') : Logged (l ++ l') w w'' := by
  obtain ⟨cs, hcs, hkind, hreceived⟩ := h.log
  obtain ⟨cs', hcs', hkind', hreceived'⟩ := h'.log
  refine ⟨cs ++ cs', by rw [hcs', hcs, List.append_assoc], fun c hc => ?_, ?_⟩
  · rcases List.mem_append.mp hc with hc | hc
    · exact hkind c hc
    · exact hkind' c hc
  · rw [List.filterMap_append, hreceived, hreceived']

section Runs

variable {lge : EventPtr} {w w' : World}

/-- Calls after which the events are the same, or fewer. -/
theorem LogInv.mono (h : LogInv lge w) (hconn : ConnInv lge w') (hpollers : w'.pollers = w.pollers)
    (hevents : ∀ ge ev, w'.events ge = some ev → w.events ge = some ev) : LogInv lge w' :=
  ⟨hconn, h.ints.epfd.congr hpollers, fun ge ev hev => h.ints.efd ge ev (hevents ge ev hev)⟩

/-- **A call of `gt_datanet_ops_read`.** -/
theorem LogInv.step_read {ge : EventPtr} {ev : GtEvent} {errno : Errno}
    {read : Except Errno (List UInt8)} {ctl ctl' : Option Errno} (h : LogInv lge w)
    (hconn : w.IsConn ge ev) (hop : PlainRead errno read ctl ctl') :
    ∃ ret w', gtDatanetOpsRead errno read ctl ctl' ge w = some (ret, w') ∧ LogInv lge w' ∧
      Logged (arrival w (.read ge errno read ctl ctl')).toList w w' := by
  obtain ⟨ret, w', hrun, hcases⟩ := h.conn.exists_gtDatanetOpsRead hconn errno read ctl ctl'
  refine ⟨ret, w', hrun, ?_, ?_⟩
  · rcases hcases with ⟨-, -, rfl | ⟨c, rfl⟩⟩ | ⟨-, -, hd⟩
    · exact h
    · exact h.mono (h.conn.congr rfl rfl rfl rfl) rfl fun _ _ hev => hev
    · refine h.mono (h.conn.destroyed hconn hd) hd.pollers_eq fun g e hg => ?_
      rw [hd.events_eq] at hg
      by_cases hgge : g = ge
      · simp [hgge] at hg
      · rwa [Function.update_of_ne hgge] at hg
  · rcases gtDatanetOpsRead_log h.ints hconn.1 hop hrun with
      ⟨data, hdata, rfl, rfl⟩ | ⟨happ, hnone⟩
    · obtain ⟨hnonneg, hlt⟩ := h.ints.efd ge ev hconn.1
      obtain ⟨fd, hfd⟩ := Int.eq_ofNat_of_zero_le hnonneg
      have hroom : (data.take (sizeofBuf - 1)).length < sizeofBuf := by
        rw [List.length_take, sizeofBuf]
        omega
      have hnewline : 10 ∉ data.take (sizeofBuf - 1) := by
        exact fun hmem => hop.newline data rfl (List.mem_of_mem_take hmem)
      have hchunk : IsChunk (chunkLog ev.efd (data.take (sizeofBuf - 1))) :=
        ⟨fd, _, by rw [hfd], by omega, hroom, hnewline⟩
      refine ⟨[chunkLog ev.efd (data.take (sizeofBuf - 1))], rfl, ?_, ?_⟩
      · simpa using Or.inr hchunk
      · simp [arrival, hdata, hconn.1, LogCall.received, chunkLog, gtInfoLog]
    · have harrival : arrival w (.read ge errno read ctl ctl') = none := by
        cases read with
        | error errnum => rfl
        | ok buf => simp [arrival, hnone buf rfl]
      rw [harrival]
      exact happ.logged

/-- **A call of `gt_network_ops_read`.** -/
theorem LogInv.step_accept {a : AcceptAnswers} (h : LogInv lge w) (hl : LegalAnswers a w)
    (ha : a.Ints) : ∃ ret w', gtNetworkOpsRead a lge w = some (ret, w') ∧ LogInv lge w' ∧
      Logged [] w w' := by
  obtain ⟨ret, w', hrun, ho⟩ := h.conn.exists_gtNetworkOpsRead a
  have happends := appends_gtNetworkOpsRead h.ints ha hrun
  have h' := h.conn.outcome hl ho
  refine ⟨ret, w', hrun, ?_, happends.logged⟩
  cases ho with
  | none errnum haccept hret hw' =>
      refine h.mono h' happends.pollers fun _ _ hev => ?_
      obtain rfl | ⟨c, rfl⟩ := hw' <;> exact hev
  | closed cfd c haccept hopts hret hw' =>
      refine h.mono h' happends.pollers fun _ _ hev => ?_
      subst hw'
      exact hev
  | noMemory cfd log haccept hopts hmalloc hret hw' =>
      refine h.mono h' happends.pollers fun _ _ hev => ?_
      subst hw'
      exact hev
  | dispatched cfd ge haccept hopts hmalloc hret hd =>
      refine ⟨h', h.ints.epfd.congr happends.pollers, fun g e hg => ?_⟩
      rw [hd.events_eq] at hg
      by_cases hgge : g = ge
      · obtain rfl : connEvent cfd ge = e := by simpa [hgge] using hg
        exact ha.cfd cfd haccept
      · rw [Function.update_of_ne hgge] at hg
        exact h.ints.efd g e hg

/-- **A run** logs what it receives. -/
theorem LogInv.run {ops : List HandlerOp} (hops : ∀ op ∈ ops, op.Plain)
    (hrun : (handlerSystem lge).Run w ops w') (h : LogInv lge w) :
    Logged (arrivals lge w ops) w w' := by
  induction hrun with
  | nil w => exact (Appends.of_eq rfl rfl).logged
  | @cons w w₁ w' op ops hl he hrun ih =>
      have hop := hops op List.mem_cons_self
      have hstep : LogInv lge w₁ ∧ Logged (arrival w op).toList w w₁ := by
        cases op with
        | read ge errno read ctl ctl' =>
            obtain ⟨ev, hconn⟩ := hl
            obtain ⟨ret, w₂, hcall, hinv, hlog⟩ := h.step_read hconn hop
            obtain rfl : w₂ = w₁ := by simpa [handlerSystem, hcall] using he
            exact ⟨hinv, hlog⟩
        | accept a =>
            obtain ⟨ret, w₂, hcall, hinv, hlog⟩ := h.step_accept hl hop
            obtain rfl : w₂ = w₁ := by simpa [handlerSystem, hcall] using he
            exact ⟨hinv, hlog⟩
      have hrest := ih (fun o ho => hops o (List.mem_cons_of_mem op ho)) hstep.1
      have hsplit : arrivals lge w (op :: ops) = (arrival w op).toList ++ arrivals lge w₁ ops := by
        rw [arrivals, he]
      rw [hsplit]
      exact hstep.2.trans hrest

end Runs

/-- **The log tells the connections apart.**  From a server that has accepted nothing yet,
in every run of the handlers, whatever the system calls answer, with connections that
send neither NULs nor newlines: the record of each call is its timestamp, level tag and
message and a newline, and a reader of the log file finds for each descriptor exactly the
bytes that were received on it, in order, and for all of them together what was received
when. -/
theorem log_demultiplexes {lge : EventPtr} {w w' : World} (h : ServerReady lge w)
    (hints : IntFields w) {ops : List HandlerOp} (hops : ∀ op ∈ ops, op.Plain)
    (hrun : (handlerSystem lge).Run w ops w') {strerror : Errno → List UInt8}
    (hs : ShortErrors strerror) {time : ℕ → List UInt8} (htime : Timestamps time)
    (gGtLogFd : ℤ) :
    ∃ cs, w'.log = w.log ++ cs ∧
      logRecords strerror gGtLogFd time cs =
        cs.mapIdx (fun i c => some (some ⟨gGtLogFd,
          time i ++ levelTag c.level ++ c.render strerror ++ cstr "\n"⟩)) ∧
      readLog (writtenTo gGtLogFd (logRecords strerror gGtLogFd time cs)) = arrivals lge w ops ∧
      ∀ fd, logStream fd (writtenTo gGtLogFd (logRecords strerror gGtLogFd time cs)) =
        arrivedOn fd (arrivals lge w ops) := by
  have hinv : LogInv lge w := ⟨h.connInv, hints⟩
  obtain ⟨cs, hcs, hkind, hreceived⟩ := (hinv.run hops hrun).log
  have hfits : ∀ c ∈ cs, Fits strerror c := by
    intro c hc
    rcases hkind c hc with hf | hf
    · exact hf.fits hs
    · exact hf.fits
  have hread := readLog_logRecords htime hfits hkind gGtLogFd
  rw [hreceived] at hread
  exact ⟨cs, hcs, logRecords_of_fits htime hfits gGtLogFd, hread,
    fun fd => by rw [logStream, hread, arrivedOn]⟩

/-- A timestamp. -/
def noon : List UInt8 := cstr "2017-10-11 12:00:00 "

theorem shortErrors_nil : ShortErrors fun _ => [] := fun _ => ⟨by simp, by simp⟩

theorem intFields_serverReady : IntFields serverReady where
  epfd p := by
    cases p with
    | core | network => decide
    | datanet i =>
        have hi := i.isLt
        simp only [serverReady, IsInt32]
        omega
  efd ge ev hev := by
    obtain ⟨-, rfl⟩ := events_serverReady hev
    decide

/-- A client connects on descriptor 10 and sends `hello`. -/
theorem log_demultiplexes_hello :
    ∃ w' cs, (handlerSystem 1).Run serverReady
        [.accept (connectOn 10), .read 10 0 (.ok (cstr "hello")) none none] w' ∧
      w'.log = serverReady.log ++ cs ∧
      readLog (writtenTo 3 (logRecords (fun _ => []) 3 (fun _ => noon) cs)) =
        [(10, cstr "hello")] ∧
      logStream 10 (writtenTo 3 (logRecords (fun _ => []) 3 (fun _ => noon) cs)) =
        cstr "hello" := by
  have hserving := serving_serverReady
  obtain ⟨w₁, hl, he, -, h₁⟩ := hserving.accept (Nat.le_refl 10) id (by omega)
  have hev := h₁.live 10 (.inl rfl)
  have hplain : PlainRead 0 (.ok (cstr "hello")) none none := by
    refine ⟨by decide, by simp [IntError], by simp [IntError], by simp, ?_, ?_⟩ <;>
      rintro data ⟨⟩ <;> decide
  have haccept : (connectOn 10).Ints := by
    refine ⟨by simp [connectOn], ?_, ?_, ?_, ?_⟩
    · rintro cfd ⟨⟩
      decide
    all_goals simp [IntError, connectOn]
  have hinv : LogInv 1 serverReady := ⟨serverReady_ready.connInv, intFields_serverReady⟩
  obtain ⟨ret, w, hcall, hinv, -⟩ := hinv.step_accept hl haccept
  obtain rfl : w = w₁ := by simpa [handlerSystem, hcall] using he
  obtain ⟨ret, w₂, hread, -, -⟩ := hinv.step_read ⟨hev, _, rfl⟩ hplain
  have he₂ : (handlerSystem 1).exec w (.read 10 0 (.ok (cstr "hello")) none none) = some w₂ := by
    simp only [handlerSystem, hread, Option.map_some]
  have hrun : (handlerSystem 1).Run serverReady
      [.accept (connectOn 10), .read 10 0 (.ok (cstr "hello")) none none] w₂ :=
    .cons hl he (.cons ⟨_, hev, _, rfl⟩ he₂ (.nil w₂))
  have hops : ∀ op ∈ [HandlerOp.accept (connectOn 10),
      .read 10 0 (.ok (cstr "hello")) none none], op.Plain := by
    simp only [List.forall_mem_cons]
    exact ⟨haccept, hplain, by simp⟩
  have harrivals : arrivals 1 serverReady
      [.accept (connectOn 10), .read 10 0 (.ok (cstr "hello")) none none] =
        [(10, cstr "hello")] := by
    have hne : cstr "hello" ≠ [] := by decide
    have htake : (cstr "hello").take (sizeofBuf - 1) = cstr "hello" := by decide
    simp only [arrivals, arrival, he, he₂, hev, hne, htake, connEvent]
    rfl
  have htimes : Timestamps fun _ => noon := by
    have hnoon : noon.length = 20 ∧ 10 ∉ noon := by
      decide +kernel
    exact fun _ => hnoon
  obtain ⟨cs, hcs, -, hlog, hstream⟩ :=
    log_demultiplexes serverReady_ready intFields_serverReady hops hrun shortErrors_nil htimes 3
  rw [harrivals] at hlog hstream
  refine ⟨w₂, cs, hrun, hcs, hlog, ?_⟩
  rw [hstream]
  decide

/-! ## Forged records -/

/-- A text without NULs and newlines. -/
def PlainText (text : List UInt8) : Prop := 0 ∉ text ∧ 10 ∉ text

/-- What a client sends to forge a record. -/
def forgedChunk (pre time : List UInt8) (fd : ℕ) (text : List UInt8) : List UInt8 :=
  pre ++ 10 :: (time ++ recordHeader fd ++ text)

section Forge

variable {pre text time' : List UInt8} {fd' : ℕ}

theorem length_recordHeader_le (hfd : fd' < 2147483648) : (recordHeader fd').length ≤ 49 := by
  have hdigits := length_digitBytes_le (b := 10) (n := fd') (k := 10) (by decide) (by decide)
    (by omega)
  have hconst : chunkTag.length = 36 ∧ (cstr "]: ").length = 3 := by
    decide +kernel
  rw [recordHeader, cstr_toString, List.length_append, List.length_append]
  change chunkTag.length + _ + _ ≤ _
  omega

/-- It is neither too long for one `read` nor cut off at a NUL. -/
theorem forgedChunk_fits (hfd : fd' < 2147483648) (hpre : PlainText pre) (htext : PlainText text)
    (htime : PlainText time') (hlength : time'.length = 20)
    (hlen : pre.length + text.length + 70 ≤ sizeofBuf - 1) :
    (forgedChunk pre time' fd' text).length ≤ sizeofBuf - 1 ∧
      0 ∉ forgedChunk pre time' fd' text := by
  have hheader := length_recordHeader_le hfd
  have hnul : 0 ∉ recordHeader fd' := by
    have hconst : 0 ∉ chunkTag ∧ 0 ∉ cstr "]: " := by
      decide +kernel
    have hdigits : 0 ∉ digitBytes 10 fd' := by
      intro hmem
      exact absurd ((isDecimal_digitBytes fd').2.1 0 hmem) (by decide)
    rw [recordHeader, cstr_toString, List.mem_append, List.mem_append, not_or, not_or]
    exact ⟨⟨hconst.1, hdigits⟩, hconst.2⟩
  constructor
  · simp only [forgedChunk, List.length_append, List.length_cons]
    omega
  · simp only [forgedChunk, List.mem_append, List.mem_cons, not_or]
    exact ⟨hpre.1, by decide, ⟨htime.1, hnul⟩, htext.1⟩

/-- **The log can be forged.**  For every connection, every other descriptor and all texts
that leave room for a newline and the beginning of a record, there are bytes that one `read`
takes whole, after which the log file is byte for byte what it would be if the other
connection had sent the text. -/
theorem log_forgeable {w : World} {ge : EventPtr} {ev : GtEvent} (hev : w.events ge = some ev)
    (hnonneg : 0 ≤ ev.efd) (hlt : ev.efd < 2147483648) (hfd : fd' < 2147483648)
    (hpre : PlainText pre) (htext : PlainText text) (htime : PlainText time')
    (hlength : time'.length = 20) (hlen : pre.length + text.length + 70 ≤ sizeofBuf - 1) :
    ∃ buf, buf.length ≤ sizeofBuf - 1 ∧
      (∀ errno ctl ctl', gtDatanetOpsRead errno (.ok buf) ctl ctl' ge w =
        some ((buf.length : ℤ), w.logs (chunkLog ev.efd buf))) ∧
      ∀ (strerror : Errno → List UInt8) (gGtLogFd : ℤ) (time : List UInt8), time.length = 20 →
        10 ∉ time →
        writtenTo gGtLogFd (logRecords strerror gGtLogFd (fun _ => time) [chunkLog ev.efd buf]) =
          writtenTo gGtLogFd (logRecords strerror gGtLogFd (fun i => if i = 0 then time else time')
            [chunkLog ev.efd pre, chunkLog fd' text]) ∧
        readLog (writtenTo gGtLogFd
            (logRecords strerror gGtLogFd (fun _ => time) [chunkLog ev.efd buf])) =
          [(ev.efd.toNat, pre), (fd', text)] := by
  obtain ⟨hroom, hnul⟩ := forgedChunk_fits hfd hpre htext htime hlength hlen
  have hne : forgedChunk pre time' fd' text ≠ [] := by simp [forgedChunk]
  refine ⟨forgedChunk pre time' fd' text, hroom, ?_, ?_⟩
  · intro errno ctl ctl'
    rw [gtDatanetOpsRead_data hev ctl ctl' hne, List.take_of_length_le hroom,
      takeWhile_of_notMem hnul]
    rfl
  · intro strerror gGtLogFd time htime₀ hnewline
    have hprelen : pre.length < sizeofBuf := by omega
    have htextlen : text.length < sizeofBuf := by omega
    have htimes : Timestamps fun i => if i = 0 then time else time' := by
      intro i
      by_cases hi : i = 0
      · simpa [hi] using ⟨htime₀, hnewline⟩
      · simpa [hi] using ⟨hlength, htime.2⟩
    have hchunks : ∀ c ∈ [chunkLog ev.efd pre, chunkLog fd' text], IsChunk c := by
      obtain ⟨fd, hefd⟩ := Int.eq_ofNat_of_zero_le hnonneg
      simp only [List.forall_mem_cons]
      exact ⟨⟨fd, pre, by rw [hefd], by omega, hprelen, hpre.2⟩,
        ⟨fd', text, rfl, hfd, htextlen, htext.2⟩, by simp⟩
    have hsame : writtenTo gGtLogFd (logRecords strerror gGtLogFd (fun _ => time)
          [chunkLog ev.efd (forgedChunk pre time' fd' text)]) =
        writtenTo gGtLogFd (logRecords strerror gGtLogFd (fun i => if i = 0 then time else time')
          [chunkLog ev.efd pre, chunkLog fd' text]) := by
      have hforged :=
        gtLogPrint_chunkLog hnonneg hlt htime₀ (Nat.lt_of_le_pred (by decide) hroom) strerror
          gGtLogFd
      have hcast : (fd' : ℤ) < 2147483648 := by omega
      have hfirst := gtLogPrint_chunkLog hnonneg hlt htime₀ hprelen strerror gGtLogFd
      have hsecond :=
        gtLogPrint_chunkLog (Int.natCast_nonneg fd') hcast hlength htextlen strerror gGtLogFd
      have hnl : cstr "\n" = [10] := rfl
      have hrecord : chunkRecord ev.efd time (forgedChunk pre time' fd' text) =
          chunkRecord ev.efd time pre ++ chunkRecord fd' time' text := by
        simp [chunkRecord, forgedChunk, hnl]
      simp [logRecords, writtenTo, hforged, hfirst, hsecond, hrecord]
    have hfits : ∀ c ∈ [chunkLog ev.efd pre, chunkLog fd' text], Fits strerror c :=
      fun c hc => (hchunks c hc).fits
    have hread := readLog_logRecords htimes hfits (fun c hc => .inr (hchunks c hc)) gGtLogFd
    exact ⟨hsame, hsame ▸ hread⟩

end Forge

theorem log_forgeable_nine :
    ∃ buf, buf.length ≤ sizeofBuf - 1 ∧
      (∀ errno ctl ctl', gtDatanetOpsRead errno (.ok buf) ctl ctl' 1
        (oneConnection 7 (.datanet 3)) =
          some ((buf.length : ℤ), (oneConnection 7 (.datanet 3)).logs (chunkLog 7 buf))) ∧
      ∀ (strerror : Errno → List UInt8) (gGtLogFd : ℤ) (time : List UInt8), time.length = 20 →
        10 ∉ time →
        writtenTo gGtLogFd (logRecords strerror gGtLogFd (fun _ => time) [chunkLog 7 buf]) =
          writtenTo gGtLogFd (logRecords strerror gGtLogFd (fun i => if i = 0 then time else noon)
            [chunkLog 7 (cstr "hi"), chunkLog (9 : ℕ) (cstr "bye")]) ∧
        readLog (writtenTo gGtLogFd
            (logRecords strerror gGtLogFd (fun _ => time) [chunkLog 7 buf])) =
          [(7, cstr "hi"), (9, cstr "bye")] := by
  have htime : PlainText noon ∧ noon.length = 20 := by
    unfold PlainText
    decide +kernel
  have htext : PlainText (cstr "hi") ∧ PlainText (cstr "bye") := by
    unfold PlainText
    decide +kernel
  have hev : (oneConnection 7 (.datanet 3)).events 1 =
      some ⟨7, ⟨some .gtDatanetOpsRead, none⟩, ⟨epollin, some 1⟩, .datanet 3⟩ := rfl
  exact log_forgeable hev (by decide) (by decide) (by decide) htext.1 htext.2 htime.1 htime.2
    (by decide)

end GuitarTea
