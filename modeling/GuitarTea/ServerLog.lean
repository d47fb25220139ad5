import GuitarTea.LogFile
import GuitarTea.Serialization

/-!
# The log file of the running server

Six threads write to one log file.  Each record is one `write`, so with complete writes the
file holds the records in the order of the logging calls, and a reader who goes through it
line by line finds on each descriptor what the threads have read there, up to the NULs,
although the records of the threads stand in any order.

Two things are asked of the environment: the integers it answers with are `int32_t`, and
the connections send no newline in front of a NUL.

## Main definitions

* `Reply.Ints`, `SendsLines` — the runs in question.
* `Logs` — a program logs chunks, and otherwise short messages without newlines.
* `fileTexts` — what a reader of the file finds.

## Main results

* `log_file_streams` — the file of a run.
-/

namespace GuitarTea.Threads

/-- The integers of an answer are `int32_t`. -/
structure Reply.Ints (a : Reply) : Prop where
  err : IntError a.err
  fd : IsInt32 a.fd
  efd : IsInt32 a.mem.efd
  readError : ∀ errnum, a.read.result = .error errnum → IsInt32 errnum
  errno : IsInt32 a.read.errno

/-- The integers in memory are. -/
structure IntMem (s : Shared) : Prop where
  epfd : ∀ p, IsInt32 (s.pollers p).epfd
  efd : ∀ ge ev, s.events ge = some ev → IsInt32 ev.efd

/-- The integers that come with a value are. -/
def IntVal : (c : Cmd) → c.Val → Prop
  | .load _, ev => IsInt32 ev.efd
  | .loadEfd _, efd => IsInt32 efd
  | .loadPoller _, poller => IsInt32 poller.epfd
  | .accept _, .ok conn => IsInt32 conn.cfd
  | .accept _, .error errnum => IsInt32 errnum
  | .fdCall _ _, err => IntError err
  | .epollCtl _ _ _ _, err => IntError err
  | .read _ _, r => IsInt32 r.outcome.2.2
  | _, _ => True

/-- A logging call is for a chunk, or has a short message; an assignment to `efd` is of an
`int32_t`, and no poller is changed. -/
def LogsPlain : Cmd → Prop
  | .log m => GuitarTea.Foreign m ∨
      ∃ fd text, IsInt32 fd ∧ text.length < sizeofBuf ∧ m = chunkLog fd text
  | .store _ w => ∀ fd, w = .efd fd → IsInt32 fd
  | .storePoller _ _ => False
  | _ => True

/-- As long as its integers are `int32_t`, the program does nothing else. -/
def Logs {α : Type} (p : Code α) : Prop := p.Obeys IntVal LogsPlain

/-- A command about which `LogsPlain` says nothing. -/
def isFree : Cmd → Bool
  | .log _ | .store _ _ | .storePoller _ _ => false
  | _ => true

/-! ## Integers in memory -/

section Ints

variable {s s' : Shared} {a : Reply} {ge : EventPtr}

theorem IntMem.congr (h : IntMem s) (hpollers : s'.pollers = s.pollers)
    (hevents : s'.events = s.events) : IntMem s' :=
  ⟨hpollers ▸ h.epfd, hevents ▸ h.efd⟩

/-- An event is changed, made or freed. -/
theorem IntMem.update (h : IntMem s) {x : Option EventMem} (hpollers : s'.pollers = s.pollers)
    (hevents : s'.events = Function.update s.events ge x)
    (hx : ∀ ev, x = some ev → IsInt32 ev.efd) : IntMem s' := by
  refine ⟨hpollers ▸ h.epfd, fun ge' ev hev => ?_⟩
  rw [hevents] at hev
  by_cases hge : ge' = ge
  · exact hx ev (by simpa [hge] using hev)
  · exact h.efd ge' ev (by simpa [hge] using hev)

/-- What is read from memory. -/
theorem IntMem.load (h : IntMem s) (ha : a.Ints) (ge : EventPtr) :
    IsInt32 ((s.events ge).getD a.mem).efd := by
  cases hev : s.events ge with
  | none => exact ha.efd
  | some ev => exact h.efd ge ev hev

/-- What `read` leaves in `errno`. -/
theorem Reply.Ints.errno_outcome (ha : a.Ints) (count : ℕ) :
    IsInt32 (a.read.upTo count).outcome.2.2 := by
  cases hres : a.read.result with
  | error errnum =>
      simpa [ReadAnswer.upTo, ReadResult.outcome, readUpTo, hres] using ha.readError errnum hres
  | ok data => simpa [ReadAnswer.upTo, ReadResult.outcome, readUpTo, hres] using ha.errno

/-- **Integers stay integers.** -/
theorem IntMem.respond {c : Cmd} {y : c.Val} (h : IntMem s) (hc : LogsPlain c) (ha : a.Ints)
    (hresp : respond c a s = some (y, s')) : IntVal c y ∧ IntMem s' := by
  cases c <;> simp only [Threads.respond] at hresp
  case malloc =>
    split at hresp
    · cases hresp
      exact ⟨trivial, h⟩
    · split at hresp <;> cases hresp
      refine ⟨trivial, h.update rfl rfl ?_⟩
      rintro ev ⟨⟩
      exact ha.efd
  case memset ge =>
    cases hresp
    refine ⟨trivial, h.update rfl rfl fun ev hev => ?_⟩
    obtain ⟨-, -, rfl⟩ := Option.map_eq_some_iff.mp hev
    decide
  case load ge | loadEfd ge =>
    cases hresp
    exact ⟨h.load ha ge, h⟩
  case store ge w =>
    cases hresp
    refine ⟨trivial, h.update rfl rfl fun ev hev => ?_⟩
    obtain ⟨ev', hev', rfl⟩ := Option.map_eq_some_iff.mp hev
    cases w with
    | efd fd => exact hc fd rfl
    | _ => exact h.efd ge ev' hev'
  case free ge =>
    cases hresp
    exact ⟨trivial, h.update rfl rfl (by simp)⟩
  case loadPoller p =>
    obtain ⟨p, -, hy⟩ := Option.map_eq_some_iff.mp hresp
    cases hy
    exact ⟨h.epfd p, h⟩
  case storePoller => exact hc.elim
  case deref ptr =>
    obtain ⟨ge, -, hy⟩ := Option.map_eq_some_iff.mp hresp
    cases hy
    exact ⟨trivial, h⟩
  case call fn ge =>
    obtain ⟨fn, -, hy⟩ := Option.map_eq_some_iff.mp hresp
    cases hy
    exact ⟨trivial, h⟩
  case callWrite fn ge =>
    obtain ⟨fn, -, hy⟩ := Option.map_eq_some_iff.mp hresp
    cases hy
    exact ⟨trivial, h⟩
  case epollCreate | socket =>
    split at hresp
    · cases hresp
      exact ⟨trivial, h⟩
    · split at hresp <;> cases hresp
      exact ⟨trivial, h.congr rfl rfl⟩
  case epollCtl epfd op fd ge =>
    cases hresp
    refine ⟨fun errnum herr => isInt32_epollCtl ?_ herr, h.congr rfl rfl⟩
    intro n hn
    rw [ctlFailure] at hn
    split at hn
    · exact ha.err n hn
    · cases hn
      cases herr : a.err with
      | none => decide
      | some errnum => exact ha.err errnum herr
  case epollWait epfd maxe =>
    split at hresp <;> cases hresp
    exact ⟨trivial, h⟩
  case accept fd =>
    split at hresp
    · rename_i errnum herr
      cases hresp
      exact ⟨ha.err errnum herr, h⟩
    · split at hresp <;> cases hresp
      exact ⟨ha.fd, h.congr rfl rfl⟩
  case fdCall =>
    cases hresp
    exact ⟨ha.err, h⟩
  case read fd count =>
    cases hresp
    exact ⟨ha.errno_outcome count, h⟩
  case fault => cases hresp
  all_goals
    cases hresp
    exact ⟨trivial, h.congr rfl rfl⟩

end Ints

/-! ## What the program logs -/

section Logs

variable {α : Type} {t : Thread}

/-- A command that is free, and what follows it. -/
theorem logs_bind {c : Cmd} {f : c.Val → Code α} (hc : isFree c = true)
    (hf : ∀ v, IntVal c v → Logs (f v)) : Logs (perform c >>= f) := by
  refine Prog.obeys_perform_bind ?_ hf
  cases c with
  | log | store | storePoller => simp [isFree] at hc
  | _ => trivial

/-- An assignment, and what follows it. -/
theorem logs_store {ge : EventPtr} {w : EventWrite} {f : Unit → Code α}
    (hw : ∀ fd, w = .efd fd → IsInt32 fd) (hf : Logs (f ())) :
    Logs (perform (.store ge w) >>= f) := by
  exact ⟨hw, fun _ _ => hf⟩

/-- A short message, and what follows it. -/
theorem logs_foreign {m : LogCall} {f : Unit → Code α} (hm : GuitarTea.Foreign m)
    (hf : Logs (f ())) : Logs (perform (.log m) >>= f) := by
  exact ⟨.inl hm, fun _ _ => hf⟩

/-- A short message at the end. -/
theorem logs_foreign_last {m : LogCall} (hm : GuitarTea.Foreign m) :
    Logs (perform (.log m)) := by
  exact ⟨.inl hm, fun _ _ => trivial⟩

/-- A command at the end. -/
theorem logs_last {c : Cmd} (hc : isFree c = true) : Logs (perform c) :=
  logs_bind (f := pure) hc fun v _ => Prog.obeys_pure v

theorem logs_pure (a : α) : Logs (pure a : Code α) := Prog.obeys_pure a

theorem logs_pollerCtl {func : String} {line : ℕ} (op : EpollOp) (ge : EventPtr)
    (p : Option PollerId) (hsite : (GtLogLevel.error, func, line) ∈ otherSites) :
    Logs (pollerCtl func line op ge p) := by
  refine logs_bind rfl fun ev _ => ?_
  refine logs_bind rfl fun poller _ => ?_
  refine logs_bind rfl fun err herr => ?_
  cases err with
  | none => exact logs_pure _
  | some errnum =>
      refine logs_bind rfl fun poller hpoller => ?_
      refine logs_foreign (foreign_error hsite (by simp) ?_) (logs_pure _)
      simp only [List.forall_mem_cons]
      exact ⟨by decide +kernel, hpoller, by decide +kernel, herr errnum rfl, by decide +kernel,
        trivial, by simp⟩

theorem logs_gtPollerEventStart (eflag : BitVec 32) (ge : EventPtr) :
    Logs (gtPollerEventStart eflag ge) := by
  refine logs_bind rfl fun _ _ => ?_
  refine logs_bind rfl fun _ _ => ?_
  refine logs_bind rfl fun _ _ => ?_
  split
  · exact logs_pure _
  · refine logs_bind rfl fun _ _ => ?_
    refine logs_store (by simp) ?_
    refine logs_store (by simp) ?_
    exact logs_pollerCtl _ _ _ (by decide)

theorem logs_gtPollerEventStop (eflag : BitVec 32) (ge : EventPtr) :
    Logs (gtPollerEventStop eflag ge) := by
  refine logs_bind rfl fun _ _ => ?_
  refine logs_bind rfl fun _ _ => ?_
  refine logs_bind rfl fun _ _ => ?_
  split
  · exact logs_pure _
  · refine logs_bind rfl fun _ _ => ?_
    refine logs_store (by simp) ?_
    exact logs_pollerCtl _ _ _ (by decide)

theorem logs_initListHead (n : NodeAddr) : Logs (initListHead n) :=
  logs_bind rfl fun _ _ => logs_last rfl

theorem logs_listAdd (a b : NodeAddr) : Logs (listAdd a b) := by
  refine logs_bind rfl fun _ _ => ?_
  refine logs_bind rfl fun _ _ => ?_
  refine logs_bind rfl fun _ _ => ?_
  exact logs_bind rfl fun _ _ => logs_last rfl

theorem logs_listDel (n : NodeAddr) : Logs (listDel n) := by
  refine logs_bind rfl fun _ _ => ?_
  refine logs_bind rfl fun _ _ => ?_
  refine Prog.Obeys.bind (logs_bind rfl fun _ _ => logs_last rfl) fun _ => ?_
  exact logs_bind rfl fun _ _ => logs_last rfl

theorem logs_gtPollerGeventCreate {efd : ℤ} (hefd : IsInt32 efd) (p : PollerId) :
    Logs (gtPollerGeventCreate efd p) := by
  refine logs_bind rfl fun ge _ => ?_
  cases ge with
  | none =>
      exact logs_foreign (foreign_error (by decide) (by decide) (by decide +kernel)) (logs_pure _)
  | some ge =>
      refine logs_bind rfl fun _ _ => ?_
      refine logs_store (by simpa using hefd) ?_
      refine (logs_initListHead _).bind fun _ => ?_
      refine (logs_listAdd _ _).bind fun _ => ?_
      exact logs_store (by simp) (logs_pure _)

theorem logs_gtPollerGeventDestroy (ge : EventPtr) : Logs (gtPollerGeventDestroy ge) := by
  refine logs_bind rfl fun _ _ => ?_
  refine (logs_gtPollerEventStop _ ge).bind fun _ => ?_
  refine (logs_listDel _).bind fun _ => ?_
  refine logs_bind rfl fun _ _ => ?_
  exact logs_bind rfl fun _ _ => logs_last rfl

theorem logs_createStarted {efd : ℤ} (hefd : IsInt32 efd) (p : PollerId) (read : GtReadFn) :
    Logs (createStarted efd p read) := by
  refine (logs_gtPollerGeventCreate hefd p).bind fun ge => ?_
  cases ge with
  | none => exact logs_pure _
  | some ge =>
      refine logs_store (by simp) ?_
      exact (logs_gtPollerEventStart _ ge).bind fun _ => logs_pure _

/-- The number of a datanet thread. -/
theorem isInt32_val (i : Fin 4) : IsInt32 i.val := by
  have hi := i.isLt
  unfold IsInt32
  omega

/-- A number of at most 32 bits that is not negative. -/
theorem isInt32_toNat (n : BitVec 16) : IsInt32 n.toNat := by
  have hn := n.isLt
  unfold IsInt32
  omega

/-- **`gt_datanet_ops_read`.** -/
theorem logs_gtDatanetOpsRead (ge : EventPtr) : Logs (gtDatanetOpsRead ge) := by
  rw [gtDatanetOpsRead_eq]
  refine logs_bind rfl fun ev _ => ?_
  refine logs_bind rfl fun res hres => ?_
  have hlen := res.length_outcome_le
  revert hres hlen
  simp only [IntVal]
  rcases res.outcome with ⟨ret, data, errno⟩
  intro hres hlen
  dsimp only at hlen ⊢
  split
  · split
    · exact logs_pure _
    · refine logs_bind rfl fun ev hev => ?_
      refine logs_foreign (foreign_info (by decide) (by simp) ?_) ?_
      · simp only [List.forall_mem_cons]
        exact ⟨by decide +kernel, hev, by decide +kernel, hres, by simp⟩
      · refine (logs_gtPollerEventStop _ ge).bind fun _ => ?_
        exact (logs_gtPollerGeventDestroy ge).bind fun _ => logs_pure _
  · refine logs_bind rfl fun ev hev => ?_
    have hroom : (upToNul data).length < sizeofBuf :=
      ((List.takeWhile_sublist _).length_le.trans hlen).trans_lt (by decide)
    exact Prog.obeys_perform_bind (.inr ⟨ev.efd, upToNul data, hev, hroom, rfl⟩)
      fun _ _ => logs_pure _

/-- **`gt_network_round_dispatch`.** -/
theorem logs_gtNetworkRoundDispatch {sockfd : ℤ} (hfd : IsInt32 sockfd) :
    Logs (gtNetworkRoundDispatch sockfd) := by
  have hidx := isInt32_val (datanetIdx sockfd)
  refine (logs_createStarted hfd _ _).bind fun started => ?_
  cases started with
  | none =>
      refine logs_foreign (foreign_error (by decide) (by simp) ?_) (logs_pure _)
      simp only [List.forall_mem_cons]
      exact ⟨by decide +kernel, hidx, by decide +kernel, by simp⟩
  | some ret =>
      dsimp only
      split
      · refine logs_foreign (foreign_error (by decide) (by simp) ?_) (logs_pure _)
        simp only [List.forall_mem_cons]
        exact ⟨by decide +kernel, hfd, by decide +kernel, hidx, by decide +kernel, by simp⟩
      · exact logs_pure _

theorem logs_closeUnused {func : String} {line : ℕ} {msg : List LogPiece} (fd : ℤ)
    (hm : GuitarTea.Foreign (gtErrorLog func line msg)) : Logs (closeUnused func line msg fd) :=
  logs_foreign hm (logs_bind rfl fun _ _ => logs_pure _)

/-- **`gt_network_ops_read`.** -/
theorem logs_gtNetworkOpsRead (ge : EventPtr) : Logs (gtNetworkOpsRead ge) := by
  refine logs_bind rfl fun ev _ => ?_
  refine logs_bind rfl fun accepted haccepted => ?_
  cases accepted with
  | error errnum =>
      dsimp only
      split
      · exact logs_pure _
      · refine logs_bind rfl fun ev hev => ?_
        refine logs_foreign (foreign_error (by decide) (by simp) ?_) (logs_pure _)
        simp only [List.forall_mem_cons]
        exact ⟨by decide +kernel, hev, by decide +kernel, haccepted, by decide +kernel, trivial,
          by simp⟩
  | ok conn =>
      refine logs_bind rfl fun err herr => ?_
      cases err with
      | some errnum =>
          refine logs_closeUnused _ (foreign_error (by decide) (by simp) ?_)
          simp only [List.forall_mem_cons]
          exact ⟨by decide +kernel, herr errnum rfl, by decide +kernel, trivial, by simp⟩
      | none =>
          refine logs_bind rfl fun _ _ => ?_
          refine logs_bind rfl fun err herr => ?_
          cases err with
          | some errnum =>
              refine logs_closeUnused _ (foreign_error (by decide) (by simp) ?_)
              simp only [List.forall_mem_cons]
              exact ⟨by decide +kernel, haccepted, by decide +kernel, herr errnum rfl,
                by decide +kernel, trivial, by simp⟩
          | none =>
              refine (logs_gtNetworkRoundDispatch haccepted).bind fun ret => ?_
              split
              · exact logs_pure _
              · refine logs_foreign (foreign_info (by decide) (by simp) ?_) (logs_pure _)
                simp only [List.forall_mem_cons]
                exact ⟨by decide +kernel, (ntohl conn.sAddr).isLt, by decide +kernel,
                  isInt32_toNat _, by decide +kernel, by simp⟩

/-- **`gt_signal_ops_read`.** -/
theorem logs_gtSignalOpsRead (ge : EventPtr) : Logs (gtSignalOpsRead ge) := by
  refine logs_bind rfl fun ev _ => ?_
  refine logs_bind rfl fun res hres => ?_
  split
  · rename_i errnum herr
    have herrnum : IsInt32 errnum := by simpa [IntVal, ReadResult.outcome, herr] using hres
    refine logs_foreign (foreign_error (by decide) (by simp) ?_) (logs_pure _)
    simp only [List.forall_mem_cons]
    exact ⟨by decide +kernel, herrnum, by decide +kernel, trivial, by simp⟩
  · exact logs_pure _
  · rename_i b bs _
    have hsig : IsInt32 (storeFirst res.buf b).toInt := by
      have hlow := BitVec.le_toInt (storeFirst res.buf b)
      have hhigh := BitVec.toInt_lt (x := storeFirst res.buf b)
      unfold IsInt32
      omega
    dsimp only
    split
    · refine logs_foreign (foreign_info (by decide) (by simp) ?_) (logs_pure _)
      simp only [List.forall_mem_cons]
      exact ⟨by decide +kernel, hsig, by decide +kernel, by simp⟩
    · split
      · refine logs_foreign (foreign_info (by decide) (by simp) ?_) (logs_pure _)
        simp only [List.forall_mem_cons]
        exact ⟨by decide +kernel, hsig, by decide +kernel, by simp⟩
      · exact logs_pure _

/-- A call of a handler. -/
theorem logs_callReadFn (fn : GtReadFn) (ge : EventPtr) : Logs (callReadFn fn ge) := by
  cases fn with
  | gtSignalOpsRead => exact logs_gtSignalOpsRead ge
  | gtNetworkOpsRead => exact logs_gtNetworkOpsRead ge
  | gtDatanetOpsRead => exact logs_gtDatanetOpsRead ge

/-- One entry of a batch. -/
theorem logs_epollWaitBody (r : ReadyEvent) : Logs (epollWaitBody r) := by
  unfold epollWaitBody
  split
  · refine logs_bind rfl fun ge _ => ?_
    refine logs_bind rfl fun ev _ => ?_
    refine logs_bind rfl fun fn _ => ?_
    refine (logs_callReadFn fn ge).bind fun ret => ?_
    split
    · refine logs_bind rfl fun ev hev => ?_
      refine logs_foreign_last (foreign_error (by decide) (by simp) ?_)
      simp only [List.forall_mem_cons]
      exact ⟨by decide +kernel, hev, by simp⟩
    · exact logs_pure _
  · split
    · refine logs_bind rfl fun ge _ => ?_
      refine logs_bind rfl fun ev _ => ?_
      exact logs_bind rfl fun fn _ => nomatch fn
    · exact logs_pure _

/-- **A round of a thread.** -/
theorem logs_body (t : Thread) : Logs (body t) := by
  refine Prog.Obeys.bind ?_ fun _ => logs_pure _
  refine logs_bind rfl fun _ _ => ?_
  refine logs_bind rfl fun _ _ => ?_
  refine logs_bind rfl fun ee _ => ?_
  exact Prog.obeys_forM logs_epollWaitBody ee

end Logs

/-! ## The file -/

/-- The texts that a log file has for a descriptor. -/
def fileTexts (fd : ℕ) (file : List UInt8) : List (List UInt8) :=
  ((readLog file).filter fun r => r.1 = fd).map Prod.snd

/-- What the connections send has no newline in front of the first NUL of a call. -/
def SendsLines (w : World) (past : List Executed) : Prop :=
  ∀ r ∈ heard past, ¬ OnCore w r.1 → 10 ∉ upToNul r.2

section File

variable {past : List Executed} {w : World} {v : View}

theorem mem_texts {fd : ℤ} {text : List UInt8} {l : List (ℤ × List UInt8)} :
    text ∈ texts fd l ↔ (fd, text) ∈ l := by
  simp [texts]

theorem dataText_eq_none {m : LogCall} (h : GuitarTea.Foreign m) : dataText m = none := by
  rw [dataText]
  split
  · rename_i fd _ text heq
    have hstr : LogPiece.str text ∈ m.msg := by simp [heq]
    exact (h.short _ hstr).elim
  · rfl

/-- A reader of the file sees what the lines for data say. -/
theorem filterMap_received (h : ∀ m ∈ logCalls past, GuitarTea.Foreign m ∨ IsChunk m) :
    (logCalls past).filterMap LogCall.received = (said past).map fun r => (r.1.toNat, r.2) := by
  rw [said, List.filterMap_filter, List.map_filterMap]
  refine List.filterMap_congr fun m hm => ?_
  rcases h m hm with hf | ⟨fd, text, rfl, -⟩
  · simp [hf.received_eq_none, dataText_eq_none hf]
  · rfl

/-- Natural numbers and descriptors that are not negative. -/
theorem texts_eq_of_nonneg {l : List (ℤ × List UInt8)} (h : ∀ r ∈ l, 0 ≤ r.1) (fd : ℕ) :
    ((l.map fun r => (r.1.toNat, r.2)).filter fun r => r.1 = fd).map Prod.snd = texts fd l := by
  rw [List.filter_map, List.map_map, texts]
  refine congrArg (List.map Prod.snd) (List.filter_congr fun r hr => ?_)
  have hnonneg := h r hr
  simp only [Function.comp_apply, decide_eq_decide]
  omega

/-- A text that was logged was received, on a connection. -/
theorem Streams.of_said (h : Streams w v past) {fd : ℤ} {text : List UInt8}
    (hsaid : (fd, text) ∈ said past) :
    ¬ OnCore w fd ∧ ∃ data, (fd, data) ∈ heard past ∧ upToNul data = text := by
  have hmem := mem_texts.mpr hsaid
  have hcore : ¬ OnCore w fd := by
    intro hcore
    simp [h.conn fd hcore] at hmem
  refine ⟨hcore, ?_⟩
  by_cases hpending : ∃ t data, v.read t = some (fd, data)
  · obtain ⟨t, data', hread⟩ := hpending
    obtain ⟨earlier, hheard, hearlier⟩ := h.pending t fd data' hread
    rw [← hearlier] at hmem
    obtain ⟨data, hdata, htext⟩ := List.mem_map.mp hmem
    refine ⟨data, mem_texts.mp ?_, htext⟩
    rw [hheard]
    exact List.mem_append_left _ hdata
  · rw [← h.logged fd hcore fun t data hread => hpending ⟨t, data, hread⟩] at hmem
    obtain ⟨data, hdata, htext⟩ := List.mem_map.mp hmem
    exact ⟨data, mem_texts.mp hdata, htext⟩

/-- Every line for data is that of a chunk. -/
theorem Streams.isChunk (h : Streams w v past) (hsends : SendsLines w past) {m : LogCall}
    (hm : m ∈ logCalls past) (hplain : LogsPlain (.log m)) :
    GuitarTea.Foreign m ∨ IsChunk m := by
  refine hplain.imp id ?_
  rintro ⟨fd, text, hfd, hlen, rfl⟩
  have hsaid : (fd, text) ∈ said past :=
    List.mem_filterMap.mpr ⟨chunkLog fd text, List.mem_filter.mpr ⟨hm, rfl⟩, rfl⟩
  obtain ⟨hcore, data, hheard, rfl⟩ := h.of_said hsaid
  have hnewline := hsends _ hheard hcore
  obtain ⟨n, rfl⟩ := Int.eq_ofNat_of_zero_le (h.nonneg _ hsaid)
  exact ⟨n, upToNul data, rfl, by exact_mod_cast hfd.2, hlen, hnewline⟩

end File

theorem Serving.intMem {lge : EventPtr} {w : World} {c : Config} (h : Serving lge w c)
    (hints : IntFields w) : IntMem c.shared := by
  refine ⟨fun p => ?_, fun ge ev hev => ?_⟩
  · rw [h.same.pollers]
    exact hints.epfd p
  · rw [h.same.events ge] at hev
    obtain ⟨ev', hev', rfl⟩ := Option.map_eq_some_iff.mp hev
    obtain ⟨hnonneg, hlt⟩ := hints.efd ge ev' hev'
    exact ⟨by simp only [EventMem.of]; omega, hlt⟩

/-- **The log file of the running server.**  Whatever the threads have done, taking turns
anywhere between two accesses: the record of each logging call is its timestamp, level tag
and message and a newline; and whichever way the records of the threads are mixed, a reader
of the file finds for each connection what the calls of `read` have received on it, each
time up to the first NUL, each once and in order, but for the data that a thread in the
middle of its round has just read. -/
theorem log_file_streams {lge : EventPtr} {w : World} {c c' : Config}
    {ops : List (Thread × Reply)} (h : Serving lge w c) (hints : IntFields w)
    (hrun : threadSystem.system.Run c ops c') (hreply : ∀ op ∈ ops, op.2.Ints)
    (hsends : SendsLines w (threadSystem.trace c ops)) {strerror : Errno → List UInt8}
    (hs : ShortErrors strerror) {time : ℕ → List UInt8} (htime : Timestamps time)
    (gGtLogFd : ℤ) :
    logRecords strerror gGtLogFd time (logCalls (threadSystem.trace c ops)) =
      (logCalls (threadSystem.trace c ops)).mapIdx (fun i m => some (some ⟨gGtLogFd,
        time i ++ levelTag m.level ++ m.render strerror ++ cstr "\n"⟩)) ∧
    ∀ fd : ℕ, ¬ OnCore w fd →
      fileTexts fd (writtenTo gGtLogFd
          (logRecords strerror gGtLogFd time (logCalls (threadSystem.trace c ops)))) =
        (texts fd (heard (threadSystem.trace c ops))).map upToNul ∨
      ∃ t earlier data, c'.code t ≠ .ret true ∧
        texts fd (heard (threadSystem.trace c ops)) = earlier ++ [data] ∧
        fileTexts fd (writtenTo gGtLogFd
            (logRecords strerror gGtLogFd time (logCalls (threadSystem.trace c ops)))) =
          earlier.map upToNul := by
  obtain ⟨v, -, -, hstreams, hat⟩ := h.exists_view hrun
  obtain ⟨-, hplain⟩ := ThreadSystem.obeys_run logs_body
    (fun cmd a s y s' hinv hok ha hresp => hinv.respond hok ha hresp) hrun
    (fun t => by rw [h.code_eq t]; trivial) (h.intMem hints) hreply
  generalize threadSystem.trace c ops = past at hsends hstreams hplain ⊢
  have hkind : ∀ m ∈ logCalls past, GuitarTea.Foreign m ∨ IsChunk m := by
    intro m hm
    refine hstreams.isChunk hsends hm ?_
    obtain ⟨⟨cmd, y⟩, he, hlog⟩ := List.mem_filterMap.mp hm
    cases cmd <;> cases hlog
    exact hplain _ he
  have hfits : ∀ m ∈ logCalls past, Fits strerror m := by
    intro m hm
    rcases hkind m hm with hf | hf
    · exact hf.fits hs
    · exact hf.fits
  refine ⟨logRecords_of_fits htime hfits gGtLogFd, fun fd hfd => ?_⟩
  rw [fileTexts, readLog_logRecords htime hfits hkind, filterMap_received hkind,
    texts_eq_of_nonneg hstreams.nonneg]
  by_cases hpending : ∃ t data, v.read t = some ((fd : ℤ), data)
  · obtain ⟨t, data, hread⟩ := hpending
    obtain ⟨earlier, hheard, hsaid⟩ := hstreams.pending t fd data hread
    refine .inr ⟨t, earlier, data, fun hidle => ?_, hheard, hsaid.symm⟩
    simp [(hat t hidle).read] at hread
  · exact .inl (hstreams.logged fd hfd fun t data hread => hpending ⟨t, data, hread⟩).symm

instance : DecidablePred IntError
  | none => .isTrue (by simp [IntError])
  | some errnum => decidable_of_iff (IsInt32 errnum) (by simp [IntError])

instance : DecidablePred Reply.Ints := fun a =>
  have : Decidable (∀ errnum, a.read.result = .error errnum → IsInt32 errnum) :=
    match a.read.result with
    | .ok _ => .isTrue (by simp)
    | .error errnum => decidable_of_iff (IsInt32 errnum) (by simp)
  decidable_of_iff (IntError a.err ∧ IsInt32 a.fd ∧ IsInt32 a.mem.efd ∧
      (∀ errnum, a.read.result = .error errnum → IsInt32 errnum) ∧ IsInt32 a.read.errno)
    ⟨fun h => ⟨h.1, h.2.1, h.2.2.1, h.2.2.2.1, h.2.2.2.2⟩,
      fun h => ⟨h.err, h.fd, h.efd, h.readError, h.errno⟩⟩

/-- The datanet thread ends its round, and the file has the `hi`. -/
theorem log_file_streams_overtaken : ∃ c',
    threadSystem.system.Run servingConfig (overtakenSchedule 0 ++ alone (.datanet 0) 1) c' ∧
    fileTexts 12 (writtenTo 3 (logRecords (fun _ => []) 3 (fun _ => noon) (logCalls
      (threadSystem.trace servingConfig (overtakenSchedule 0 ++ alone (.datanet 0) 1))))) =
        [[104, 105]] := by
  refine GuardedSystem.exists_run_of_execAll
    (fun c => (c.code .main).done = true ∧ (c.code .network).done = true ∧
      ∀ i : Fin 4, (c.code (.datanet i)).done = true) (by decide +kernel) ?_
  rintro c' hrun ⟨hmain, hnet, hdatanet⟩
  have hidle : ∀ t, c'.code t = .ret true := by
    intro t
    cases t with
    | main => exact Prog.done_iff.mp hmain
    | network => exact Prog.done_iff.mp hnet
    | datanet i => exact Prog.done_iff.mp (hdatanet i)
  have hcore : ¬ OnCore serverReady 12 := by
    rintro ⟨ge, ev, hev, hp, -⟩
    rw [(events_serverReady hev).2] at hp
    cases hp
  have hlines : ∀ r ∈ heard
      (threadSystem.trace servingConfig (overtakenSchedule 0 ++ alone (.datanet 0) 1)),
      10 ∉ upToNul r.2 := by
    decide +kernel
  have htimes : Timestamps fun _ => noon := by
    have hnoon : noon.length = 20 ∧ 10 ∉ noon := by
      decide +kernel
    exact fun _ => hnoon
  obtain ⟨-, hfile⟩ := log_file_streams serving_servingConfig intFields_serverReady hrun
    (by decide +kernel) (fun r hr _ => hlines r hr) shortErrors_nil htimes 3
  have hheard : texts 12 (heard
      (threadSystem.trace servingConfig (overtakenSchedule 0 ++ alone (.datanet 0) 1))) =
        [[104, 105]] := by
    decide +kernel
  rcases hfile 12 hcore with heq | ⟨t, -, -, hbusy, -⟩
  · exact heq.trans (congrArg _ hheard)
  · exact absurd (hidle t) hbusy

end GuitarTea.Threads
