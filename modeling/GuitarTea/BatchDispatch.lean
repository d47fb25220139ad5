import GuitarTea.Handover

/-!
# Which events of a batch are attended to

`gt_poller_epoll_wait` calls the read handler of an entry that is ready for reading and,
failing that, the write handler of one that is ready for writing.  `EPOLLERR` and
`EPOLLHUP` are reported without being asked for, and an entry with nothing else in its
mask is passed over: its condition stays and is reported again by the next `epoll_wait`.

The handlers call no handlers themselves, so the calls of a round are those of the loop
over the batch, whatever the other threads do in the meantime.

## Main definitions

* `Cmd.handled` — the event whose handler a command calls.
* `atEpollWait`, `serving` — a thread at its system call, and after it.
* `Attended` — every entry of the batch gets a call, in the order of the batch.
-/

namespace GuitarTea.Threads

/-! ## The calls of a program -/

/-- The event whose handler a command calls. -/
def Cmd.handled : Cmd → Option EventPtr
  | .call _ ge | .callWrite _ ge => some ge
  | _ => none

/-- Along every complete path the program calls the handlers of these events. -/
abbrev Calls {α : Type} (p : Code α) (l : List EventPtr) : Prop :=
  p.Yields threadSystem.Possible Cmd.handled l

section Silent

variable {α β : Type} {c : Cmd}

/-- A command that is no call, and what follows it. -/
theorem calls_bind {l : List EventPtr} {f : c.Val → Code β} (hc : c.handled = none)
    (hf : ∀ v, Calls (f v) l) : Calls (perform c >>= f) l :=
  Prog.yields_perform_bind (by simp [hc]) fun v _ => hf v

/-- Two programs without calls. -/
theorem silent_seq {p : Code α} {f : α → Code β} (hp : Calls p []) (hf : ∀ a, Calls (f a) []) :
    Calls (p >>= f) [] :=
  hp.bind hf

/-- A message, and the end. -/
theorem silent_log_pure (m : LogCall) (b : β) : Calls (perform (.log m) >>= fun _ => pure b) [] :=
  calls_bind rfl fun _ => Prog.yields_pure b

theorem silent_pollerCtl (func : String) (line : ℕ) (op : EpollOp) (ge : EventPtr)
    (gpoller : Option PollerId) : Calls (pollerCtl func line op ge gpoller) [] := by
  refine calls_bind rfl fun ev => ?_
  refine calls_bind rfl fun poller => ?_
  refine calls_bind rfl fun err => ?_
  cases err with
  | none => exact Prog.yields_pure _
  | some errnum => exact calls_bind rfl fun _ => silent_log_pure _ _

theorem silent_gtPollerEventStart (eflag : BitVec 32) (ge : EventPtr) :
    Calls (gtPollerEventStart eflag ge) [] := by
  refine calls_bind rfl fun _ => ?_
  refine calls_bind rfl fun _ => ?_
  refine calls_bind rfl fun _ => ?_
  split
  · exact Prog.yields_pure _
  · refine calls_bind rfl fun _ => ?_
    refine calls_bind rfl fun _ => ?_
    refine calls_bind rfl fun _ => ?_
    exact silent_pollerCtl _ _ _ _ _

theorem silent_gtPollerEventStop (eflag : BitVec 32) (ge : EventPtr) :
    Calls (gtPollerEventStop eflag ge) [] := by
  refine calls_bind rfl fun _ => ?_
  refine calls_bind rfl fun _ => ?_
  refine calls_bind rfl fun _ => ?_
  split
  · exact Prog.yields_pure _
  · refine calls_bind rfl fun _ => ?_
    refine calls_bind rfl fun _ => ?_
    exact silent_pollerCtl _ _ _ _ _

theorem silent_gtPollerGeventCreate (efd : ℤ) (p : PollerId) :
    Calls (gtPollerGeventCreate efd p) [] := by
  refine calls_bind rfl fun ptr => ?_
  cases ptr with
  | none => exact silent_log_pure _ _
  | some ge =>
      -- `memset`, `efd`, `INIT_LIST_HEAD`, `list_add`, `gpoller`
      refine calls_bind rfl fun _ => calls_bind rfl fun _ => ?_
      refine calls_bind rfl fun _ => calls_bind rfl fun _ => ?_
      refine calls_bind rfl fun _ => calls_bind rfl fun _ => calls_bind rfl fun _ => ?_
      refine calls_bind rfl fun _ => calls_bind rfl fun _ => calls_bind rfl fun _ => ?_
      exact Prog.yields_pure _

theorem silent_createStarted (efd : ℤ) (p : PollerId) (read : GtReadFn) :
    Calls (createStarted efd p read) [] := by
  refine silent_seq (silent_gtPollerGeventCreate efd p) fun ptr => ?_
  cases ptr with
  | none => exact Prog.yields_pure _
  | some ge =>
      refine calls_bind rfl fun _ => ?_
      exact silent_seq (silent_gtPollerEventStart epollin ge) fun _ => Prog.yields_pure _

theorem silent_gtPollerGeventDestroy (ge : EventPtr) : Calls (gtPollerGeventDestroy ge) [] := by
  refine calls_bind rfl fun ev => ?_
  refine silent_seq (silent_gtPollerEventStop _ ge) fun _ => ?_
  -- `list_del`
  refine calls_bind rfl fun _ => calls_bind rfl fun _ => calls_bind rfl fun _ => ?_
  refine calls_bind rfl fun _ => calls_bind rfl fun _ => calls_bind rfl fun _ => ?_
  refine calls_bind rfl fun _ => calls_bind rfl fun _ => ?_
  exact calls_bind (f := pure) rfl fun _ => Prog.yields_pure _

/-! ### The handlers -/

theorem silent_gtDatanetOpsRead (ge : EventPtr) : Calls (gtDatanetOpsRead ge) [] := by
  rw [gtDatanetOpsRead_eq]
  refine calls_bind rfl fun ev => ?_
  refine calls_bind rfl fun res => ?_
  rcases res.outcome with ⟨ret, data, errno⟩
  dsimp only
  split
  · split
    · exact Prog.yields_pure _
    · refine calls_bind rfl fun _ => calls_bind rfl fun _ => ?_
      refine silent_seq (silent_gtPollerEventStop epollin ge) fun _ => ?_
      exact silent_seq (silent_gtPollerGeventDestroy ge) fun _ => Prog.yields_pure _
  · exact calls_bind rfl fun _ => silent_log_pure _ _

theorem silent_gtNetworkRoundDispatch (sockfd : ℤ) :
    Calls (gtNetworkRoundDispatch sockfd) [] := by
  refine silent_seq (silent_createStarted _ _ _) fun started => ?_
  cases started with
  | none => exact silent_log_pure _ _
  | some ret =>
      dsimp only
      split
      · exact silent_log_pure _ _
      · exact Prog.yields_pure _

theorem silent_closeUnused (func : String) (line : ℕ) (msg : List LogPiece) (fd : ℤ) :
    Calls (closeUnused func line msg fd) [] :=
  calls_bind rfl fun _ => calls_bind rfl fun _ => Prog.yields_pure _

theorem silent_gtNetworkOpsRead (ge : EventPtr) : Calls (gtNetworkOpsRead ge) [] := by
  refine calls_bind rfl fun ev => ?_
  refine calls_bind rfl fun accepted => ?_
  cases accepted with
  | error errnum =>
      dsimp only
      split
      · exact Prog.yields_pure _
      · exact calls_bind rfl fun _ => silent_log_pure _ _
  | ok conn =>
      refine calls_bind rfl fun err => ?_
      cases err with
      | some errnum => exact silent_closeUnused _ _ _ _
      | none =>
          refine calls_bind rfl fun _ => calls_bind rfl fun err => ?_
          cases err with
          | some errnum => exact silent_closeUnused _ _ _ _
          | none =>
              refine silent_seq (silent_gtNetworkRoundDispatch conn.cfd) fun ret => ?_
              split
              · exact Prog.yields_pure _
              · exact silent_log_pure _ _

theorem silent_gtSignalOpsRead (ge : EventPtr) : Calls (gtSignalOpsRead ge) [] := by
  refine calls_bind rfl fun ev => ?_
  refine calls_bind rfl fun res => ?_
  split
  · exact silent_log_pure _ _
  · exact Prog.yields_pure _
  · dsimp only
    split
    · exact silent_log_pure _ _
    · split
      · exact silent_log_pure _ _
      · exact Prog.yields_pure _

theorem silent_callReadFn (fn : GtReadFn) (ge : EventPtr) : Calls (callReadFn fn ge) [] := by
  cases fn with
  | gtSignalOpsRead => exact silent_gtSignalOpsRead ge
  | gtNetworkOpsRead => exact silent_gtNetworkOpsRead ge
  | gtDatanetOpsRead => exact silent_gtDatanetOpsRead ge

end Silent

/-! ## The loop over a batch -/

/-- The events that a round calls the handler of: those that are ready for reading. -/
def readable (r : ReadyEvent) : List EventPtr :=
  if r.events &&& epollin ≠ 0 then r.ptr.toList else []

/-- **One entry of the batch.** -/
theorem calls_epollWaitBody (r : ReadyEvent) : Calls (epollWaitBody r) (readable r) := by
  unfold epollWaitBody readable
  split
  · refine Prog.yields_perform_bind (List.nil_append _) ?_
    rintro ge ⟨a, s, s', hresp⟩
    obtain ⟨ge', hptr, hval⟩ := Option.map_eq_some_iff.mp hresp
    obtain ⟨rfl, -⟩ := Prod.mk.inj hval
    rw [hptr]
    refine calls_bind rfl fun ev => ?_
    refine Prog.yields_perform_bind (l := []) rfl fun fn _ => ?_
    refine silent_seq (silent_callReadFn fn ge') fun ret => ?_
    split
    · refine calls_bind rfl fun ev => ?_
      exact calls_bind (f := pure) rfl fun _ => Prog.yields_pure _
    · exact Prog.yields_pure _
  · split
    · refine calls_bind rfl fun ge => ?_
      refine calls_bind rfl fun ev => ?_
      exact fun fn => nomatch fn
    · exact Prog.yields_pure _

/-- A thread in `gt_poller_epoll_wait`, after the system call. -/
def serving (ee : List ReadyEvent) : Code Bool := ee.forM epollWaitBody >>= fun _ => pure true

/-- A thread in `gt_poller_epoll_wait`, right before the system call. -/
def atEpollWait (epfd maxe : ℤ) : Code Bool := perform (.epollWait epfd maxe) >>= serving

/-- **A batch.** -/
theorem calls_serving (ee : List ReadyEvent) : Calls (serving ee) (ee.flatMap readable) := by
  have h := (Prog.yields_forM calls_epollWaitBody ee).bind fun _ => Prog.yields_pure true
  rwa [List.append_nil] at h

theorem ends_serving (ee : List ReadyEvent) : (serving ee).Ends (· = true) :=
  Prog.ends_bind _ fun _ => rfl

theorem ends_body (t : Thread) : (body t).Ends (· = true) :=
  Prog.ends_bind _ fun _ => rfl

/-! ## Batches and calls -/

/-- An entry gets at most one call. -/
theorem length_flatMap_readable_le (ee : List ReadyEvent) :
    (ee.flatMap readable).length ≤ ee.length := by
  induction ee with
  | nil => exact Nat.le_refl 0
  | cons r ee ih =>
      have hone : (readable r).length ≤ 1 := by
        rw [readable]
        split
        · cases r.ptr <;> simp
        · simp
      rw [List.flatMap_cons, List.length_append, List.length_cons]
      omega

/-- An entry that is not ready for reading gets none. -/
theorem length_flatMap_readable_lt {ee : List ReadyEvent} {r : ReadyEvent} (hr : r ∈ ee)
    (hmask : r.events &&& epollin = 0) : (ee.flatMap readable).length < ee.length := by
  obtain ⟨s, t, rfl⟩ := List.append_of_mem hr
  have hnone : readable r = [] := by simp [readable, hmask]
  have hs := length_flatMap_readable_le s
  have ht := length_flatMap_readable_le t
  simp only [List.flatMap_append, List.flatMap_cons, hnone, List.nil_append, List.length_append,
    List.length_cons]
  omega

/-- When all entries are, the calls are those of the batch. -/
theorem map_flatMap_readable {ee : List ReadyEvent} (hptr : ∀ r ∈ ee, r.ptr ≠ none)
    (hin : ∀ r ∈ ee, r.events &&& epollin ≠ 0) :
    (ee.flatMap readable).map some = ee.map ReadyEvent.ptr := by
  induction ee with
  | nil => rfl
  | cons r ee ih =>
      obtain ⟨hp, hps⟩ := List.forall_mem_cons.mp hptr
      obtain ⟨hi, his⟩ := List.forall_mem_cons.mp hin
      obtain ⟨ge, hge⟩ := Option.ne_none_iff_exists'.mp hp
      rw [List.flatMap_cons, List.map_append, ih hps his, readable, if_pos hi, List.map_cons, hge]
      rfl

/-! ## Runs -/

/-- Every command that follows no null pointer and does not leave an array has an answer. -/
theorem exists_answer {t : Thread} {cmd : Cmd} {s : Shared} (h : CallSafe t cmd s) :
    ∃ a v s', respond cmd a s = some (v, s') := by
  cases cmd with
  | deref ptr =>
      obtain ⟨ge, rfl⟩ := Option.ne_none_iff_exists'.mp h
      exact ⟨{}, _, _, rfl⟩
  | loadPoller p =>
      obtain ⟨p, rfl⟩ := Option.ne_none_iff_exists'.mp h
      exact ⟨{}, _, _, rfl⟩
  | call fn ge =>
      obtain ⟨rfl, -⟩ := h
      exact ⟨{}, _, _, rfl⟩
  | callWrite fn ge => exact h.elim
  | fault => exact h.elim
  | epollCreate => exact ⟨{ err := some 0 }, _, _, rfl⟩
  | socket => exact ⟨{ err := some 0 }, _, _, rfl⟩
  | accept fd => exact ⟨{ err := some 0 }, _, _, rfl⟩
  | epollWait epfd maxe =>
      have hlength : (([] : List ReadyEvent).length : ℤ) ≤ max maxe 0 := by
        rw [List.length_nil]
        omega
      have hempty : Reports s.kernel epfd maxe [] := ⟨hlength, by simp, by simp⟩
      exact ⟨{}, [], s, if_pos hempty⟩
  | _ => exact ⟨{}, _, _, rfl⟩

/-- A thread deals with a batch: whatever the threads have done so far, it can finish its
round, and once it has, it has called a handler of the event of each entry, in the order
of the batch. -/
structure Attended (t : Thread) (ee : List ReadyEvent) (c : Config) : Prop where
  finishes : ∀ ops c', threadSystem.system.Run c ops c' →
    ∃ ops' c'', threadSystem.system.Run c' ops' c'' ∧ c''.code t = .ret true
  called : ∀ ops c', threadSystem.system.Run c ops c' → c'.code t = .ret true →
    (ee.map ReadyEvent.ptr).Sublist ((threadSystem.observed Cmd.handled t c ops).map some)

section Round

variable {c c₁ : Config} {t : Thread} {ee : List ReadyEvent}

/-- A thread that keeps the discipline can finish its round alone. -/
theorem exists_finished (hs : discipline.Sound Idle c) (hends : (c.code t).Ends (· = true)) :
    ∃ ops c', threadSystem.system.Run c ops c' ∧ c'.code t = .ret true ∧
      ∀ l, Calls (c.code t) l → threadSystem.observed Cmd.handled t c ops = l := by
  refine ThreadSystem.exists_finish (I := discipline.Sound Idle) ?_ ?_ hs hends
  · intro c a c' hs hstep
    exact hs.step stable_idle triple_body hstep
  · intro c cmd hs hnext
    exact exists_answer (hs.check hnext).call

/-- The thread goes on with its rounds. -/
theorem ends_run {ops : List (Thread × Reply)} {c' : Config}
    (hrun : threadSystem.system.Run c ops c') :
    (c.code t).Ends (· = true) → (c'.code t).Ends (· = true) := by
  refine hrun.invariant (I := fun c => (c.code t).Ends (· = true)) ?_
  intro c op c' hends _ hstep
  rcases ThreadSystem.step_cases hstep with ⟨-, rfl⟩ | ⟨cmd, k, v, s', hcode, -, rfl⟩
  · by_cases ht : t = op.1
    · subst ht
      simpa [threadSystem] using ends_body op.1
    · simpa [ht] using hends
  · by_cases ht : t = op.1
    · subst ht
      rw [hcode] at hends
      simpa using hends v
    · simpa [ht] using hends

variable (hs : discipline.Sound Idle c) (hcode : c.code t = serving ee)
include hs hcode

/-- The condition is enough. -/
theorem attended_of_readable (hptr : ∀ r ∈ ee, r.ptr ≠ none)
    (hin : ∀ r ∈ ee, r.events &&& epollin ≠ 0) : Attended t ee c where
  finishes ops c' hrun := by
    have hends : (c.code t).Ends (· = true) := hcode ▸ ends_serving ee
    obtain ⟨ops', c'', hrun', hend, -⟩ :=
      exists_finished (hs.run stable_idle triple_body hrun) (ends_run hrun hends)
    exact ⟨ops', c'', hrun', hend⟩
  called ops c' hrun hend := by
    have hcalls : Calls (c.code t) (ee.flatMap readable) := hcode ▸ calls_serving ee
    rw [← map_flatMap_readable hptr hin]
    exact (ThreadSystem.observed_of_yields hrun hcalls hend).sublist.map some

/-- An entry with another mask is passed over. -/
theorem not_attended {r : ReadyEvent} (hr : r ∈ ee) (hmask : r.events &&& epollin = 0) :
    ¬ Attended t ee c := by
  intro hatt
  have hends : (c.code t).Ends (· = true) := hcode ▸ ends_serving ee
  have hcalls : Calls (c.code t) (ee.flatMap readable) := hcode ▸ calls_serving ee
  obtain ⟨ops, c', hrun, hend, hobs⟩ := exists_finished hs hends
  have hlong := (hatt.called ops c' hrun hend).length_le
  rw [hobs _ hcalls, List.length_map, List.length_map] at hlong
  have hshort := length_flatMap_readable_lt hr hmask
  omega

end Round

/-- What the system call reports, and what the thread does next. -/
theorem step_atEpollWait {c c₁ : Config} {t : Thread} {epfd maxe : ℤ} {a : Reply}
    (hcode : c.code t = atEpollWait epfd maxe) (hstep : threadSystem.step c t a = some c₁) :
    Reports c.shared.kernel epfd maxe a.ready ∧
      c₁ = ⟨c.shared, Function.update c.code t (serving a.ready)⟩ := by
  rcases ThreadSystem.step_cases hstep with ⟨hret, -⟩ | ⟨cmd, k, v, s', hvis, hresp, rfl⟩
  · rw [hcode] at hret
    cases hret
  · rw [hcode] at hvis
    cases hvis
    change (if Reports c.shared.kernel epfd maxe a.ready then some (a.ready, c.shared) else none) =
      some (v, s') at hresp
    split at hresp
    · rename_i hreports
      obtain ⟨rfl, rfl⟩ := Prod.mk.inj (Option.some.inj hresp)
      exact ⟨hreports, rfl⟩
    · cases hresp

/-- What is reported is a registration, which leads to an event. -/
theorem Reports.ptr_ne_none {g : Ghost} {s : Shared} {epfd maxe : ℤ} {ee : List ReadyEvent}
    (h : Reports s.kernel epfd maxe ee) (hinv : Inv g s) {r : ReadyEvent} (hr : r ∈ ee) :
    r.ptr ≠ none := by
  obtain ⟨reg, hset, hptr, -⟩ := h.entries r hr
  obtain ⟨p, ge, -, -, hdata, -⟩ := hinv.registered epfd r.fd reg hset
  rw [hptr, hdata]
  nofun

/-- **When a batch is attended to.**  In every run of the server, for every poller and
whatever batch `epoll_wait` reports to the thread that runs it: the thread calls a handler
of each entry's event, in the order of the batch, exactly when every mask has `EPOLLIN`. -/
theorem batch_attended_iff {gl : Globals} {c₀ c c₁ : Config} (h : Booted gl c₀)
    {ops : List (Thread × Reply)} (hrun : threadSystem.system.Run c₀ ops c) {t : Thread}
    {epfd maxe : ℤ} (hcode : c.code t = atEpollWait epfd maxe) {a : Reply}
    (hstep : threadSystem.step c t a = some c₁) :
    Attended t a.ready c₁ ↔ ∀ r ∈ a.ready, r.events &&& epollin ≠ 0 := by
  have hs := sound_of_booted h hrun
  obtain ⟨g, hinv, -⟩ := hs
  obtain ⟨hreports, hc₁⟩ := step_atEpollWait hcode hstep
  have hs₁ : discipline.Sound Idle c₁ := (sound_of_booted h hrun).step stable_idle triple_body hstep
  have hcode₁ : c₁.code t = serving a.ready := by simp [hc₁]
  constructor
  · intro hatt r hr hmask
    exact not_attended hs₁ hcode₁ hr hmask hatt
  · intro hin
    exact attended_of_readable hs₁ hcode₁ (fun r hr => hreports.ptr_ne_none hinv hr) hin

/-! ## A connection that hangs up -/

/-- A round up to its system call. -/
theorem body_eq (t : Thread) : body t = perform (.loadPoller (some t.poller)) >>= fun p =>
    perform (.loadPoller (some t.poller)) >>= fun p' => atEpollWait p.epfd p'.maxe := rfl

/-- A thread reads a poller. -/
theorem exists_loadPoller {c : Config} {t : Thread} {p : PollerId} {k : GtPoller → Code Bool}
    (hcode : c.code t = perform (.loadPoller (some p)) >>= k) :
    ∃ c', threadSystem.step c t {} = some c' ∧ c'.shared = c.shared ∧
      c'.code t = k (c.shared.pollers p) :=
  ⟨_, ThreadSystem.step_of_respond hcode rfl, rfl, Function.update_self t _ _⟩

/-- A thread at the end of a round comes to its next system call. -/
theorem exists_atEpollWait {c : Config} {t : Thread} (hdone : (c.code t).done = true) :
    ∃ c', threadSystem.system.Run c (alone t 3) c' ∧ c'.shared = c.shared ∧
      c'.code t = atEpollWait (c.shared.pollers t.poller).epfd
        (c.shared.pollers t.poller).maxe := by
  have hret := Prog.done_iff.mp hdone
  have hstart : threadSystem.step c t {} =
      some ⟨c.shared, Function.update c.code t (body t)⟩ := by
    simp [ThreadSystem.step, hret, threadSystem]
  obtain ⟨c₁, hload, hshared₁, hcode₁⟩ :=
    exists_loadPoller (c := ⟨c.shared, Function.update c.code t (body t)⟩)
      ((Function.update_self t (body t) c.code).trans (body_eq t))
  obtain ⟨c₂, hload', hshared₂, hcode₂⟩ := exists_loadPoller hcode₁
  refine ⟨c₂, ThreadSystem.run_cons hstart (ThreadSystem.run_cons hload
    (ThreadSystem.run_cons hload' (.nil c₂))), hshared₂.trans hshared₁, ?_⟩
  rw [hcode₂, hshared₁]

/-- The server starts, a datanet thread initialises its poller, and a connection is accepted
on descriptor 12, whose event is at 3. -/
def connectedSchedule (i : Fin 4) : List (Thread × Reply) :=
  startSchedule ++ datanetSchedule i 8 ++ connectSchedule 12 (some 3) ++ alone .network 21

/-- `epoll_wait` may report any mask of requested bits and the two that are not requested
for that connection. -/
theorem exists_batch (mask : BitVec 32)
    (hmask : mask &&& ~~~(epollin ||| epollerr ||| epollhup) = 0) :
    ∃ c epfd maxe c₁,
      threadSystem.system.Run bootConfig (connectedSchedule 0 ++ alone (.datanet 0) 3) c ∧
      c.code (.datanet 0) = atEpollWait epfd maxe ∧
      threadSystem.step c (.datanet 0) { ready := [⟨12, mask, some 3⟩] } = some c₁ := by
  obtain ⟨c, hrun, hdone, hset, hmaxe⟩ : ∃ c,
      threadSystem.system.Run bootConfig (connectedSchedule 0) c ∧
      (c.code (.datanet 0)).done = true ∧
      c.shared.kernel.sets (c.shared.pollers (.datanet 0)).epfd 12 = some ⟨epollin, some 3⟩ ∧
      1 ≤ (c.shared.pollers (.datanet 0)).maxe := by
    refine GuardedSystem.exists_run_of_execAll
      (fun c => (c.code (.datanet 0)).done = true ∧
        c.shared.kernel.sets (c.shared.pollers (.datanet 0)).epfd 12 = some ⟨epollin, some 3⟩ ∧
        1 ≤ (c.shared.pollers (.datanet 0)).maxe) (by decide +kernel) ?_
    intro c _ hc
    exact hc
  obtain ⟨c', hrun', hshared, hcode⟩ := exists_atEpollWait hdone
  have hreports : Reports c'.shared.kernel (c.shared.pollers (.datanet 0)).epfd
      (c.shared.pollers (.datanet 0)).maxe [⟨12, mask, some 3⟩] := by
    rw [hshared]
    refine ⟨?_, by simp, ?_⟩
    · simp only [List.length_singleton]
      omega
    · intro r hr
      obtain rfl := List.mem_singleton.mp hr
      exact ⟨_, hset, rfl, hmask⟩
  exact ⟨c', _, _, _, hrun.append hrun', hcode,
    ThreadSystem.step_of_respond hcode (if_pos hreports)⟩

/-- A peer that sent something and hung up: there is something to read. -/
theorem batch_attended_readable : ∃ c c₁,
    threadSystem.system.Run bootConfig (connectedSchedule 0 ++ alone (.datanet 0) 3) c ∧
    threadSystem.step c (.datanet 0) { ready := [⟨12, epollin ||| epollhup, some 3⟩] } = some c₁ ∧
    Attended (.datanet 0) [⟨12, epollin ||| epollhup, some 3⟩] c₁ := by
  obtain ⟨c, epfd, maxe, c₁, hrun, hcode, hstep⟩ :=
    exists_batch (epollin ||| epollhup) (by decide)
  refine ⟨c, c₁, hrun, hstep, (batch_attended_iff booted_bootConfig hrun hcode hstep).mpr ?_⟩
  simp only [List.mem_singleton, forall_eq]
  decide

/-- Nothing but `EPOLLHUP`: no handler is called, and `epoll_wait` will report the same
again. -/
theorem hangup_not_attended : ∃ c c₁,
    threadSystem.system.Run bootConfig (connectedSchedule 0 ++ alone (.datanet 0) 3) c ∧
    threadSystem.step c (.datanet 0) { ready := [⟨12, epollhup, some 3⟩] } = some c₁ ∧
    ¬ Attended (.datanet 0) [⟨12, epollhup, some 3⟩] c₁ := by
  obtain ⟨c, epfd, maxe, c₁, hrun, hcode, hstep⟩ := exists_batch epollhup (by decide)
  obtain ⟨-, hc₁⟩ := step_atEpollWait hcode hstep
  refine ⟨c, c₁, hrun, hstep, not_attended ?_ ?_ List.mem_cons_self (by decide)⟩
  · exact (sound_of_booted booted_bootConfig hrun).step stable_idle triple_body hstep
  · simp [hc₁]

end GuitarTea.Threads
