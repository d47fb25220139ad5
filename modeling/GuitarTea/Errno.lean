import GuitarTea.Connections

/-!
# A leftover `errno` at the end of a connection

`read` sets `errno` when it fails and leaves it alone otherwise.
`gt_datanet_ops_read` compares `errno` with `EAGAIN` also when `read` returned 0,
where it holds whatever an earlier call of the thread left there.  Its sibling
`gt_network_ops_read` looks at `errno` only after an `accept` that failed.

A connection that its peer has closed is therefore kept when the last call of the
thread that failed did so with `EAGAIN`, and dropped otherwise.

## Main definitions

* `effect` — what a call returns and leaves behind, log lines apart.
* `errnoSystem` — the handlers, with the `errno` of each datanet thread.
* `Ended` — the event is stopped and freed, and its descriptor closed.
* `EndIsSeen` — no read returns 0 while `errno` holds `EAGAIN`.
-/

namespace GuitarTea

/-! ## Two runs -/

/-- The state without its log. -/
def World.eraseLog (w : World) : World := { w with log := [] }

/-- What a call returned and left behind, its log lines apart. -/
def effect (r : Option (ℤ × World)) : Option (ℤ × World) :=
  r.map fun x => (x.1, x.2.eraseLog)

/-- The values of `errno` that mean that there is nothing to read yet. -/
def IsAgain (errno : Errno) : Prop := eagain = errno ∨ ewouldblock = errno

instance (errno : Errno) : Decidable (IsAgain errno) :=
  inferInstanceAs (Decidable (eagain = errno ∨ ewouldblock = errno))

/-- What follows a call has the same effect after two calls of the same effect. -/
theorem eraseLog_bind {x₁ x₂ : Option (ℤ × World)} (hx : effect x₁ = effect x₂)
    {f : World → Option World}
    (hf : ∀ w₁ w₂, w₁.eraseLog = w₂.eraseLog →
      (f w₁).map World.eraseLog = (f w₂).map World.eraseLog) :
    (x₁.bind fun r => f r.2).map World.eraseLog = (x₂.bind fun r => f r.2).map World.eraseLog := by
  cases x₁ with
  | none =>
      cases x₂ with
      | none => rfl
      | some r₂ => simp [effect] at hx
  | some r₁ =>
      cases x₂ with
      | none => simp [effect] at hx
      | some r₂ =>
          obtain ⟨-, hw⟩ : r₁.1 = r₂.1 ∧ r₁.2.eraseLog = r₂.2.eraseLog := by
            simpa [effect] using hx
          exact hf r₁.2 r₂.2 hw

section EraseLog

variable {w₁ w₂ : World} (h : w₁.eraseLog = w₂.eraseLog)
include h

/-- The log decides nothing in `gt_poller_event_stop`. -/
theorem effect_gtPollerEventStop (ctl : Option Errno) (eflag : BitVec 32) (ge : EventPtr) :
    effect (gtPollerEventStop ctl eflag ge w₁) = effect (gtPollerEventStop ctl eflag ge w₂) := by
  obtain ⟨pollers, events, nodes, kernel, log₁, processed⟩ := w₁
  obtain ⟨pollers', events', nodes', kernel', log₂, processed'⟩ := w₂
  simp only [World.eraseLog, World.mk.injEq] at h
  obtain ⟨rfl, rfl, rfl, rfl, -, rfl⟩ := h
  simp only [effect, gtPollerEventStop]
  cases events ge with
  | none => rfl
  | some ev =>
      simp only [Option.map_some]
      split
      · rfl
      · simp only [pollerCtl, World.setEvent]
        split <;> rfl

/-- Nor in `gt_poller_gevent_destroy`. -/
theorem eraseLog_gtPollerGeventDestroy (ctl : Option Errno) (ge : EventPtr) :
    (gtPollerGeventDestroy ctl ge w₁).map World.eraseLog =
      (gtPollerGeventDestroy ctl ge w₂).map World.eraseLog := by
  have hevents : w₁.events ge = w₂.events ge := congrArg (fun w => w.events ge) h
  simp only [gtPollerGeventDestroy, hevents]
  cases w₂.events ge with
  | none => rfl
  | some ev =>
      let finish (w : World) : Option World :=
        (listDel .listPoison1 .listPoison2 (.node ge) w.nodes).bind fun nodes =>
          (w.events ge).bind fun gevent =>
            some ({ w with
              nodes := Function.update nodes (.node ge) none
              kernel := w.kernel.close gevent.efd }.setEvent ge none)
      refine eraseLog_bind (f := finish) (effect_gtPollerEventStop h ctl ev.e.events ge) ?_
      intro v₁ v₂ hv
      obtain ⟨pollers, events, nodes, kernel, log₁, processed⟩ := v₁
      obtain ⟨pollers', events', nodes', kernel', log₂, processed'⟩ := v₂
      simp only [World.eraseLog, World.mk.injEq] at hv
      obtain ⟨rfl, rfl, rfl, rfl, -, rfl⟩ := hv
      simp only [finish]
      cases listDel .listPoison1 .listPoison2 (.node ge) nodes <;> cases events ge <;> rfl

end EraseLog

/-- The log line, the stop and the destruction with which a connection is given up. -/
def giveUp (errno : Errno) (ctl ctl' : Option Errno) (ge : EventPtr) (ev : GtEvent) (w : World) :
    Option World :=
  (gtPollerEventStop ctl epollin ge (w.logs (gtInfoLog "gt_datanet_ops_read" 92
    [.text "Failed to read fd:", .int ev.efd, .text ", errno:", .int errno]))).bind
    fun r => gtPollerGeventDestroy ctl' ge r.2

/-- Only the log line depends on `errno`. -/
theorem eraseLog_giveUp (errno₁ errno₂ : Errno) (ctl ctl' : Option Errno) (ge : EventPtr)
    (ev : GtEvent) (w : World) :
    (giveUp errno₁ ctl ctl' ge ev w).map World.eraseLog =
      (giveUp errno₂ ctl ctl' ge ev w).map World.eraseLog := by
  have hlogs : ∀ c₁ c₂, (w.logs c₁).eraseLog = (w.logs c₂).eraseLog := fun _ _ => rfl
  exact eraseLog_bind (effect_gtPollerEventStop (hlogs _ _) ctl epollin ge)
    fun _ _ hw => eraseLog_gtPollerGeventDestroy hw ctl' ge

/-- A connection that is given up has no event afterwards. -/
theorem events_giveUp {errno : Errno} {ctl ctl' : Option Errno} {ge : EventPtr} {ev : GtEvent}
    {w w' : World} (h : giveUp errno ctl ctl' ge ev w = some w') : w'.events ge = none := by
  obtain ⟨r, -, hdestroy⟩ := Option.bind_eq_some_iff.mp h
  simp only [gtPollerGeventDestroy, Option.bind_eq_bind, Option.bind_eq_some_iff,
    Option.some.injEq] at hdestroy
  obtain ⟨ev₁, -, r₁, -, nodes, -, ev₂, -, rfl⟩ := hdestroy
  simp [World.setEvent]

section Read

variable {w : World} {ge : EventPtr} {ev : GtEvent} (h : w.events ge = some ev)
  (ctl ctl' : Option Errno)
include h

/-- A read that returns 0 under a leftover `EAGAIN`. -/
theorem gtDatanetOpsRead_nil_of_again {errno : Errno} (hagain : IsAgain errno) :
    gtDatanetOpsRead errno (.ok []) ctl ctl' ge w = some (gtOk, w) := by
  have hagain' : eagain = errno ∨ ewouldblock = errno := hagain
  rw [gtDatanetOpsRead_nil h, if_pos hagain']

/-- A read that returns 0 under any other `errno`. -/
theorem gtDatanetOpsRead_nil_of_not_again {errno : Errno} (hagain : ¬ IsAgain errno) :
    gtDatanetOpsRead errno (.ok []) ctl ctl' ge w =
      (giveUp errno ctl ctl' ge ev w).map fun w => (0, w) := by
  have hagain' : ¬ (eagain = errno ∨ ewouldblock = errno) := hagain
  rw [gtDatanetOpsRead_nil h, if_neg hagain', giveUp, Option.map_bind]
  simp only [Option.map_eq_bind, Function.comp_def]

end Read

/-- **One call in two runs.**  `read` returned the same bytes in both.  The runs have the
same effect unless it returned none, and `EAGAIN` was left over in one of them
only. -/
theorem effect_gtDatanetOpsRead_iff {w : World} {ge : EventPtr} {ev : GtEvent}
    (h : w.events ge = some ev) (errno₁ errno₂ : Errno) (buf : List UInt8)
    (ctl ctl' : Option Errno) :
    effect (gtDatanetOpsRead errno₁ (.ok buf) ctl ctl' ge w) =
        effect (gtDatanetOpsRead errno₂ (.ok buf) ctl ctl' ge w) ↔
      (buf = [] → (IsAgain errno₁ ↔ IsAgain errno₂)) := by
  by_cases hbuf : buf = []
  · subst hbuf
    have hne : ∀ errno, effect (some (gtOk, w)) ≠
        effect ((giveUp errno ctl ctl' ge ev w).map fun w => (0, w)) := by
      intro errno heq
      cases hgive : giveUp errno ctl ctl' ge ev w with
      | none => simp [hgive, effect] at heq
      | some w' =>
          have hw : w.eraseLog = w'.eraseLog := by
            simp only [hgive, effect, Option.map_some, Option.some.injEq, Prod.mk.injEq] at heq
            exact heq.2
          have hgone : w.events ge = w'.events ge := congrArg (fun w => w.events ge) hw
          rw [h, events_giveUp hgive] at hgone
          cases hgone
    by_cases h₁ : IsAgain errno₁ <;> by_cases h₂ : IsAgain errno₂
    · simp [gtDatanetOpsRead_nil_of_again h, h₁, h₂]
    · rw [gtDatanetOpsRead_nil_of_again h _ _ h₁, gtDatanetOpsRead_nil_of_not_again h _ _ h₂]
      exact iff_of_false (hne errno₂) (by simp [h₁, h₂])
    · rw [gtDatanetOpsRead_nil_of_not_again h _ _ h₁, gtDatanetOpsRead_nil_of_again h _ _ h₂]
      exact iff_of_false (hne errno₁).symm (by simp [h₁, h₂])
    · rw [gtDatanetOpsRead_nil_of_not_again h _ _ h₁, gtDatanetOpsRead_nil_of_not_again h _ _ h₂]
      refine iff_of_true ?_ (fun _ => iff_of_false h₁ h₂)
      have hsame := congrArg (Option.map fun w => ((0 : ℤ), w))
        (eraseLog_giveUp errno₁ errno₂ ctl ctl' ge ev w)
      simpa only [effect, Option.map_map, Function.comp_def] using hsame
  · refine iff_of_true ?_ (fun hnil => absurd hnil hbuf)
    rw [gtDatanetOpsRead_data h ctl ctl' hbuf, gtDatanetOpsRead_data h ctl ctl' hbuf]

/-! ## Runs -/

/-- The server, with the `errno` of each datanet thread. -/
structure ErrnoState where
  world : World
  errno : Fin 4 → Errno

/-- A call of a handler, with the answers to its system calls, or any other system call
of a datanet thread that fails. -/
inductive ErrnoOp
  | accept (a : AcceptAnswers)
  | read (i : Fin 4) (ge : EventPtr) (read : Except Errno (List UInt8)) (ctl ctl' : Option Errno)
  | fails (i : Fin 4) (errnum : Errno)

/-- The `errno` of the threads after a `read` of one of them. -/
def errnoAfter (read : Except Errno (List UInt8)) (i : Fin 4) (errno : Fin 4 → Errno) :
    Fin 4 → Errno :=
  match read with
  | .ok _ => errno
  | .error errnum => Function.update errno i errnum

/-- Calls of the handlers in any order.  A read that fails sets the `errno` of its
thread; what the calls after it leave there is up to `ErrnoOp.fails`. -/
def errnoSystem (lge : EventPtr) : GuardedSystem ErrnoState ErrnoOp where
  legal s
    | .accept a => LegalAnswers a s.world
    | .read i ge _ _ _ => s.world.LiveOn (.datanet i) ge
    | .fails _ _ => True
  exec s
    | .accept a => (gtNetworkOpsRead a lge s.world).map fun r => { s with world := r.2 }
    | .read i ge read ctl ctl' =>
        (gtDatanetOpsRead (s.errno i) read ctl ctl' ge s.world).map fun r =>
          { world := r.2, errno := errnoAfter read i s.errno }
    | .fails i errnum => some { s with errno := Function.update s.errno i errnum }

/-- The event is not registered any more, its descriptor is closed and it is freed. -/
structure Ended (ge : EventPtr) (ev : GtEvent) (w : World) : Prop where
  stopped : ∀ epfd, w.kernel.sets epfd ev.efd = none
  closed : w.kernel.files ev.efd = none
  freed : w.events ge = none

/-- A read that returns 0 ends its connection. -/
def EndsOnZero (s : ErrnoState) (op : ErrnoOp) (s' : ErrnoState) : Prop :=
  match op with
  | .read _ ge (.ok []) _ _ => ∀ ev, s.world.events ge = some ev → Ended ge ev s'.world
  | _ => True

/-- The condition on a call: when a read returns 0, the `errno` of its thread is not a
leftover `EAGAIN` or `EWOULDBLOCK`. -/
def EndIsSeen (s : ErrnoState) (op : ErrnoOp) : Prop :=
  match op with
  | .read i _ (.ok []) _ _ => ¬ IsAgain (s.errno i)
  | _ => True

/-- A connection that was destroyed has ended. -/
theorem Destroyed.ended {ge : EventPtr} {ev : GtEvent} {w w' : World} (hd : Destroyed ge ev w w')
    (hopen : w.kernel.files ev.efd ≠ none) : Ended ge ev w' where
  stopped epfd := by
    rw [hd.kernel_agrees.sets_eq]
    by_contra hne
    obtain ⟨e, he⟩ := Option.ne_none_iff_exists'.mp hne
    exact (Kernel.sets_close_eq_some hopen he).1 rfl
  closed := by rw [hd.kernel_agrees.files_eq, Kernel.files_close, Function.update_self]
  freed := by rw [hd.events_eq, Function.update_self]

/-- **One call.**  It returns, the invariant survives, and a read that returns 0 ends its
connection exactly when the call meets the condition. -/
theorem ConnInv.errno_step {lge : EventPtr} {s : ErrnoState} {op : ErrnoOp}
    (h : ConnInv lge s.world) (hl : (errnoSystem lge).legal s op) :
    ∃ s', (errnoSystem lge).exec s op = some s' ∧ ConnInv lge s'.world ∧
      (EndsOnZero s op s' ↔ EndIsSeen s op) := by
  cases op with
  | accept a =>
      obtain ⟨ret, w', hrun, ho⟩ := h.exists_gtNetworkOpsRead a
      exact ⟨{ s with world := w' }, by simp [errnoSystem, hrun], h.outcome hl ho, Iff.rfl⟩
  | fails i errnum => exact ⟨_, rfl, h, Iff.rfl⟩
  | read i ge read ctl ctl' =>
      obtain ⟨ev, hev, hi⟩ := hl
      obtain ⟨ret, w', hrun, hcase⟩ :=
        h.exists_gtDatanetOpsRead ⟨hev, i, hi⟩ (s.errno i) read ctl ctl'
      have hexec : (errnoSystem lge).exec s (.read i ge read ctl ctl') =
          some ⟨w', errnoAfter read i s.errno⟩ := by
        simp only [errnoSystem, hrun, Option.map_some]
      rcases hcase with ⟨hread, -, hw'⟩ | ⟨hread, -, hd⟩
      · have hevents : w'.events = s.world.events := by
          rcases hw' with rfl | ⟨c, rfl⟩ <;> rfl
        have hinv : ConnInv lge w' := by
          rcases hw' with rfl | ⟨c, rfl⟩
          · exact h
          · exact h.congr rfl rfl rfl rfl
        refine ⟨_, hexec, hinv, ?_⟩
        rcases read with errnum | _ | ⟨b, buf⟩
        · exact Iff.rfl
        · have hagain : IsAgain (s.errno i) := by
            by_contra hagain
            exact hread ⟨rfl, hagain⟩
          refine iff_of_false ?_ (not_not.mpr hagain)
          intro hq
          have hfreed := (hq ev hev).freed
          rw [hevents, hev] at hfreed
          cases hfreed
        · exact Iff.rfl
      · refine ⟨_, hexec, h.destroyed ⟨hev, i, hi⟩ hd, ?_⟩
        rcases read with errnum | _ | ⟨b, buf⟩
        · exact Iff.rfl
        · refine iff_of_true ?_ hread.2
          intro ev' hev'
          obtain rfl : ev = ev' := Option.some.inj (hev.symm.trans hev')
          exact hd.ended (h.efd_open ge ev hev)
        · exact Iff.rfl

/-- **When the handler depends on `errno`.**  For every event and two leftover values of
`errno`, a `read` that returns the same bytes has the same effect in both runs
exactly when it returns some, or both values or none of them mean `EAGAIN`.  From
a server that has accepted nothing yet, along every run of the handlers: each read
that returns 0 ends its connection, exactly when `errno` is not a leftover
`EAGAIN` at any such read. -/
theorem read_errno_iff (w : World) (ge : EventPtr) (errno₁ errno₂ : Errno) (buf : List UInt8)
    (ctl ctl' : Option Errno) :
    (w.events ge ≠ none →
      (effect (gtDatanetOpsRead errno₁ (.ok buf) ctl ctl' ge w) =
          effect (gtDatanetOpsRead errno₂ (.ok buf) ctl ctl' ge w) ↔
        (buf = [] → (IsAgain errno₁ ↔ IsAgain errno₂)))) ∧
    ∀ (lge : EventPtr) (w : World) (errno : Fin 4 → Errno) (ops : List ErrnoOp),
      ServerReady lge w →
      ((errnoSystem lge).Always EndsOnZero ⟨w, errno⟩ ops ↔
        (errnoSystem lge).Meets EndIsSeen ⟨w, errno⟩ ops) := by
  constructor
  · intro hlive
    obtain ⟨ev, hev⟩ := Option.ne_none_iff_exists'.mp hlive
    exact effect_gtDatanetOpsRead_iff hev errno₁ errno₂ buf ctl ctl'
  · intro lge w errno ops hready
    refine GuardedSystem.always_iff_meets (I := fun s => ConnInv lge s.world) ?_ ?_ ops _
      hready.connInv
    · intro s op h hl hc
      obtain ⟨s', hexec, h', hiff⟩ := h.errno_step hl
      exact ⟨s', hexec, hiff.mpr hc, h'⟩
    · intro s op s' h hl hc hexec hq
      obtain ⟨t, ht, -, hiff⟩ := h.errno_step hl
      obtain rfl : s' = t := Option.some.inj (hexec.symm.trans ht)
      exact hc (hiff.mp hq)

/-- A connection sends a byte and is closed by its peer, and the thread's last error was
a refused connection. -/
theorem read_errno_connect12 :
    effect (gtDatanetOpsRead 0 (.ok [104]) none none 1 serverReady) =
        effect (gtDatanetOpsRead eagain (.ok [104]) none none 1 serverReady) ∧
    (errnoSystem 1).Always EndsOnZero ⟨serverReady, fun _ => 111⟩
      [.accept connect12, .read 0 2 (.ok [104]) none none, .read 0 2 (.ok []) none none] := by
  have h := read_errno_iff serverReady 1 0 eagain [104] none none
  constructor
  · exact (h.1 (by decide)).mpr (by simp)
  · refine (h.2 1 serverReady _ _ serverReady_ready).mpr ?_
    intro _
    refine ⟨trivial, ?_⟩
    intro s₁ h₁ _
    refine ⟨trivial, ?_⟩
    intro s₂ h₂ _
    cases h₁
    cases h₂
    have hseen : ¬ IsAgain 111 := by decide
    exact ⟨hseen, fun _ _ => trivial⟩

/-- A read finds nothing yet, and the next one finds that the peer has closed the
connection: it returns `GT_OK` and keeps the event and the descriptor.  Under
another `errno` the same read would have ended the connection. -/
theorem leftover_again_keeps_connection :
    ∃ s₁ s₂ s₃, (errnoSystem 1).Run ⟨serverReady, fun _ => 0⟩ [.accept connect12] s₁ ∧
      (errnoSystem 1).Run s₁ [.read 0 2 (.error eagain) none none] s₂ ∧
      (errnoSystem 1).Run s₂ [.read 0 2 (.ok []) none none] s₃ ∧
      s₃.world.events 2 = some (connEvent 12 2) ∧ s₃.world.kernel.files 12 = some 10 ∧
      ¬ EndsOnZero s₂ (.read 0 2 (.ok []) none none) s₃ ∧
      effect (gtDatanetOpsRead eagain (.ok []) none none 2 s₁.world) ≠
        effect (gtDatanetOpsRead 0 (.ok []) none none 2 s₁.world) := by
  refine ⟨_, _, _, .cons ?_ rfl (.nil _), .cons ?_ rfl (.nil _), .cons ?_ rfl (.nil _), rfl, rfl,
    ?_, ?_⟩
  · exact ⟨by intro cfd h; cases h; rfl, by intro ge h; cases h; rfl⟩
  · exact ⟨connEvent 12 2, rfl, rfl⟩
  · exact ⟨connEvent 12 2, rfl, rfl⟩
  · intro hq
    exact absurd (hq (connEvent 12 2) rfl).freed (by decide)
  · rw [ne_eq, effect_gtDatanetOpsRead_iff (show _ = some (connEvent 12 2) from rfl)]
    decide

end GuitarTea
