import GuitarTea.PollerList

/-!
# The mask of an event and the kernel's mask

`e.events` is the program's copy of the mask the kernel holds for the descriptor
of an event, and it decides which request `gt_poller_event_start` and
`gt_poller_event_stop` issue.  The copy is right as long as a zero mask means that
the descriptor is not in the epoll set.  So it is wrong from the start for a second
event of a descriptor that is registered.

`gt_poller_event_stop` chooses between `EPOLL_CTL_MOD` and `EPOLL_CTL_DEL` before
it clears the bits, so it never deletes: stopping the last bits leaves the
descriptor in the set with an empty mask, and the next start issues an
`EPOLL_CTL_ADD` that the kernel refuses.  A start with no bits on an empty mask
registers the descriptor with an empty mask as well.  These two calls are the
only ones that break the correspondence where it holds.

## Main definitions

* `InterestOp`, `interestSystem` — starts and stops of one event.
* `Synced` — the mask of the event is the mask the kernel holds.
* `KeepsInterest` — the call does not leave or register an empty mask.
-/

namespace GuitarTea

/-- A call on the interest of an event. -/
inductive InterestOp
  | start (eflag : BitVec 32)
  | stop (eflag : BitVec 32)
  deriving DecidableEq, Repr

/-- Starts and stops of one event, with an `epoll_ctl` that fails only when the
epoll set refuses the request. -/
def interestSystem (ge : EventPtr) : GuardedSystem World InterestOp where
  legal _ _ := True
  exec w
    | .start eflag => (gtPollerEventStart none eflag ge w).map Prod.snd
    | .stop eflag => (gtPollerEventStop none eflag ge w).map Prod.snd

/-- The kernel holds the mask `e.events` for the descriptor of the event, and does
not know the descriptor exactly when the mask is zero. -/
def Synced (ge : EventPtr) (w : World) : Prop :=
  ∃ ev, w.events ge = some ev ∧
    (w.kernel.sets (w.pollers ev.gpoller).epfd ev.efd).map EpollEvent.events =
      if ev.e.events = 0 then none else some ev.e.events

/-- Every `epoll_ctl` issued between two states succeeded. -/
def CtlsSucceed (w w' : World) : Prop :=
  ∃ calls, w'.kernel.ctls = w.kernel.ctls ++ calls ∧ ∀ c ∈ calls, c.err = none

/-- The condition on a call: a start on an empty mask has a bit to start, and a
stop on a mask that is not empty leaves a bit. -/
def KeepsInterest (ge : EventPtr) (w : World) : InterestOp → Prop
  | .start eflag => ∀ ev, w.events ge = some ev → ev.e.events = 0 → eflag ≠ 0
  | .stop eflag => ∀ ev, w.events ge = some ev → ev.e.events ≠ 0 →
      ev.e.events &&& ~~~eflag ≠ 0

/-- A call that issues nothing and changes nothing. -/
theorem ctlsSucceed_refl (w : World) : CtlsSucceed w w := ⟨[], by simp, by simp⟩

/-- A call that issues a request that fails. -/
theorem not_ctlsSucceed_of_err {w w' : World} {c : CtlCall (Option EventPtr)}
    (h : w'.kernel.ctls = w.kernel.ctls ++ [c]) (herr : c.err ≠ none) : ¬ CtlsSucceed w w' := by
  rintro ⟨calls, hcalls, hnone⟩
  rw [h, List.append_cancel_left_eq] at hcalls
  subst hcalls
  exact herr (hnone c (List.mem_singleton_self c))

section Step

variable {func : String} {line : ℕ} {op : EpollOp} {ge : EventPtr} {ev : GtEvent}
  {e : EpollEvent (Option EventPtr)} {w : World}
  (hok : (w.kernel.epollCtl none (w.pollers ev.gpoller).epfd op ev.efd e).1 = none)
include hok

theorem ctlsSucceed_pollerCtl :
    CtlsSucceed w (pollerCtl func line none op ge ev e w).2 := by
  refine ⟨[⟨(w.pollers ev.gpoller).epfd, op, ev.efd, e, none⟩], ?_, by simp⟩
  rw [kernel_pollerCtl, Kernel.ctls_epollCtl, hok]

/-- After a successful registration the masks agree; the descriptor is in the set,
so they correspond exactly when the mask is not empty. -/
theorem synced_pollerCtl_iff (hop : op ≠ .del) :
    Synced ge (pollerCtl func line none op ge ev e w).2 ↔ e.events ≠ 0 := by
  have hset := Kernel.sets_epollCtl_of_ok hop hok
  simp only [Synced, events_pollerCtl, kernel_pollerCtl, pollers_pollerCtl,
    Function.update_self, Option.some.injEq, exists_eq_left', hset, Option.map_some]
  by_cases he : e.events = 0 <;> simp [he]

end Step

/-- Clearing bits that are not there changes nothing. -/
theorem and_not_eq_self_of_and_eq_zero {x y : BitVec 32} (h : x &&& y = 0) : x &&& ~~~y = x := by
  ext i hi
  have hbit := congrArg (fun z : BitVec 32 => z[i]) h
  simp only [BitVec.getElem_and] at hbit
  simp only [BitVec.getElem_and, BitVec.getElem_not]
  cases hx : x[i] <;> cases hy : y[i] <;> simp_all

/-- The request that `gt_poller_event_start` chooses is one the kernel accepts. -/
theorem epollCtl_start_ok {w : World} {ev : GtEvent} {e : EpollEvent (Option EventPtr)}
    (hs : (w.kernel.sets (w.pollers ev.gpoller).epfd ev.efd).map EpollEvent.events =
      if ev.e.events = 0 then none else some ev.e.events) :
    (w.kernel.epollCtl none (w.pollers ev.gpoller).epfd
      (if ev.e.events ≠ 0 then EpollOp.mod else EpollOp.add) ev.efd e).1 = none := by
  by_cases hz : ev.e.events = 0
  · rw [if_pos hz, Option.map_eq_none_iff] at hs
    rw [if_neg (by simp [hz])]
    exact Kernel.epollCtl_add_of_absent hs
  · rw [if_neg hz, Option.map_eq_some_iff] at hs
    obtain ⟨held, hheld, -⟩ := hs
    rw [if_pos hz]
    exact Kernel.epollCtl_mod_of_present hheld

/-- **One start.**  On corresponding masks it issues a request that succeeds, and
the masks correspond afterwards exactly when the call meets the condition. -/
theorem exists_start_of_synced {ge : EventPtr} {w : World} (hs : Synced ge w)
    (eflag : BitVec 32) :
    ∃ w', (interestSystem ge).exec w (.start eflag) = some w' ∧ CtlsSucceed w w' ∧
      (Synced ge w' ↔ KeepsInterest ge w (.start eflag)) := by
  have hsynced := hs
  obtain ⟨ev, hev, hmask⟩ := hs
  have hkeep : KeepsInterest ge w (.start eflag) ↔ (ev.e.events = 0 → eflag ≠ 0) := by
    simp [KeepsInterest, hev]
  by_cases hover : ev.e.events &&& eflag = 0
  · have hok := epollCtl_start_ok (e := ⟨ev.e.events ||| eflag, some ge⟩) hmask
    refine ⟨_, congrArg (Option.map Prod.snd) (gtPollerEventStart_of_disjoint hev none hover),
      ctlsSucceed_pollerCtl hok, ?_⟩
    have hor : ev.e.events ||| eflag = 0 ↔ ev.e.events = 0 ∧ eflag = 0 := BitVec.or_eq_zero_iff
    rw [synced_pollerCtl_iff hok (by split <;> simp), hkeep, ne_eq, hor]
    tauto
  · refine ⟨w, congrArg (Option.map Prod.snd) (gtPollerEventStart_of_overlap hev none hover),
      ctlsSucceed_refl w, ?_⟩
    rw [hkeep]
    refine iff_of_true hsynced ?_
    intro hz
    exact absurd (by simp [hz]) hover

/-- **One stop.**  On corresponding masks it issues a request that succeeds, and
the masks correspond afterwards exactly when the call meets the condition. -/
theorem exists_stop_of_synced {ge : EventPtr} {w : World} (hs : Synced ge w)
    (eflag : BitVec 32) :
    ∃ w', (interestSystem ge).exec w (.stop eflag) = some w' ∧ CtlsSucceed w w' ∧
      (Synced ge w' ↔ KeepsInterest ge w (.stop eflag)) := by
  have hsynced := hs
  obtain ⟨ev, hev, hmask⟩ := hs
  have hkeep : KeepsInterest ge w (.stop eflag) ↔
      (ev.e.events ≠ 0 → ev.e.events &&& ~~~eflag ≠ 0) := by
    simp [KeepsInterest, hev]
  by_cases hover : ev.e.events &&& eflag = 0
  · refine ⟨w, congrArg (Option.map Prod.snd) (gtPollerEventStop_of_disjoint hev none hover),
      ctlsSucceed_refl w, ?_⟩
    rw [hkeep]
    refine iff_of_true hsynced ?_
    intro hz
    rwa [and_not_eq_self_of_and_eq_zero hover]
  · have hz : ev.e.events ≠ 0 := by
      intro hz
      exact hover (by simp [hz])
    have hok := epollCtl_start_ok (e := ⟨ev.e.events &&& ~~~eflag, ev.e.data⟩) hmask
    rw [if_pos hz] at hok
    refine ⟨_, congrArg (Option.map Prod.snd) (gtPollerEventStop_of_overlap hev none hover),
      ctlsSucceed_pollerCtl hok, ?_⟩
    rw [synced_pollerCtl_iff hok (by simp), hkeep]
    exact ⟨fun h _ => h, fun h => h hz⟩

/-- One call. -/
theorem exists_step_of_synced {ge : EventPtr} {w : World} (hs : Synced ge w) (op : InterestOp) :
    ∃ w', (interestSystem ge).exec w op = some w' ∧ CtlsSucceed w w' ∧
      (Synced ge w' ↔ KeepsInterest ge w op) := by
  cases op with
  | start eflag => exact exists_start_of_synced hs eflag
  | stop eflag => exact exists_stop_of_synced hs eflag

/-- A new event: its mask is empty, so it corresponds to a descriptor that is not in the
epoll set. -/
theorem synced_gtPollerGeventCreate {malloc : Option EventPtr} {efd : ℤ} {p : PollerId}
    {w₀ w : World} {ge : EventPtr}
    (h : gtPollerGeventCreate malloc efd p w₀ = some (some ge, w)) :
    (Synced ge w ↔ w₀.kernel.sets (w₀.pollers p).epfd efd = none) ∧
      ∃ ev, w.events ge = some ev ∧ ev.e.events = 0 := by
  cases malloc with
  | none => simp [gtPollerGeventCreate] at h
  | some g =>
      simp only [gtPollerGeventCreate, Option.bind_eq_bind, Option.bind_eq_some_iff,
        Option.some.injEq, Prod.mk.injEq] at h
      obtain ⟨nodes, -, nodes', -, rfl, rfl⟩ := h
      refine ⟨?_, ⟨efd, ⟨none, none⟩, ⟨0, none⟩, p⟩, by simp [World.setEvent], rfl⟩
      simp [Synced, World.setEvent]

/-- **A descriptor that is in the set already.**  No call on an event with an empty mask
puts this right: a start asks for an `EPOLL_CTL_ADD` that is refused, and a stop has
nothing to do. -/
theorem not_synced_of_present {ge : EventPtr} {w w' : World} {ev : GtEvent}
    (hev : w.events ge = some ev) (hz : ev.e.events = 0) (hpresent : ¬ Synced ge w)
    {op : InterestOp} (hrun : (interestSystem ge).exec w op = some w') :
    ¬ (CtlsSucceed w w' ∧ Synced ge w') := by
  rintro ⟨hctls, hsynced⟩
  have hover : ∀ eflag, ev.e.events &&& eflag = 0 := by
    simp [hz]
  cases op with
  | start eflag =>
      have hheld : w.kernel.sets (w.pollers ev.gpoller).epfd ev.efd ≠ none := by
        intro habsent
        exact hpresent ⟨ev, hev, by simp [habsent, hz]⟩
      have hcall := congrArg (Option.map Prod.snd)
        (gtPollerEventStart_of_disjoint hev none (hover eflag))
      obtain rfl := Option.some.inj (hcall.symm.trans hrun)
      refine not_ctlsSucceed_of_err (c := ⟨(w.pollers ev.gpoller).epfd, .add, ev.efd,
        ⟨ev.e.events ||| eflag, some ge⟩, some eexist⟩) ?_ (by simp) hctls
      rw [kernel_pollerCtl, Kernel.ctls_epollCtl, if_neg (not_not.mpr hz),
        Kernel.epollCtl_add_of_present hheld]
      rfl
  | stop eflag =>
      have hcall := congrArg (Option.map Prod.snd)
        (gtPollerEventStop_of_disjoint hev none (hover eflag))
      obtain rfl : w = w' := Option.some.inj (hcall.symm.trans hrun)
      exact hpresent hsynced

/-- **When the masks correspond.**  For an event that was just created, along every
sequence of starts and stops: all requests succeed and the masks correspond after
every call, exactly when there is no call, or the descriptor was not in the epoll set
when the event was created and no call leaves or registers an empty mask. -/
theorem interest_synced_iff {malloc : Option EventPtr} {efd : ℤ} {p : PollerId} {w₀ w : World}
    {ge : EventPtr} (hcreate : gtPollerGeventCreate malloc efd p w₀ = some (some ge, w))
    (ops : List InterestOp) :
    (interestSystem ge).Always (fun w _ w' => CtlsSucceed w w' ∧ Synced ge w') w ops ↔
      ops = [] ∨ (w₀.kernel.sets (w₀.pollers p).epfd efd = none ∧
        (interestSystem ge).Meets (KeepsInterest ge) w ops) := by
  obtain ⟨hnew, ev, hev, hz⟩ := synced_gtPollerGeventCreate hcreate
  rw [← hnew]
  by_cases hs : Synced ge w
  · have hiff : (interestSystem ge).Always (fun w _ w' => CtlsSucceed w w' ∧ Synced ge w') w ops ↔
        (interestSystem ge).Meets (KeepsInterest ge) w ops := by
      refine GuardedSystem.always_iff_meets (I := Synced ge) ?_ ?_ ops w hs
      · intro w op hs _ hc
        obtain ⟨w', hrun, hctls, hiff⟩ := exists_step_of_synced hs op
        exact ⟨w', hrun, ⟨hctls, hiff.mpr hc⟩, hiff.mpr hc⟩
      · intro w op w' hs _ hc hrun hq
        obtain ⟨t, ht, -, hiff⟩ := exists_step_of_synced hs op
        obtain rfl : w' = t := Option.some.inj (hrun.symm.trans ht)
        exact hc (hiff.mp hq.2)
    rw [hiff]
    refine ⟨fun h => .inr ⟨hs, h⟩, ?_⟩
    rintro (rfl | ⟨-, h⟩)
    · trivial
    · exact h
  · cases ops with
    | nil => exact iff_of_true trivial (.inl rfl)
    | cons op ops =>
        refine iff_of_false ?_ (by simp [hs])
        intro h
        obtain ⟨w', hrun, hq, -⟩ := h trivial
        exact not_synced_of_present hev hz hs hrun hq

/-- An event for descriptor 4 on the core poller. -/
def coreEventReady : World :=
  { corePollerReady with
    events := Function.update corePollerReady.events 1
      (some ⟨4, ⟨none, none⟩, ⟨0, none⟩, .core⟩)
    nodes := Function.update
      (Function.update corePollerReady.nodes (.node 1) (some ⟨.elist .core, .elist .core⟩))
      (.elist .core) (some ⟨.node 1, .node 1⟩) }

theorem gtPollerGeventCreate_core :
    gtPollerGeventCreate (some 1) 4 .core corePollerReady = some (some 1, coreEventReady) :=
  gtPollerGeventCreate_some (l := ⟨.elist .core, .elist .core⟩) rfl 1 4

/-- Input and output are started, and output is stopped again: the masks correspond
throughout. -/
theorem interest_synced_in_out :
    (interestSystem 1).Always (fun w _ w' => CtlsSucceed w w' ∧ Synced 1 w') coreEventReady
      [.start epollin, .start epollout, .stop epollout] := by
  refine (interest_synced_iff gtPollerGeventCreate_core _).mpr (.inr ⟨rfl, ?_⟩)
  intro _
  refine ⟨by intro ev _ _; decide, ?_⟩
  intro w₁ h₁ _
  refine ⟨by intro ev _ _; decide, ?_⟩
  intro w₂ h₂ _
  refine ⟨?_, fun _ _ => trivial⟩
  intro ev hev _
  cases h₁
  cases h₂
  cases hev
  decide

/-- Input is started, stopped and started again: the stop is an `EPOLL_CTL_MOD` that
leaves an empty mask, and the second start an `EPOLL_CTL_ADD` that fails with
`EEXIST`.  The masks do not correspond after the stop nor after the second start. -/
theorem restart_after_stop_fails :
    gtPollerGeventCreate (some 1) 4 .core corePollerReady = some (some 1, coreEventReady) ∧
    ∃ w₁ w₂ w₃, (interestSystem 1).Run coreEventReady [.start epollin] w₁ ∧
      (interestSystem 1).Run w₁ [.stop epollin] w₂ ∧
      (interestSystem 1).Run w₂ [.start epollin] w₃ ∧
      w₃.kernel.ctls.map (fun c => (c.op, c.err)) =
        [(.add, none), (.mod, none), (.add, some eexist)] ∧
      ¬ Synced 1 w₂ ∧ ¬ CtlsSucceed w₂ w₃ ∧ ¬ Synced 1 w₃ := by
  refine ⟨gtPollerGeventCreate_core, _, _, _, .cons trivial rfl (.nil _),
    .cons trivial rfl (.nil _), .cons trivial rfl (.nil _), by decide, ?_, ?_, ?_⟩
  · rintro ⟨ev, hev, hmask⟩
    cases hev
    exact absurd hmask (by decide)
  · exact not_ctlsSucceed_of_err (c := ⟨3, .add, 4, ⟨epollin, some 1⟩, some eexist⟩) (by decide)
      (by decide)
  · rintro ⟨ev, hev, hmask⟩
    cases hev
    exact absurd hmask (by decide)

end GuitarTea
