import GuitarTea.Interest

/-!
# What a call on the interest of an event leaves behind

`gt_poller_event_start` and `gt_poller_event_stop` are meant to add bits to the mask
of an event and to take bits out of it, and to leave the event alone when
`epoll_ctl` fails.

A start returns at once when one of its bits is in the mask already, so the other
bits of the call are forgotten; a stop is exact.  Both functions write the new mask
before they call `epoll_ctl` and do not write the old one back when it fails, and
then the next attempt finds its bits in the mask, or finds none of them, and
returns `GT_OK` without a request.

## Main definitions

* `InterestOp.call`, `InterestOp.apply` — the call, and the set operation it stands for.
* `InterestOp.Exits`, `InterestOp.request` — the early exit and the request issued.
* `WholeOrNone` — the bits of a start are all in the mask or all missing.
* `FailsCleanly` — a request that fails writes nothing new into the event.
-/

namespace GuitarTea

/-! ## One call -/

/-- A call, with the error `epoll_ctl` reports although the set would allow the
request. -/
def InterestOp.call (op : InterestOp) (ctl : Option Errno) (ge : EventPtr) (w : World) :
    Option (ℤ × World) :=
  match op with
  | .start eflag => gtPollerEventStart ctl eflag ge w
  | .stop eflag => gtPollerEventStop ctl eflag ge w

/-- The union or difference of masks that a call stands for. -/
def InterestOp.apply (op : InterestOp) (mask : BitVec 32) : BitVec 32 :=
  match op with
  | .start eflag => mask ||| eflag
  | .stop eflag => mask &&& ~~~eflag

/-- The mask `e.events` of an event; an address without an event has none. -/
def World.mask (w : World) (ge : EventPtr) : BitVec 32 :=
  ((w.events ge).map fun ev => ev.e.events).getD 0

/-- The call returns `GT_OK` without a request. -/
def InterestOp.Exits (op : InterestOp) (mask : BitVec 32) : Prop :=
  match op with
  | .start eflag => mask &&& eflag ≠ 0
  | .stop eflag => mask &&& eflag = 0

instance (op : InterestOp) (mask : BitVec 32) : Decidable (op.Exits mask) :=
  match op with
  | .start eflag => inferInstanceAs (Decidable (mask &&& eflag ≠ 0))
  | .stop eflag => inferInstanceAs (Decidable (mask &&& eflag = 0))

/-- The request a call issues otherwise. -/
def InterestOp.request (op : InterestOp) (ev : GtEvent) : EpollOp :=
  match op with
  | .start _ => if ev.e.events ≠ 0 then .mod else .add
  | .stop _ => .mod

/-- The `e` a call writes into the event before its request. -/
def InterestOp.newE (op : InterestOp) (ge : EventPtr) (ev : GtEvent) :
    EpollEvent (Option EventPtr) :=
  match op with
  | .start _ => ⟨op.apply ev.e.events, some ge⟩
  | .stop _ => ⟨op.apply ev.e.events, ev.e.data⟩

/-- A union or difference that is repeated changes nothing. -/
theorem InterestOp.apply_apply (op : InterestOp) (mask : BitVec 32) :
    op.apply (op.apply mask) = op.apply mask := by
  cases op with
  | start eflag => rw [InterestOp.apply, InterestOp.apply, BitVec.or_assoc, BitVec.or_self]
  | stop eflag => rw [InterestOp.apply, InterestOp.apply, BitVec.and_assoc, BitVec.and_self]

@[simp] theorem InterestOp.newE_events (op : InterestOp) (ge : EventPtr) (ev : GtEvent) :
    (op.newE ge ev).events = op.apply ev.e.events := by
  cases op <;> rfl

section Call

variable {w : World} {ge : EventPtr} {ev : GtEvent} (h : w.events ge = some ev)
include h

theorem World.mask_of_eq : w.mask ge = ev.e.events := by
  simp [World.mask, h]

/-- **What a call can do**: return at once, or write the new `e` and issue its request. -/
theorem InterestOp.call_cases (op : InterestOp) (ctl : Option Errno) :
    (op.Exits ev.e.events ∧ op.call ctl ge w = some (gtOk, w)) ∨
    (¬ op.Exits ev.e.events ∧ ∃ func line, op.call ctl ge w =
      some (pollerCtl func line ctl (op.request ev) ge ev (op.newE ge ev) w)) := by
  by_cases hexit : op.Exits ev.e.events
  · left
    refine ⟨hexit, ?_⟩
    cases op with
    | start eflag => exact gtPollerEventStart_of_overlap h ctl hexit
    | stop eflag => exact gtPollerEventStop_of_disjoint h ctl hexit
  · right
    refine ⟨hexit, ?_⟩
    cases op with
    | start eflag => exact ⟨_, _, gtPollerEventStart_of_disjoint h ctl (not_not.mp hexit)⟩
    | stop eflag => exact ⟨_, _, gtPollerEventStop_of_overlap h ctl hexit⟩

/-- A call on a live event returns, and the event is live afterwards. -/
theorem InterestOp.exists_call (op : InterestOp) (ctl : Option Errno) :
    ∃ ret w' ev', op.call ctl ge w = some (ret, w') ∧ w'.events ge = some ev' ∧
      w'.pollers = w.pollers ∧ ev'.efd = ev.efd ∧ ev'.gpoller = ev.gpoller := by
  rcases op.call_cases h ctl with ⟨-, hcall⟩ | ⟨-, func, line, hcall⟩
  · exact ⟨gtOk, w, ev, hcall, h, rfl, rfl, rfl⟩
  · have hevent : (pollerCtl func line ctl (op.request ev) ge ev (op.newE ge ev) w).2.events ge =
        some { ev with e := op.newE ge ev } := by
      rw [events_pollerCtl, Function.update_self]
    exact ⟨_, _, _, hcall, hevent, pollers_pollerCtl .., rfl, rfl⟩

end Call

/-! ## Masks as sets -/

/-- Calls that return `GT_OK`. -/
def successSystem (ge : EventPtr) : GuardedSystem World (InterestOp × Option Errno) where
  legal w c := (c.1.call c.2 ge w).map Prod.fst = some gtOk
  exec w c := (c.1.call c.2 ge w).map Prod.snd

/-- The condition on a call: the bits of a start are all in the mask or all missing. -/
def WholeOrNone (ge : EventPtr) (w : World) (c : InterestOp × Option Errno) : Prop :=
  match c.1 with
  | .start eflag => w.mask ge &&& eflag = 0 ∨ w.mask ge &&& eflag = eflag
  | .stop _ => True

/-- Adding bits that are there changes nothing, and only those. -/
theorem or_eq_self_iff_and_eq {x y : BitVec 32} : x ||| y = x ↔ x &&& y = y := by
  constructor
  · intro h
    rw [← h, BitVec.and_comm]
    ext i hi
    simp only [BitVec.getElem_and, BitVec.getElem_or]
    cases x[i] <;> cases y[i] <;> rfl
  · intro h
    rw [← h]
    ext i hi
    simp only [BitVec.getElem_and, BitVec.getElem_or]
    cases x[i] <;> cases y[i] <;> rfl

/-- **The mask after a call that succeeds**: the new one, or the old one after an early
exit. -/
theorem mask_call {w w' : World} {ge : EventPtr} {ev : GtEvent} (h : w.events ge = some ev)
    {op : InterestOp} {ctl : Option Errno} {ret : ℤ} (hcall : op.call ctl ge w = some (ret, w')) :
    w'.mask ge = if op.Exits (w.mask ge) then w.mask ge else op.apply (w.mask ge) := by
  rw [World.mask_of_eq h]
  rcases op.call_cases h ctl with ⟨hexit, hrun⟩ | ⟨hexit, func, line, hrun⟩
  · obtain ⟨rfl, rfl⟩ : gtOk = ret ∧ w = w' := by simpa [hrun] using hcall
    rw [if_pos hexit, World.mask_of_eq h]
  · obtain rfl : (pollerCtl func line ctl (op.request ev) ge ev (op.newE ge ev) w).2 = w' := by
      rw [hrun, Option.some.injEq] at hcall
      rw [hcall]
    rw [if_neg hexit, World.mask, events_pollerCtl, Function.update_self, Option.map_some,
      Option.getD_some, InterestOp.newE_events]

/-- **One call.**  It is exact when it meets the condition, and only then. -/
theorem mask_call_eq_apply_iff {w w' : World} {ge : EventPtr} {ev : GtEvent}
    (h : w.events ge = some ev) {op : InterestOp} {ctl : Option Errno} {ret : ℤ}
    (hcall : op.call ctl ge w = some (ret, w')) :
    w'.mask ge = op.apply (w.mask ge) ↔ WholeOrNone ge w (op, ctl) := by
  rw [mask_call h hcall]
  cases op with
  | start eflag =>
      by_cases hexit : (InterestOp.start eflag).Exits (w.mask ge)
      · have hover : w.mask ge &&& eflag ≠ 0 := hexit
        rw [if_pos hexit, InterestOp.apply, eq_comm, or_eq_self_iff_and_eq]
        exact ⟨.inr, fun hor => hor.resolve_left hover⟩
      · rw [if_neg hexit]
        exact iff_of_true rfl (.inl (not_not.mp hexit))
  | stop eflag =>
      refine iff_of_true ?_ trivial
      by_cases hexit : (InterestOp.stop eflag).Exits (w.mask ge)
      · rw [if_pos hexit, InterestOp.apply, and_not_eq_self_of_and_eq_zero hexit]
      · rw [if_neg hexit]

/-- Repeating a call changes nothing. -/
theorem mask_call_twice {w w' w'' : World} {ge : EventPtr} {ev : GtEvent}
    (h : w.events ge = some ev) {op : InterestOp} {ctl ctl' : Option Errno} {ret ret' : ℤ}
    (hcall : op.call ctl ge w = some (ret, w')) (hagain : op.call ctl' ge w' = some (ret', w'')) :
    w''.mask ge = w'.mask ge := by
  obtain ⟨_, _, ev', hrun, hev', -⟩ := op.exists_call h ctl
  obtain ⟨rfl, rfl⟩ : _ = ret ∧ _ = w' := by simpa [hrun] using hcall
  have hmask := mask_call h hrun
  rw [mask_call hev' hagain, hmask]
  by_cases hexit : op.Exits (w.mask ge)
  · rw [if_pos hexit, if_pos hexit]
  · rw [if_neg hexit, InterestOp.apply_apply, ite_self]

/-- The condition makes a whole run a fold. -/
theorem mask_run_eq_foldl {ge : EventPtr} {ops : List (InterestOp × Option Errno)} {w w' : World}
    (hrun : (successSystem ge).Run w ops w') (hlive : ∃ ev, w.events ge = some ev)
    (hmeets : (successSystem ge).Meets (WholeOrNone ge) w ops) :
    w'.mask ge = ops.foldl (fun mask c => c.1.apply mask) (w.mask ge) := by
  induction hrun with
  | nil => rfl
  | cons hl he _ ih =>
      rename_i w w₁ w' c ops _
      obtain ⟨ev, hev⟩ := hlive
      obtain ⟨ret, w₂, ev', hcall, hev', -⟩ := c.1.exists_call hev c.2
      obtain rfl : w₂ = w₁ := by simpa [successSystem, hcall] using he
      obtain ⟨hc, hrest⟩ := hmeets hl
      rw [ih ⟨ev', hev'⟩ (hrest _ he), (mask_call_eq_apply_iff hev hcall).mpr hc]
      rfl

/-- **When masks behave as sets.**  Along every sequence of calls that return `GT_OK`, on
any event: each call makes the mask the union or difference it stands for, exactly
when the bits of every start are all in the mask or all missing; the mask after the
sequence is then the fold of these.  A call that is repeated changes nothing. -/
theorem interest_mask_iff {w : World} {ge : EventPtr} {ev : GtEvent} (h : w.events ge = some ev)
    (ops : List (InterestOp × Option Errno)) :
    ((successSystem ge).Always (fun w c w' => w'.mask ge = c.1.apply (w.mask ge)) w ops ↔
      (successSystem ge).Meets (WholeOrNone ge) w ops) ∧
    (∀ w', (successSystem ge).Run w ops w' → (successSystem ge).Meets (WholeOrNone ge) w ops →
      w'.mask ge = ops.foldl (fun mask c => c.1.apply mask) (w.mask ge)) ∧
    ∀ (op : InterestOp) (ctl ctl' : Option Errno) (w' w'' : World),
      op.call ctl ge w = some (gtOk, w') → op.call ctl' ge w' = some (gtOk, w'') →
      w''.mask ge = w'.mask ge := by
  refine ⟨?_, fun w' hrun hmeets => mask_run_eq_foldl hrun ⟨ev, h⟩ hmeets,
    fun op ctl ctl' w' w'' hcall hagain => mask_call_twice h hcall hagain⟩
  refine GuardedSystem.always_iff_meets (I := fun w => ∃ ev, w.events ge = some ev) ?_ ?_ ops w
    ⟨ev, h⟩
  · rintro w c ⟨ev, hev⟩ _ hc
    obtain ⟨ret, w', ev', hcall, hev', -⟩ := c.1.exists_call hev c.2
    refine ⟨w', by simp [successSystem, hcall], ?_, ev', hev'⟩
    exact (mask_call_eq_apply_iff hev hcall).mpr hc
  · rintro w c w' ⟨ev, hev⟩ _ hc hexec hq
    obtain ⟨ret, w₁, ev', hcall, -⟩ := c.1.exists_call hev c.2
    obtain rfl : w₁ = w' := by simpa [successSystem, hcall] using hexec
    exact hc ((mask_call_eq_apply_iff hev hcall).mp hq)

/-- Input and output are started together, then output again with nothing new, and a stop of
output and of a bit that is not there. -/
theorem interest_mask_in :
    (successSystem 1).Always (fun w c w' => w'.mask 1 = c.1.apply (w.mask 1)) coreEventReady
      [(.start (epollin ||| epollout), none), (.start epollout, none),
        (.stop (epollout ||| epollerr), none)] := by
  have hev : coreEventReady.events 1 = some ⟨4, ⟨none, none⟩, ⟨0, none⟩, .core⟩ := rfl
  refine ((interest_mask_iff hev _).1).mpr ?_
  intro _
  refine ⟨.inl (by decide), ?_⟩
  intro w₁ h₁ _
  cases h₁
  exact ⟨.inr (by decide), fun _ _ _ => ⟨trivial, fun _ _ => trivial⟩⟩

/-- Input is started, then input and output: the second call returns `GT_OK` and the
mask has no output bit. -/
theorem partial_overlap_forgets_output :
    ∃ w₁ w₂, (InterestOp.start epollin).call none 1 coreEventReady = some (gtOk, w₁) ∧
      (InterestOp.start (epollin ||| epollout)).call none 1 w₁ = some (gtOk, w₂) ∧
      w₁.mask 1 = epollin ∧ w₂.mask 1 = epollin ∧
      w₂.mask 1 ≠ (InterestOp.start (epollin ||| epollout)).apply (w₁.mask 1) :=
  ⟨_, _, rfl, rfl, by decide, by decide, by decide⟩

/-! ## Calls that fail -/

/-- All calls, whatever they return. -/
def attemptSystem (ge : EventPtr) : GuardedSystem World (InterestOp × Option Errno) where
  legal _ _ := True
  exec w c := (c.1.call c.2 ge w).map Prod.snd

/-- Calls that fail. -/
def failureSystem (ge : EventPtr) : GuardedSystem World (InterestOp × Option Errno) where
  legal w c := ∃ ret w', c.1.call c.2 ge w = some (ret, w') ∧ ret ≠ gtOk
  exec w c := (c.1.call c.2 ge w).map Prod.snd

/-- A call that fails leaves the event as it was. -/
def Atomic (ge : EventPtr) (w : World) (c : InterestOp × Option Errno) (w' : World) : Prop :=
  ∀ ret, c.1.call c.2 ge w = some (ret, w') → ret ≠ gtOk → w'.events ge = w.events ge

/-- The error `epoll_ctl` reports to a call that issues its request. -/
def InterestOp.ctlError (op : InterestOp) (ctl : Option Errno) (w : World) (ev : GtEvent) :
    Option Errno :=
  ctl.or (Kernel.refusal (op.request ev) (w.kernel.sets (w.pollers ev.gpoller).epfd ev.efd))

/-- The condition on a call: it returns at once, or `epoll_ctl` succeeds, or there is
nothing new to write, which is a start without bits on an event whose `data.ptr` is
set already. -/
def FailsCleanly (ge : EventPtr) (w : World) (c : InterestOp × Option Errno) : Prop :=
  ∀ ev, w.events ge = some ev → c.1.Exits ev.e.events ∨ c.1.ctlError c.2 w ev = none ∨
    (c.1 = .start 0 ∧ ev.e.data = some ge)

/-- What a call adds to the history of `epoll_ctl` calls, their results left out. -/
def InterestOp.requests (op : InterestOp) (ctl : Option Errno) (ge : EventPtr) (w : World) :
    List (ℤ × EpollOp × ℤ × EpollEvent (Option EventPtr)) :=
  match op.call ctl ge w with
  | none => []
  | some (_, w') => (w'.kernel.ctls.drop w.kernel.ctls.length).map
      fun c => (c.epfd, c.op, c.fd, c.event)

/-- The new `e` is the old one exactly when there is nothing new to write. -/
theorem InterestOp.newE_eq_iff {op : InterestOp} {ge : EventPtr} {ev : GtEvent}
    (hexit : ¬ op.Exits ev.e.events) :
    op.newE ge ev = ev.e ↔ op = .start 0 ∧ ev.e.data = some ge := by
  cases op with
  | start eflag =>
      have hover : ev.e.events &&& eflag = 0 := not_not.mp hexit
      have hor : ev.e.events ||| eflag = ev.e.events ↔ eflag = 0 := by
        rw [or_eq_self_iff_and_eq, hover, eq_comm]
      have heq : (InterestOp.start eflag).newE ge ev = ev.e ↔
          ev.e.events ||| eflag = ev.e.events ∧ some ge = ev.e.data :=
        EpollEvent.mk.injEq .. ▸ Iff.rfl
      rw [heq, hor, InterestOp.start.injEq, eq_comm (a := some ge)]
  | stop eflag =>
      refine iff_of_false ?_ (by simp)
      intro heq
      have hmask : ev.e.events &&& ~~~eflag = ev.e.events := congrArg EpollEvent.events heq
      refine hexit ?_
      rw [InterestOp.Exits, ← hmask, BitVec.and_assoc]
      simp

section Failure

variable {w : World} {ge : EventPtr} {ev : GtEvent} (h : w.events ge = some ev)
include h

/-- **When a call fails**: it issues its request and `epoll_ctl` reports an error. -/
theorem InterestOp.call_fails_iff {op : InterestOp} {ctl : Option Errno} {ret : ℤ} {w' : World}
    (hcall : op.call ctl ge w = some (ret, w')) :
    ret ≠ gtOk ↔ ¬ op.Exits ev.e.events ∧ op.ctlError ctl w ev ≠ none := by
  rcases op.call_cases h ctl with ⟨hexit, hrun⟩ | ⟨hexit, func, line, hrun⟩
  · obtain ⟨rfl, rfl⟩ : gtOk = ret ∧ w = w' := by simpa [hrun] using hcall
    exact iff_of_false (fun hne => hne rfl) (fun hc => hc.1 hexit)
  · have hret : (pollerCtl func line ctl (op.request ev) ge ev (op.newE ge ev) w).1 = ret := by
      rw [hrun, Option.some.injEq] at hcall
      rw [hcall]
    rw [← hret, ne_eq, fst_pollerCtl_eq_gtOk_iff]
    rw [Kernel.fst_epollCtl]
    exact ⟨fun herr => ⟨hexit, herr⟩, fun hc => hc.2⟩

/-- The event after a call that fails. -/
theorem InterestOp.events_of_fails {op : InterestOp} {ctl : Option Errno} {ret : ℤ} {w' : World}
    (hcall : op.call ctl ge w = some (ret, w')) (hret : ret ≠ gtOk) :
    w'.events ge = some { ev with e := op.newE ge ev } := by
  rcases op.call_cases h ctl with ⟨-, hrun⟩ | ⟨-, func, line, hrun⟩
  · obtain ⟨rfl, rfl⟩ : gtOk = ret ∧ w = w' := by simpa [hrun] using hcall
    exact absurd rfl hret
  · obtain rfl : (pollerCtl func line ctl (op.request ev) ge ev (op.newE ge ev) w).2 = w' := by
      rw [hrun, Option.some.injEq] at hcall
      rw [hcall]
    rw [events_pollerCtl, Function.update_self]

/-- **One call.**  It is atomic when it meets the condition, and only then. -/
theorem atomic_iff {op : InterestOp} {ctl : Option Errno} {ret : ℤ} {w' : World}
    (hcall : op.call ctl ge w = some (ret, w')) :
    Atomic ge w (op, ctl) w' ↔ FailsCleanly ge w (op, ctl) := by
  have hclean : FailsCleanly ge w (op, ctl) ↔ op.Exits ev.e.events ∨
      op.ctlError ctl w ev = none ∨ (op = .start 0 ∧ ev.e.data = some ge) := by
    simp [FailsCleanly, h]
  have hatomic : Atomic ge w (op, ctl) w' ↔ (ret ≠ gtOk → w'.events ge = w.events ge) := by
    constructor
    · exact fun ha => ha ret hcall
    · intro ha ret' hcall' hret'
      obtain ⟨rfl, -⟩ : ret = ret' ∧ w' = w' := by simpa [hcall] using hcall'
      exact ha hret'
  rw [hclean, hatomic]
  by_cases hret : ret = gtOk
  · refine iff_of_true (fun hne => absurd hret hne) ?_
    have hno := mt (op.call_fails_iff h hcall).mpr (not_not.mpr hret)
    by_cases hexit : op.Exits ev.e.events
    · exact .inl hexit
    · exact .inr (.inl (by_contra fun herr => hno ⟨hexit, herr⟩))
  · obtain ⟨hexit, herr⟩ := (op.call_fails_iff h hcall).mp hret
    have hsame : w'.events ge = w.events ge ↔ op.newE ge ev = ev.e := by
      rw [op.events_of_fails h hcall hret, h, Option.some.injEq]
      constructor
      · exact fun heq => congrArg GtEvent.e heq
      · intro heq
        rw [heq]
    rw [hsame, InterestOp.newE_eq_iff hexit]
    simp [hret, hexit, herr]

/-- The request a call issues does not depend on how `epoll_ctl` answers. -/
theorem InterestOp.requests_eq (op : InterestOp) (ctl : Option Errno) :
    op.requests ctl ge w = if op.Exits ev.e.events then [] else
      [((w.pollers ev.gpoller).epfd, op.request ev, ev.efd, op.newE ge ev)] := by
  rcases op.call_cases h ctl with ⟨hexit, hrun⟩ | ⟨hexit, func, line, hrun⟩
  · rw [if_pos hexit, InterestOp.requests, hrun]
    simp
  · rw [if_neg hexit, InterestOp.requests, hrun]
    simp only [kernel_pollerCtl, Kernel.ctls_epollCtl, List.drop_left, List.map_cons,
      List.map_nil]

end Failure

/-- After attempts that failed cleanly, a retry issues the request of the first one. -/
theorem requests_after_failures {ge : EventPtr} {op : InterestOp} {ctls : List (Option Errno)}
    {w w' : World} (hlive : ∃ ev, w.events ge = some ev)
    (hrun : (failureSystem ge).Run w (ctls.map fun ctl => (op, ctl)) w')
    (hmeets : (failureSystem ge).Meets (FailsCleanly ge) w (ctls.map fun ctl => (op, ctl)))
    (ctl ctl' : Option Errno) : op.requests ctl ge w' = op.requests ctl' ge w := by
  induction ctls generalizing w with
  | nil =>
      cases hrun
      obtain ⟨ev, hev⟩ := hlive
      rw [op.requests_eq hev, op.requests_eq hev]
  | cons c ctls ih =>
      cases hrun with
      | cons hl he hrest =>
          rename_i w₁
          obtain ⟨ev, hev⟩ := hlive
          obtain ⟨ret, w₂, hcall, hret⟩ := hl
          obtain rfl : w₂ = w₁ := by simpa [failureSystem, hcall] using he
          obtain ⟨hc, hmeets'⟩ := hmeets ⟨ret, w₂, hcall, hret⟩
          have hsame : w₂.events ge = some ev := by
            rw [(atomic_iff hev hcall).mpr hc ret hcall hret, hev]
          obtain ⟨_, _, _, hcall', -, hpollers, -⟩ := op.exists_call hev c
          obtain ⟨-, rfl⟩ : _ = ret ∧ _ = w₂ := by simpa [hcall'] using hcall
          rw [ih ⟨ev, hsame⟩ hrest (hmeets' _ he), op.requests_eq hsame, op.requests_eq hev,
            hpollers]

/-- **When failures are atomic.**  Along every sequence of calls on any event, with an
`epoll_ctl` that fails at will: each call that fails leaves the event as it was,
exactly when every call returns at once, or its request succeeds, or it is a start
without bits on an event whose `data.ptr` is set.  A retry after attempts that
failed so issues the request of the first attempt. -/
theorem interest_atomic_iff {w : World} {ge : EventPtr} {ev : GtEvent} (h : w.events ge = some ev)
    (ops : List (InterestOp × Option Errno)) :
    ((attemptSystem ge).Always (Atomic ge) w ops ↔
      (attemptSystem ge).Meets (FailsCleanly ge) w ops) ∧
    ∀ (op : InterestOp) (ctls : List (Option Errno)) (w' : World) (ctl ctl' : Option Errno),
      (failureSystem ge).Run w (ctls.map fun c => (op, c)) w' →
      (failureSystem ge).Meets (FailsCleanly ge) w (ctls.map fun c => (op, c)) →
      op.requests ctl ge w' = op.requests ctl' ge w := by
  refine ⟨?_, fun op ctls w' ctl ctl' hrun hmeets =>
    requests_after_failures ⟨ev, h⟩ hrun hmeets ctl ctl'⟩
  refine GuardedSystem.always_iff_meets (I := fun w => ∃ ev, w.events ge = some ev) ?_ ?_ ops w
    ⟨ev, h⟩
  · rintro w c ⟨ev, hev⟩ _ hc
    obtain ⟨ret, w', ev', hcall, hev', -⟩ := c.1.exists_call hev c.2
    exact ⟨w', by simp [attemptSystem, hcall], (atomic_iff hev hcall).mpr hc, ev', hev'⟩
  · rintro w c w' ⟨ev, hev⟩ _ hc hexec hq
    obtain ⟨ret, w₁, ev', hcall, -⟩ := c.1.exists_call hev c.2
    obtain rfl : w₁ = w' := by simpa [attemptSystem, hcall] using hexec
    exact hc ((atomic_iff hev hcall).mp hq)

/-- A start whose `epoll_ctl` succeeds, a start of no bits whose `epoll_ctl` fails with
`ENOMEM`, and a start of the first bit again. -/
theorem interest_atomic_in :
    (attemptSystem 1).Always (Atomic 1) coreEventReady
      [(.start epollin, none), (.start 0, some enomem), (.start epollin, some enomem)] := by
  have hev : coreEventReady.events 1 = some ⟨4, ⟨none, none⟩, ⟨0, none⟩, .core⟩ := rfl
  refine ((interest_atomic_iff hev _).1).mpr ?_
  intro _
  refine ⟨?_, ?_⟩
  · intro ev hev
    cases hev
    exact .inr (.inl rfl)
  · intro w₁ h₁ _
    cases h₁
    refine ⟨?_, ?_⟩
    · intro ev hev
      cases hev
      exact .inr (.inr ⟨rfl, rfl⟩)
    · intro w₂ h₂ _
      cases h₂
      refine ⟨?_, fun _ _ => trivial⟩
      intro ev hev
      cases hev
      exact .inl (by decide)

/-- The first start fails with `ENOMEM` and leaves the bit in the mask, although the
descriptor is not in the set; the retry returns `GT_OK` without a request. -/
theorem failed_start_blocks_retry :
    ∃ w₁ w₂, (InterestOp.start epollin).call (some enomem) 1 coreEventReady = some (-1, w₁) ∧
      coreEventReady.mask 1 = 0 ∧ w₁.mask 1 = epollin ∧
      w₁.events 1 ≠ coreEventReady.events 1 ∧
      (InterestOp.start epollin).requests none 1 coreEventReady =
        [(3, .add, 4, ⟨epollin, some 1⟩)] ∧
      (InterestOp.start epollin).call none 1 w₁ = some (gtOk, w₂) ∧
      (InterestOp.start epollin).requests none 1 w₁ = [] ∧ w₂.kernel.sets 3 4 = none :=
  ⟨_, _, rfl, by decide, by decide, by decide, by decide, rfl, by decide, rfl⟩

end GuitarTea
