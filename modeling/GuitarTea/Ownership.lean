import GuitarTea.Connections

/-!
# Who owns an accepted descriptor

A descriptor that `accept` returned has to be closed, or belong to an event that a
datanet thread will hear about.  `gt_network_ops_read` closes it when an option
cannot be set.  It does not when `gt_network_round_dispatch` finds no memory for
the event, where it even returns `GT_OK`, nor when `epoll_ctl` fails, where the
event stays behind unregistered.

Descriptors are numbers that are used again, so the statements follow the file a
descriptor named when it was accepted.

## Main definitions

* `RegisteredConn` — the descriptor has one event, and it is registered.
* `AcceptedOwned` — every accepted file is closed once or has such an event.
* `handlerSystem` — calls of the two handlers.
* `DispatchSucceeds` — a connection that gets as far as the dispatch gets an event.
-/

namespace GuitarTea

/-- Exactly one live event has the descriptor, and it is registered for `EPOLLIN` with
its datanet poller. -/
def RegisteredConn (w : World) (fd : ℤ) : Prop :=
  ∃ ge ev i, w.events ge = some ev ∧ ev.efd = fd ∧ ev.gpoller = .datanet i ∧
    w.kernel.sets (w.datanetEpfd i) fd = some ⟨epollin, some ge⟩ ∧
    ∀ ge' ev', w.events ge' = some ev' → ev'.efd = fd → ge' = ge

/-- An accepted file was closed once and its descriptor does not name it any more, or
it is open and its descriptor has a registered event. -/
def Owned (w : World) (fd : ℤ) (file : ℕ) : Prop :=
  (w.kernel.closes file = 1 ∧ w.kernel.files fd ≠ some file) ∨
    (w.kernel.closes file = 0 ∧ w.kernel.files fd = some file ∧ RegisteredConn w fd)

/-- All files that were ever accepted are owned. -/
def AcceptedOwned (w : World) : Prop := ∀ c ∈ w.kernel.accepted, Owned w c.1 c.2

/-- A call of a handler, with the answers to its system calls. -/
inductive HandlerOp
  | accept (a : AcceptAnswers)
  | read (ge : EventPtr) (errno : Errno) (read : Except Errno (List UInt8))
      (ctl ctl' : Option Errno)

/-- Calls of `gt_network_ops_read` on the listening socket and of
`gt_datanet_ops_read` on connections, in any order. -/
def handlerSystem (lge : EventPtr) : GuardedSystem World HandlerOp where
  legal w
    | .accept a => LegalAnswers a w
    | .read ge _ _ _ _ => ∃ ev, w.IsConn ge ev
  exec w
    | .accept a => (gtNetworkOpsRead a lge w).map Prod.snd
    | .read ge errno read ctl ctl' => (gtDatanetOpsRead errno read ctl ctl' ge w).map Prod.snd

/-- `gt_network_ops_read` returns `GT_OK` only if there was no connection, or the
connection is registered. -/
def OkMeansRegistered (lge : EventPtr) (w : World) : HandlerOp → Prop
  | .accept a => ∀ w', gtNetworkOpsRead a lge w = some (gtOk, w') →
      (∃ errnum, a.accept = .error errnum ∧ (eagain = errnum ∨ ewouldblock = errnum)) ∨
        ∃ cfd, a.accept = .ok cfd ∧ RegisteredConn w' cfd
  | .read _ _ _ _ _ => True

/-- The condition on a call: when a connection is accepted and its options are set,
there is memory for its event and `epoll_ctl` succeeds. -/
def DispatchSucceeds (_ : World) : HandlerOp → Prop
  | .accept a => ∀ cfd, a.accept = .ok cfd → a.setsockopt = none → a.setfl = none →
      a.malloc ≠ none ∧ a.ctl = none
  | .read _ _ _ _ _ => True

/-! ## Steps that concern one descriptor -/

/-- The files, events and registrations of all other descriptors are the same. -/
structure OthersSame (fd : ℤ) (w w' : World) : Prop where
  files : ∀ fd', fd' ≠ fd → w'.kernel.files fd' = w.kernel.files fd'
  events : ∀ ge ev, ev.efd ≠ fd → (w'.events ge = some ev ↔ w.events ge = some ev)
  sets : ∀ i fd', fd' ≠ fd →
    w'.kernel.sets (w'.datanetEpfd i) fd' = w.kernel.sets (w.datanetEpfd i) fd'

/-- The registered connections on other descriptors stay registered. -/
theorem RegisteredConn.others {w w' : World} {fd fd' : ℤ} (h : RegisteredConn w fd')
    (hs : OthersSame fd w w') (hne : fd' ≠ fd) : RegisteredConn w' fd' := by
  obtain ⟨ge, ev, i, hev, rfl, hp, hset, huniq⟩ := h
  refine ⟨ge, ev, i, (hs.events ge ev hne).mpr hev, rfl, hp, ?_, ?_⟩
  · rw [hs.sets i _ hne, hset]
  · intro ge' ev' hev' hefd
    exact huniq ge' ev' ((hs.events ge' ev' (hefd ▸ hne)).mp hev') hefd

/-- The state an accepted connection leaves behind: the files accepted before are
owned still if nothing but the new descriptor changed. -/
theorem Owned.others {w w' : World} {fd fd' : ℤ} {file : ℕ} (h : Owned w fd' file)
    (hs : OthersSame fd w w') (hcloses : w'.kernel.closes file = w.kernel.closes file)
    (hfile : w.kernel.files fd ≠ some file) (hfile' : w'.kernel.files fd ≠ some file) :
    Owned w' fd' file := by
  by_cases heq : fd' = fd
  · subst heq
    rcases h with ⟨hone, -⟩ | ⟨-, hopen, -⟩
    · exact .inl ⟨hcloses.trans hone, hfile'⟩
    · exact absurd hopen hfile
  · rw [Owned, hcloses, hs.files fd' heq]
    rcases h with hclosed | ⟨hzero, hopen, hreg⟩
    · exact .inl hclosed
    · exact .inr ⟨hzero, hopen, hreg.others hs heq⟩

/-- Everything that holds between calls when no connection was lost. -/
structure OwnInv (lge : EventPtr) (w : World) : Prop where
  conn : ConnInv lge w
  accepted_lt : ∀ c ∈ w.kernel.accepted, c.2 < w.kernel.nextFile
  owned : AcceptedOwned w

section Steps

variable {lge : EventPtr} {w w' : World}

theorem ConnInv.othersSame_destroyed (h : ConnInv lge w) {ge : EventPtr} {ev : GtEvent}
    (hc : w.IsConn ge ev) (hd : Destroyed ge ev w w') : OthersSame ev.efd w w' where
  files fd' hne := by
    rw [hd.kernel_agrees.files_eq, Kernel.files_close, Function.update_of_ne hne]
  events g e hne := by
    rw [hd.events_eq]
    by_cases hg : g = ge
    · subst hg
      have hother : ev ≠ e := fun heq => hne (congrArg GtEvent.efd heq.symm)
      simp [hc.1, hother]
    · simp [hg]
  sets i fd' hne := by
    rw [hd.kernel_agrees.sets_eq, World.datanetEpfd_congr hd.pollers_eq,
      Kernel.sets_close_of_ne (h.efd_ne_epfd ge ev i hc.1).symm hne]

/-- A connection event that is destroyed: its file is closed once. -/
theorem OwnInv.destroyed (h : OwnInv lge w) {ge : EventPtr} {ev : GtEvent}
    (hc : w.IsConn ge ev) (hd : Destroyed ge ev w w') : OwnInv lge w' := by
  have hs := h.conn.othersSame_destroyed hc hd
  obtain ⟨file₀, hfile₀⟩ := Option.ne_none_iff_exists'.mp (h.conn.efd_open ge ev hc.1)
  have hcloses : w'.kernel.closes = Function.update w.kernel.closes file₀ 1 := by
    rw [hd.kernel_agrees.closes_eq, Kernel.closes_close hfile₀,
      h.conn.kernel.closes_open _ _ hfile₀]
  have hgone : w'.kernel.files ev.efd = none := by
    rw [hd.kernel_agrees.files_eq, Kernel.files_close, Function.update_self]
  have haccepted : w'.kernel.accepted = w.kernel.accepted := by
    rw [hd.kernel_agrees.accepted_eq, Kernel.accepted_close]
  have hnext : w'.kernel.nextFile = w.kernel.nextFile := by
    rw [hd.kernel_agrees.nextFile_eq, Kernel.nextFile_close]
  refine ⟨h.conn.destroyed hc hd, ?_, ?_⟩
  · rw [haccepted, hnext]
    exact h.accepted_lt
  · intro c hmem
    rw [haccepted] at hmem
    have hold := h.owned c hmem
    by_cases hfile : c.2 = file₀
    · rw [← hfile] at hfile₀ hcloses
      have hfd : c.1 = ev.efd := by
        rcases hold with ⟨hone, -⟩ | ⟨-, hopen, -⟩
        · rw [h.conn.kernel.closes_open _ _ hfile₀] at hone
          cases hone
        · exact h.conn.kernel.files_inj _ _ _ hopen hfile₀
      exact .inl ⟨by simp [hcloses], by simp [hfd, hgone]⟩
    · refine hold.others hs (by simp [hcloses, hfile]) ?_ (by simp [hgone])
      rw [hfile₀]
      exact fun heq => hfile (Option.some.inj heq).symm

/-- A call that accepts a connection and leaves it owned. -/
theorem OwnInv.accepted (h : OwnInv lge w) (h' : ConnInv lge w') {cfd : ℤ}
    (hfree : w.kernel.files cfd = none) (hs : OthersSame cfd w w')
    (haccepted : w'.kernel.accepted = w.kernel.accepted ++ [(cfd, w.kernel.nextFile)])
    (hnext : w'.kernel.nextFile = w.kernel.nextFile + 1)
    (hcloses : ∀ file, file < w.kernel.nextFile →
      w'.kernel.closes file = w.kernel.closes file)
    (hfile : ∀ file, file < w.kernel.nextFile → w'.kernel.files cfd ≠ some file)
    (hnew : Owned w' cfd w.kernel.nextFile) : OwnInv lge w' := by
  have hcases : ∀ c ∈ w'.kernel.accepted,
      c ∈ w.kernel.accepted ∨ c = (cfd, w.kernel.nextFile) := by
    intro c hmem
    simpa [haccepted] using hmem
  refine ⟨h', ?_, ?_⟩
  · intro c hmem
    rw [hnext]
    rcases hcases c hmem with hold | rfl
    · exact Nat.lt_succ_of_lt (h.accepted_lt c hold)
    · exact Nat.lt_succ_self _
  · intro c hmem
    rcases hcases c hmem with hold | rfl
    · have hlt := h.accepted_lt c hold
      exact (h.owned c hold).others hs (hcloses _ hlt) (by simp [hfree]) (hfile _ hlt)
    · exact hnew

/-- An option could not be set: the new descriptor is closed again. -/
theorem OwnInv.closed (h : OwnInv lge w) (h' : ConnInv lge w') {cfd : ℤ} {c : LogCall}
    (hfree : w.kernel.files cfd = none)
    (hw' : w' = { w.logs c with kernel := (w.kernel.accept cfd).close cfd }) : OwnInv lge w' := by
  obtain ⟨-, hu⟩ := h.conn.accept hfree
  have hnew : (w.kernel.accept cfd).files cfd = some w.kernel.nextFile := by simp
  have hcloses : w'.kernel.closes = Function.update w.kernel.closes w.kernel.nextFile 1 := by
    rw [hw', Kernel.closes_close hnew, Kernel.closes_accept,
      h.conn.kernel.closes_fresh _ (Nat.le_refl _)]
  have hgone : w'.kernel.files cfd = none := by simp [hw']
  have hs : OthersSame cfd w w' := by
    subst hw'
    refine ⟨?_, fun _ _ _ => Iff.rfl, ?_⟩
    · intro fd' hne
      simp [hne]
    · intro i fd' hne
      exact Kernel.sets_close_of_ne (hu.not_epfd i) hne
  refine h.accepted h' hfree hs (by simp [hw']) (by simp [hw']) ?_ (by simp [hgone]) ?_
  · intro file hlt
    rw [hcloses, Function.update_of_ne (Nat.ne_of_lt hlt)]
  · exact .inl ⟨by simp [hcloses], by simp [hgone]⟩

/-- A dispatched connection is registered exactly when `epoll_ctl` succeeded. -/
theorem ConnInv.registeredConn_iff (h' : ConnInv lge w') {cfd : ℤ} {ge : EventPtr}
    {ctl : Option Errno} (hu : Unclaimed cfd w)
    (hd : Dispatched cfd ge ctl w w') :
    RegisteredConn w' cfd ↔ (dispatchCtl cfd ge ctl w).1 = none := by
  have hepfd := World.datanetEpfd_congr hd.pollers_eq
  constructor
  · rintro ⟨g, ev, i, -, -, -, hset, -⟩
    by_contra hne
    obtain ⟨errnum, herr⟩ := Option.ne_none_iff_exists'.mp hne
    have hsame : w'.kernel.sets = w.kernel.sets := by
      rw [hd.kernel_eq]
      exact Kernel.sets_epollCtl_of_err herr
    rw [hsame, hepfd, hu.not_registered i] at hset
    cases hset
  · intro hok
    have hev : w'.events ge = some (connEvent cfd ge) := by rw [hd.events_eq, Function.update_self]
    refine ⟨ge, connEvent cfd ge, datanetIdx cfd, hev, rfl, rfl, ?_, ?_⟩
    · rw [hd.kernel_eq, hepfd]
      exact Kernel.sets_epollCtl_of_ok (by simp) hok
    · intro g ev hg hefd
      exact h'.efd_inj g ge ev _ hg hev hefd

/-- The new connection is registered. -/
theorem OwnInv.dispatched (h : OwnInv lge w) (h' : ConnInv lge w') {cfd : ℤ} {ge : EventPtr}
    {ctl : Option Errno} (hfree : w.kernel.files cfd = none) (hfresh : w.events ge = none)
    (hd : Dispatched cfd ge ctl { w with kernel := w.kernel.accept cfd } w')
    (hreg : RegisteredConn w' cfd) : OwnInv lge w' := by
  have hsame : Kernel.SameBut cfd (w.kernel.accept cfd) w'.kernel := hd.sameBut
  have hopen : w'.kernel.files cfd = some w.kernel.nextFile := by simp [hsame.files_eq]
  have hs : OthersSame cfd w w' := by
    refine ⟨?_, ?_, ?_⟩
    · intro fd' hne
      simp [hsame.files_eq, hne]
    · intro g e hne
      rw [hd.events_eq]
      by_cases hg : g = ge
      · subst hg
        have hother : connEvent cfd g ≠ e := fun heq => hne (congrArg GtEvent.efd heq.symm)
        simp [hfresh, hother]
      · simp [hg]
    · intro i fd' hne
      rw [hsame.sets_eq _ fd' hne, World.datanetEpfd, hd.pollers_eq]
      rfl
  refine h.accepted h' hfree hs (by simp [hsame.accepted_eq]) (by simp [hsame.nextFile_eq]) ?_ ?_ ?_
  · intro file _
    rw [hsame.closes_eq, Kernel.closes_accept]
  · intro file hlt heq
    rw [hopen] at heq
    exact absurd (Option.some.inj heq) (Nat.ne_of_gt hlt)
  · refine .inr ⟨?_, hopen, hreg⟩
    rw [hsame.closes_eq, Kernel.closes_accept, h.conn.kernel.closes_fresh _ (Nat.le_refl _)]

end Steps

/-- A connection that is open and not registered is not owned. -/
theorem not_acceptedOwned {w : World} (cfd : ℤ) (file : ℕ)
    (hmem : (cfd, file) ∈ w.kernel.accepted) (hopen : w.kernel.files cfd = some file)
    (hreg : ¬ RegisteredConn w cfd) : ¬ AcceptedOwned w := by
  intro h
  rcases h _ hmem with ⟨-, hclosed⟩ | ⟨-, -, hr⟩
  · exact hclosed hopen
  · exact hreg hr

/-- An extra failure of `epoll_ctl` is one. -/
theorem dispatchCtl_fst {cfd : ℤ} {ge : EventPtr} {ctl : Option Errno} {w : World}
    (hu : Unclaimed cfd w) : (dispatchCtl cfd ge ctl w).1 = none ↔ ctl = none := by
  have hset : w.kernel.sets (w.pollers (.datanet (datanetIdx cfd))).epfd cfd = none :=
    hu.not_registered (datanetIdx cfd)
  cases ctl <;> simp [dispatchCtl, Kernel.epollCtl, Kernel.refusal, hset]

/-! ## Calls -/

/-- One call that meets the condition. -/
theorem OwnInv.step {lge : EventPtr} {w : World} {op : HandlerOp} (h : OwnInv lge w)
    (hl : (handlerSystem lge).legal w op) (hc : DispatchSucceeds w op) :
    ∃ w', (handlerSystem lge).exec w op = some w' ∧
      (AcceptedOwned w' ∧ OkMeansRegistered lge w op) ∧ OwnInv lge w' := by
  cases op with
  | read ge errno read ctl ctl' =>
      obtain ⟨ev, hconn⟩ := hl
      obtain ⟨ret, w', hrun, hcases⟩ :=
        h.conn.exists_gtDatanetOpsRead hconn errno read ctl ctl'
      have hinv : OwnInv lge w' := by
        rcases hcases with ⟨-, -, rfl | ⟨c, rfl⟩⟩ | ⟨-, -, hd⟩
        · exact h
        · exact ⟨h.conn.congr rfl rfl rfl rfl, h.accepted_lt, h.owned⟩
        · exact h.destroyed hconn hd
      refine ⟨w', ?_, ⟨hinv.owned, trivial⟩, hinv⟩
      simp only [handlerSystem, hrun, Option.map_some]
  | accept a =>
      obtain ⟨ret, w', hrun, ho⟩ := h.conn.exists_gtNetworkOpsRead a
      have h' := h.conn.outcome hl ho
      have hexec : (handlerSystem lge).exec w (.accept a) = some w' := by
        simp only [handlerSystem, hrun, Option.map_some]
      suffices hs : OwnInv lge w' ∧ (ret = gtOk →
          (∃ errnum, a.accept = .error errnum ∧ (eagain = errnum ∨ ewouldblock = errnum)) ∨
            ∃ cfd, a.accept = .ok cfd ∧ RegisteredConn w' cfd) by
        refine ⟨w', hexec, ⟨hs.1.owned, ?_⟩, hs.1⟩
        intro w'' hrun''
        obtain ⟨rfl, rfl⟩ : ret = gtOk ∧ w' = w'' := by simpa [hrun] using hrun''
        exact hs.2 rfl
      cases ho with
      | none errnum haccept hret hw' =>
          refine ⟨?_, fun hok => .inl ⟨errnum, haccept, hret hok⟩⟩
          rcases hw' with rfl | ⟨c, rfl⟩
          · exact h
          · exact ⟨h', h.accepted_lt, h.owned⟩
      | closed cfd c haccept hopts hret hw' =>
          exact ⟨h.closed h' (hl.accept_free cfd haccept) hw', fun hok => absurd hok hret⟩
      | noMemory cfd log haccept hopts hmalloc hret hw' =>
          exact absurd hmalloc (hc cfd haccept hopts.1 hopts.2).1
      | dispatched cfd ge haccept hopts hmalloc hret hd =>
          have hfree := hl.accept_free cfd haccept
          obtain ⟨-, hu⟩ := h.conn.accept hfree
          have hok : (dispatchCtl cfd ge a.ctl { w with kernel := w.kernel.accept cfd }).1 = none :=
            (dispatchCtl_fst hu).mpr (hc cfd haccept hopts.1 hopts.2).2
          have hreg := (h'.registeredConn_iff hu hd).mpr hok
          exact ⟨h.dispatched h' hfree (hl.malloc_free ge hmalloc) hd hreg,
            fun _ => .inr ⟨cfd, haccept, hreg⟩⟩

/-- One call that misses the condition leaves a descriptor that nobody owns. -/
theorem OwnInv.not_step {lge : EventPtr} {w w' : World} {op : HandlerOp} (h : OwnInv lge w)
    (hl : (handlerSystem lge).legal w op) (hc : ¬ DispatchSucceeds w op)
    (hexec : (handlerSystem lge).exec w op = some w') : ¬ AcceptedOwned w' := by
  cases op with
  | read ge errno read ctl ctl' => exact absurd trivial hc
  | accept a =>
      obtain ⟨ret, w'', hrun, ho⟩ := h.conn.exists_gtNetworkOpsRead a
      obtain rfl : w'' = w' := by simpa [handlerSystem, hrun] using hexec
      have h' := h.conn.outcome hl ho
      cases ho with
      | none errnum haccept hret hw' =>
          refine absurd (fun cfd hcfd => ?_) hc
          rw [haccept] at hcfd
          cases hcfd
      | closed cfd c haccept hopts hret hw' =>
          refine absurd (fun cfd _ hsock hfl => ?_) hc
          rcases hopts with hne | hne
          · exact absurd hsock hne
          · exact absurd hfl hne
      | noMemory cfd log haccept hopts hmalloc hret hw' =>
          obtain ⟨-, hu⟩ := h.conn.accept (hl.accept_free cfd haccept)
          subst hw'
          refine not_acceptedOwned cfd w.kernel.nextFile (by simp) (by simp) ?_
          rintro ⟨ge, ev, i, hev, hefd, -⟩
          exact hu.not_efd ge ev hev hefd
      | dispatched cfd ge haccept hopts hmalloc hret hd =>
          obtain ⟨-, hu⟩ := h.conn.accept (hl.accept_free cfd haccept)
          have hctl : a.ctl ≠ none := by
            intro hnone
            refine hc (fun cfd' _ _ _ => ⟨?_, hnone⟩)
            rw [hmalloc]
            exact Option.some_ne_none ge
          have hsame : Kernel.SameBut cfd (w.kernel.accept cfd) w''.kernel := hd.sameBut
          refine not_acceptedOwned cfd w.kernel.nextFile
            (by simp [hsame.accepted_eq]) (by simp [hsame.files_eq]) ?_
          rw [h'.registeredConn_iff hu hd, dispatchCtl_fst hu]
          exact hctl

/-- **When no accepted descriptor is lost.**  From a server that has accepted nothing
yet, along every run of the handlers, whatever the system calls answer: after every
call each accepted descriptor is closed once or registered, and `GT_OK` is
returned only for no connection or a registered one, exactly when every connection
that gets as far as the dispatch gets memory and a successful `epoll_ctl`. -/
theorem accepted_owned_iff {lge : EventPtr} {w : World} (h : ServerReady lge w)
    (ops : List HandlerOp) :
    (handlerSystem lge).Always
        (fun w op w' => AcceptedOwned w' ∧ OkMeansRegistered lge w op) w ops ↔
      (handlerSystem lge).Meets DispatchSucceeds w ops := by
  have hinv : OwnInv lge w :=
    ⟨h.connInv, by simp [h.none_accepted], by simp [AcceptedOwned, h.none_accepted]⟩
  exact GuardedSystem.always_iff_meets (fun _ _ h hl hc => h.step hl hc)
    (fun _ _ _ h hl hc hrun hq => h.not_step hl hc hrun hq.1) ops w hinv

/-- A connection that is registered, and closed when its peer closes it. -/
theorem accepted_owned_connect12 :
    (handlerSystem 1).Always (fun w op w' => AcceptedOwned w' ∧ OkMeansRegistered 1 w op)
      serverReady [.accept connect12, .read 2 0 (.ok []) none none] := by
  refine (accepted_owned_iff serverReady_ready _).mpr ?_
  intro _
  exact ⟨fun _ _ _ _ => ⟨by simp [connect12], rfl⟩, fun _ _ _ => ⟨trivial, fun _ _ => trivial⟩⟩

/-- Without memory for its event, the connection on descriptor 12 stays open without an
event although `GT_OK` is returned; with an `epoll_ctl` that fails, it has an event
that no poller knows. -/
theorem dispatch_failure_leaks_descriptor :
    (∃ w, LegalAnswers { connect12 with malloc := none } serverReady ∧
      gtNetworkOpsRead { connect12 with malloc := none } 1 serverReady = some (gtOk, w) ∧
      w.kernel.accepted = [(12, 10)] ∧ w.kernel.files 12 = some 10 ∧ w.kernel.closes 10 = 0 ∧
      ¬ RegisteredConn w 12 ∧ ¬ AcceptedOwned w) ∧
    ∃ w, LegalAnswers { connect12 with ctl := some enomem } serverReady ∧
      gtNetworkOpsRead { connect12 with ctl := some enomem } 1 serverReady =
        some (gtError, w) ∧
      w.kernel.accepted = [(12, 10)] ∧ w.kernel.files 12 = some 10 ∧ w.kernel.closes 10 = 0 ∧
      ¬ RegisteredConn w 12 ∧ ¬ AcceptedOwned w := by
  have hlost : ∀ w : World, (∀ i, w.kernel.sets (w.datanetEpfd i) 12 = none) →
      (12, 10) ∈ w.kernel.accepted → w.kernel.files 12 = some 10 →
      ¬ RegisteredConn w 12 ∧ ¬ AcceptedOwned w := by
    intro w hnone hmem hopen
    have hreg : ¬ RegisteredConn w 12 := by
      rintro ⟨ge, ev, i, -, -, -, hset, -⟩
      rw [hnone i] at hset
      cases hset
    exact ⟨hreg, not_acceptedOwned _ _ hmem hopen hreg⟩
  refine ⟨⟨_, ⟨by intro cfd h; cases h; rfl, by intro ge h; cases h⟩, rfl, rfl, rfl, rfl, ?_⟩,
    ⟨_, ⟨by intro cfd h; cases h; rfl, by intro ge h; cases h; rfl⟩, rfl, rfl, rfl, rfl, ?_⟩⟩
  · exact hlost _ (by decide) (by decide) rfl
  · exact hlost _ (by decide) (by decide) rfl

end GuitarTea
