import GuitarTea.ElistWrites
import GuitarTea.Handover

/-!
# The memory of the server

The threads allocate and free events and open and close descriptors without a lock.
In every state of every run the next command of every thread finds what it uses: it
writes no event that was freed and frees none twice, follows no null pointer and no
poison, and uses and closes only descriptors that are open.

A safe access is the thread's own.  If another thread could take the event away, it
could do so right now, and the access would not be safe any more; so no two threads
are about to touch the same event.  The exception is the last look of a datanet
thread at an event whose handler failed.

## Main definitions

* `Ghost.without`, `Shared.without` — an event that somebody else has taken away.
* `allocates`, `frees`, `opens`, `closes` — the entries of the ledger.

## Main results

* `server_intact` — every access of every thread is to something that is there.
* `event_race_free` — no two threads are about to touch one event.
* `ledger_balanced` — what was allocated is what was freed and what is left.
-/

namespace GuitarTea.Threads

/-! ## Every access -/

section Intact

variable {gl : Globals} {c c' : Config} {ops : List (Thread × Reply)}

/-- **Memory and descriptor safety.**  In every state of every run, whatever a thread is
about to do is done to memory that is there and to descriptors that are open. -/
theorem server_intact (h : Booted gl c) (hrun : threadSystem.system.Run c ops c') {t : Thread}
    {cmd : Cmd} (hnext : (c'.code t).next = some cmd) : Intact t cmd c'.shared :=
  ((sound_of_booted h hrun).check hnext).intact

/-- A connection on descriptor 12 is handed over, and its `read` fails: its event is about to
be freed, if the datanet thread then takes 22 more steps. -/
def failedReadSchedule (i : Fin 4) (n : ℕ) : List (Thread × Reply) :=
  startSchedule ++ datanetSchedule i 8 ++ connectSchedule 12 (some 3) ++ alone .network 21 ++
    alone (.datanet i) 3 ++ [(.datanet i, { ready := [⟨12, epollin, some 3⟩] })] ++
    alone (.datanet i) 4 ++ [(.datanet i, { read := ⟨.error 5, 5, 0⟩ })] ++ alone (.datanet i) n

/-- The event of a connection that failed, right before it is freed. -/
theorem server_intact_free : ∃ c, threadSystem.system.Run bootConfig (failedReadSchedule 0 22) c ∧
    (c.code (.datanet 0)).next = some (.free 3) ∧ Intact (.datanet 0) (.free 3) c.shared := by
  refine GuardedSystem.exists_run_of_execAll
    (fun c => (c.code (.datanet 0)).next = some (.free 3)) (by decide +kernel) ?_
  intro c hrun hnext
  exact ⟨hnext, server_intact booted_bootConfig hrun hnext⟩

end Intact

/-! ## Races -/

/-- Nobody owns the event any more. -/
def Ghost.without (g : Ghost) (ge : EventPtr) : Ghost :=
  { g with
    ev := Function.update g.ev ge none
    fd := fun fd => match g.fd fd with
      | some (.handed p ge') => if ge' = ge then none else some (.handed p ge')
      | y => y }

/-- The event is freed, and no registration leads to it. -/
def Shared.without (s : Shared) (ge : EventPtr) : Shared :=
  { s with
    events := Function.update s.events ge none
    nodes := Function.update s.nodes (.node ge) none
    kernel := { s.kernel with
      sets := fun e fd => match s.kernel.sets e fd with
        | some reg => if reg.data = some ge then none else some reg
        | none => none } }

section Without

variable {g : Ghost} {s : Shared} {ge : EventPtr}

theorem fd_without_eq_some {fd : ℤ} {y : FdState} :
    (g.without ge).fd fd = some y ↔ g.fd fd = some y ∧ ∀ p, y ≠ .handed p ge := by
  cases hfd : g.fd fd with
  | none => simp [Ghost.without, hfd]
  | some z =>
      cases z with
      | fresh u =>
          simp only [Ghost.without, hfd, Option.some.injEq, iff_self_and]
          rintro rfl p
          nofun
      | handed p ge' =>
          by_cases hge : ge' = ge
          · subst hge
            simp only [Ghost.without, hfd, if_pos, Option.some.injEq, reduceCtorEq, false_iff]
            rintro ⟨rfl, hne⟩
            exact hne p rfl
          · simp only [Ghost.without, hfd, if_neg hge, Option.some.injEq, iff_self_and]
            rintro rfl q heq
            exact hge (FdState.handed.inj heq).2

theorem sets_without_eq_some {e fd : ℤ} {reg : EpollEvent (Option EventPtr)}
    (h : (s.without ge).kernel.sets e fd = some reg) :
    s.kernel.sets e fd = some reg ∧ reg.data ≠ some ge := by
  cases hset : s.kernel.sets e fd with
  | none => simp [Shared.without, hset] at h
  | some reg' =>
      by_cases hdata : reg'.data = some ge
      · simp [Shared.without, hset, hdata] at h
      · obtain rfl : reg' = reg := by simpa [Shared.without, hset, hdata] using h
        exact ⟨rfl, hdata⟩

/-- Taking an event away keeps the invariant. -/
theorem Inv.without (hinv : Inv g s) (ge : EventPtr) : Inv (g.without ge) (s.without ge) where
  elist p := by simpa [Shared.without] using hinv.elist p
  zero_open := hinv.zero_open
  zero_owner y hy := hinv.zero_owner y (fd_without_eq_some.mp hy).1
  ev_live ge' hge' := by
    by_cases hne : ge' = ge
    · simp [Ghost.without, hne] at hge'
    · simpa [Shared.without, hne] using hinv.ev_live ge' (by simpa [Ghost.without, hne] using hge')
  fd_open fd hfd := by
    obtain ⟨y, hy⟩ := Option.ne_none_iff_exists'.mp hfd
    exact hinv.fd_open fd (by simp [(fd_without_eq_some.mp hy).1])
  epoll_open e p he := by
    obtain ⟨hpos, hopen, hnone⟩ := hinv.epoll_open e p he
    exact ⟨hpos, hopen, by simp [Ghost.without, hnone]⟩
  epolls := hinv.epolls
  epfd := hinv.epfd
  registered e fd reg hset := by
    obtain ⟨hset', hdata⟩ := sets_without_eq_some hset
    obtain ⟨p, ge', he, hfd, hptr, hmask⟩ := hinv.registered e fd reg hset'
    refine ⟨p, ge', he, fd_without_eq_some.mpr ⟨hfd, ?_⟩, hptr, hmask⟩
    rintro q heq
    exact hdata (by rw [hptr, (FdState.handed.inj heq).2])
  handed fd p ge' hfd := by
    obtain ⟨hfd', hother⟩ := fd_without_eq_some.mp hfd
    have hne : ge' ≠ ge := by
      rintro rfl
      exact hother p rfl
    have hold := hinv.handed fd p ge' hfd'
    exact ⟨by simpa [Ghost.without, hne] using hold.ev,
      by simpa [Shared.without, hne] using hold.mem,
      by simpa [Ghost.without, Shared.without, hne] using hold.node⟩

/-- A thread that does not own the event has to expect this. -/
theorem rely_without (hinv : Inv g s) {t : Thread}
    (hnot : ∀ x, g.ev ge = some x → x.owner ≠ t) : Rely t g s (g.without ge) (s.without ge) where
  ev ge' x hx ho := by
    have hne : ge' ≠ ge := by
      rintro rfl
      exact hnot x hx ho
    exact ⟨by simpa [Ghost.without, hne] using hx, by simp [Shared.without, hne],
      by simp [Shared.without, hne]⟩
  fd fd y hy ho := by
    refine ⟨fd_without_eq_some.mpr ⟨hy, ?_⟩, rfl⟩
    rintro p rfl
    exact hnot _ (hinv.handed fd p ge hy).ev ho
  dying := rfl
  epoll _ _ he := he
  accepted _ := rfl

/-- A command that may touch an event only while it is there, touches none that is not. -/
theorem Intact.live {t : Thread} {cmd : Cmd} (h : Intact t cmd s) (ht : cmd.touches = some ge)
    (hlog : cmd = .loadEfd ge → ¬ t.IsDatanet) : s.events ge ≠ none := by
  cases cmd with
  | memset ge' | load ge' | store ge' w | free ge' =>
      obtain rfl : ge' = ge := Option.some.inj ht
      exact h
  | loadEfd ge' =>
      obtain rfl : ge' = ge := Option.some.inj ht
      exact h.resolve_right (hlog rfl)
  | epollCtl epfd op fd ge' =>
      obtain rfl : ge' = ge := Option.some.inj ht
      exact h.1
  | getNext n | getPrev n | setNext n v | setPrev n v =>
      cases n with
      | node ge' =>
          obtain rfl : ge' = ge := Option.some.inj ht
          exact h.1
      | elist p => cases ht
      | null => cases ht
      | listPoison1 => cases ht
      | listPoison2 => cases ht
  | _ => cases ht

/-- **A safe access is the thread's own.** -/
theorem exists_owner {c : Config} (h : discipline.Sound Idle c) : ∃ g : Ghost,
    ∀ (t : Thread) (cmd : Cmd) (ge : EventPtr), (c.code t).next = some cmd →
      cmd.touches = some ge → (cmd = .loadEfd ge → ¬ t.IsDatanet) →
        ∃ x, g.ev ge = some x ∧ x.owner = t := by
  obtain ⟨g, hinv, hcheck⟩ := h.exists_check
  refine ⟨g, ?_⟩
  intro t cmd ge hnext ht hlog
  by_contra hnot
  push Not at hnot
  have hgone := hcheck t cmd _ _ hnext (Inv.without hinv ge) (rely_without hinv hnot)
  exact hgone.intact.live ht hlog (by simp [Shared.without])

end Without

section Races

variable {gl : Globals} {c c' : Config} {ops : List (Thread × Reply)}

/-- **No races on events.**  In every state of every run, if two threads are about to touch
one event, its memory or its list cell, then one of them is a datanet thread that reads
`ge->efd` for the line of the log about a handler that failed. -/
theorem event_race_free (h : Booted gl c) (hrun : threadSystem.system.Run c ops c')
    {t u : Thread} {cmd cmd' : Cmd} {ge : EventPtr} (htu : t ≠ u)
    (hnext : (c'.code t).next = some cmd) (hnext' : (c'.code u).next = some cmd')
    (htouch : cmd.touches = some ge) (htouch' : cmd'.touches = some ge) :
    (t.IsDatanet ∧ cmd = .loadEfd ge) ∨ (u.IsDatanet ∧ cmd' = .loadEfd ge) := by
  by_contra hnot
  push Not at hnot
  obtain ⟨g, howner⟩ := exists_owner (sound_of_booted h hrun)
  obtain ⟨x, hx, ho⟩ := howner t cmd ge hnext htouch fun heq ht => hnot.1 ht heq
  obtain ⟨y, hy, ho'⟩ := howner u cmd' ge hnext' htouch' fun heq hu => hnot.2 hu heq
  obtain rfl : x = y := Option.some.inj (hx.symm.trans hy)
  exact htu (ho.symm.trans ho')

/-- The last look of a datanet thread at an event it has destroyed, while `gt_network_m`
clears the memory for the event of another connection. -/
theorem event_race_free_reused : ∃ c,
    threadSystem.system.Run bootConfig (failedReadSchedule 0 23 ++ connectSchedule 16 (some 3)) c ∧
    ((Thread.datanet 0).IsDatanet ∧ Cmd.loadEfd 3 = .loadEfd 3 ∨
      Thread.network.IsDatanet ∧ Cmd.memset 3 = .loadEfd 3) := by
  refine GuardedSystem.exists_run_of_execAll
    (fun c => (c.code (.datanet 0)).next = some (.loadEfd 3) ∧
      (c.code .network).next = some (.memset 3)) (by decide +kernel) ?_
  intro c hrun hnext
  exact event_race_free booted_bootConfig hrun nofun hnext.1 hnext.2 rfl rfl

end Races

/-! ## The ledger -/

/-- The command returned the memory of this event. -/
def allocates (ge : EventPtr) : (c : Cmd) × c.Val → Bool
  | ⟨.malloc, v⟩ => v == some ge
  | _ => false

/-- The command freed this event. -/
def frees (ge : EventPtr) : (c : Cmd) × c.Val → Bool
  | ⟨.free ge', _⟩ => ge' == ge
  | _ => false

/-- The command opened a file under this descriptor. -/
def opens (fd : ℤ) : (c : Cmd) × c.Val → Bool
  | ⟨.epollCreate, .ok fd'⟩ => fd' == fd
  | ⟨.socket, .ok fd'⟩ => fd' == fd
  | ⟨.accept _, .ok conn⟩ => conn.cfd == fd
  | _ => false

/-- The command closed this descriptor. -/
def closes (fd : ℤ) : (c : Cmd) × c.Val → Bool
  | ⟨.close fd', _⟩ => fd' == fd
  | _ => false

/-- How many events there are at an address: one or none. -/
def liveCount (ge : EventPtr) (s : Shared) : ℕ := if (s.events ge).isSome then 1 else 0

/-- How many files are open under a descriptor: one or none. -/
def openCount (fd : ℤ) (s : Shared) : ℕ := if (s.kernel.files fd).isSome then 1 else 0

section Ledger

variable {s s' : Shared} {a : Reply} {t : Thread} {cmd : Cmd} {v : cmd.Val}

theorem liveCount_congr {ge : EventPtr} (h : s'.events ge = s.events ge) :
    liveCount ge s' = liveCount ge s := by
  simp [liveCount, h]

theorem liveCount_setEvent (ge ge' : EventPtr) (f : EventMem → EventMem) :
    liveCount ge (s.setEvent ge' f) = liveCount ge s := by
  by_cases hge : ge = ge'
  · simp [liveCount, Shared.setEvent, hge]
  · simp [liveCount, Shared.setEvent, hge]

/-- What a command does to the events. -/
theorem liveCount_respond (ge : EventPtr) (hin : Intact t cmd s)
    (hresp : respond cmd a s = some (v, s')) :
    liveCount ge s + (if allocates ge ⟨cmd, v⟩ then 1 else 0) =
      liveCount ge s' + if frees ge ⟨cmd, v⟩ then 1 else 0 := by
  cases cmd with
  | malloc =>
      rcases respond_malloc hresp with ⟨rfl, rfl⟩ | ⟨ge', rfl, hfree, rfl⟩
      · simp [allocates, frees]
      · by_cases hge : ge' = ge
        · subst hge
          simp [allocates, frees, liveCount, hfree]
        · simp [allocates, frees, liveCount, hge, Ne.symm hge]
  | free ge' =>
      obtain ⟨-, rfl⟩ := Prod.mk.inj (Option.some.inj hresp)
      by_cases hge : ge' = ge
      · subst hge
        obtain ⟨ev, hev⟩ := Option.ne_none_iff_exists'.mp hin
        simp [allocates, frees, liveCount, hev]
      · simp [allocates, frees, liveCount, hge, Ne.symm hge]
  | memset ge' =>
      obtain ⟨-, rfl⟩ := Prod.mk.inj (Option.some.inj hresp)
      exact (liveCount_setEvent ge ge' fun _ => .zero).symm
  | store ge' w =>
      obtain ⟨-, rfl⟩ := Prod.mk.inj (Option.some.inj hresp)
      exact (liveCount_setEvent ge ge' w.apply).symm
  | setNext n u | setPrev n u =>
      obtain ⟨-, rfl⟩ := Prod.mk.inj (Option.some.inj hresp)
      rfl
  | _ =>
      have hkeep := (respond_quiet rfl hresp).1
      exact (liveCount_congr (congrFun hkeep ge)).symm

theorem openCount_congr {fd : ℤ} (h : s'.kernel.files fd = s.kernel.files fd) :
    openCount fd s' = openCount fd s := by
  simp [openCount, h]

/-- A file is opened under a number that is free. -/
theorem openCount_open {fd' : ℤ} {file : ℕ} (fd : ℤ) (hfree : s.kernel.files fd' = none)
    (h : s'.kernel.files = Function.update s.kernel.files fd' (some file)) :
    openCount fd s + (if fd' = fd then 1 else 0) = openCount fd s' := by
  by_cases hfd : fd' = fd
  · subst hfd
    simp [openCount, h, hfree]
  · simp [openCount, h, hfd, Ne.symm hfd]

/-- What a command does to the descriptors. -/
theorem openCount_respond (fd : ℤ) (hin : Intact t cmd s)
    (hresp : respond cmd a s = some (v, s')) :
    openCount fd s + (if opens fd ⟨cmd, v⟩ then 1 else 0) =
      openCount fd s' + if closes fd ⟨cmd, v⟩ then 1 else 0 := by
  cases cmd with
  | epollCreate | socket =>
      simp only [respond] at hresp
      split at hresp
      · obtain ⟨rfl, rfl⟩ := Prod.mk.inj (Option.some.inj hresp)
        simp [opens, closes]
      · split at hresp
        · rename_i hfresh
          obtain ⟨rfl, rfl⟩ := Prod.mk.inj (Option.some.inj hresp)
          simpa [opens, closes] using openCount_open fd (freshFd_iff.mp hfresh).2 rfl
        · cases hresp
  | accept lfd =>
      simp only [respond] at hresp
      split at hresp
      · obtain ⟨rfl, rfl⟩ := Prod.mk.inj (Option.some.inj hresp)
        simp [opens, closes]
      · split at hresp
        · rename_i hcond
          obtain ⟨rfl, rfl⟩ := Prod.mk.inj (Option.some.inj hresp)
          have hfree := (freshFd_iff.mp (Bool.and_eq_true_iff.mp hcond).1).2
          simpa [opens, closes] using openCount_open fd hfree (Kernel.files_accept _ _)
        · cases hresp
  | close fd' =>
      obtain ⟨-, rfl⟩ := Prod.mk.inj (Option.some.inj hresp)
      by_cases hfd : fd' = fd
      · subst hfd
        obtain ⟨file, hfile⟩ := Option.ne_none_iff_exists'.mp hin
        simp [opens, closes, openCount, hfile]
      · simp [opens, closes, openCount, hfd, Ne.symm hfd]
  | malloc =>
      rcases respond_malloc hresp with ⟨rfl, rfl⟩ | ⟨ge, rfl, -, rfl⟩
      · rfl
      · rfl
  | loadPoller | deref | call | callWrite =>
      obtain ⟨_, -, hs'⟩ := Option.map_eq_some_iff.mp hresp
      obtain ⟨-, rfl⟩ := Prod.mk.inj hs'
      rfl
  | epollWait epfd maxe =>
      simp only [respond] at hresp
      split at hresp
      · obtain ⟨-, rfl⟩ := Prod.mk.inj (Option.some.inj hresp)
        rfl
      · cases hresp
  | epollCtl epfd op fd' ge =>
      obtain ⟨-, rfl⟩ := Prod.mk.inj (Option.some.inj hresp)
      exact (openCount_congr (congrFun (Kernel.files_epollCtl _ _ _ _ _ _) fd)).symm
  | fault => cases hresp
  | _ =>
      obtain ⟨-, rfl⟩ := Prod.mk.inj (Option.some.inj hresp)
      rfl

end Ledger

section Balance

variable {gl : Globals} {c c' : Config} {ops : List (Thread × Reply)}

/-- **The books balance.**  In every run, at each address, what was allocated is what was
freed and what is live; under each descriptor, what was open and was opened is what was
closed and what is open.  Nothing is freed or closed twice, and what is never freed or
closed is still there. -/
theorem ledger_balanced (h : Booted gl c) (hrun : threadSystem.system.Run c ops c')
    (ge : EventPtr) (fd : ℤ) :
    (threadSystem.trace c ops).countP (allocates ge) =
        liveCount ge c'.shared + (threadSystem.trace c ops).countP (frees ge) ∧
      openCount fd c.shared + (threadSystem.trace c ops).countP (opens fd) =
        openCount fd c'.shared + (threadSystem.trace c ops).countP (closes fd) := by
  have hstep : ∀ c t a c', discipline.Sound Idle c → threadSystem.step c t a = some c' →
      discipline.Sound Idle c' := by
    intro c t a c' hs he
    exact hs.step stable_idle triple_body he
  constructor
  · have hlive := ThreadSystem.add_countP_trace (m := liveCount ge) hstep
      (fun c t cmd a v s' hs hnext hresp => liveCount_respond ge (hs.check hnext).intact hresp)
      hrun h.sound
    simpa [liveCount, h.events_eq] using hlive
  · exact ThreadSystem.add_countP_trace (m := openCount fd) hstep
      (fun c t cmd a v s' hs hnext hresp => openCount_respond fd (hs.check hnext).intact hresp)
      hrun h.sound

/-- The books of the connection whose `read` failed, after its event was freed. -/
theorem ledger_balanced_failedRead : ∃ c,
    threadSystem.system.Run bootConfig (failedReadSchedule 0 23) c ∧ c.shared.events 3 = none ∧
    (threadSystem.trace bootConfig (failedReadSchedule 0 23)).countP (allocates 3) =
        liveCount 3 c.shared +
          (threadSystem.trace bootConfig (failedReadSchedule 0 23)).countP (frees 3) ∧
      openCount 12 bootConfig.shared +
          (threadSystem.trace bootConfig (failedReadSchedule 0 23)).countP (opens 12) =
        openCount 12 c.shared +
          (threadSystem.trace bootConfig (failedReadSchedule 0 23)).countP (closes 12) := by
  refine GuardedSystem.exists_run_of_execAll (fun c => c.shared.events 3 = none)
    (by decide +kernel) ?_
  intro c hrun hgone
  exact ⟨hgone, ledger_balanced booted_bootConfig hrun 3 12⟩

end Balance

end GuitarTea.Threads
