import GuitarTea.SerialView

/-!
# The steps of the threads and of the serial server

What each command that has an effect does to the view.  Most commands leave the serial
server where it is and change what the thread has for itself.  Four make it take a step:
the `close` of a connection that cannot be used, a `malloc` that fails, the `epoll_ctl`
that hands a connection over and the `close` that gives one up; and so does the line of the
log for data.

## Main definitions

* `View.setOwn`, `View.setWorld` — a change of what a thread has, and a step of the server.

## Main results

* `triple_dispatch`, `triple_close_conn`, `triple_malloc`, `triple_close_own`,
  `triple_log_data` — the commands with which the serial server moves.
-/

namespace GuitarTea.Threads

/-! ## What a thread has for itself -/

/-- The thread has another event, or is changing another registration. -/
def View.setOwn (v : View) (t : Thread) (e : Option (EventPtr × EventMem)) (r : Option ℤ) : View :=
  { v with event := Function.update v.event t e, reg := Function.update v.reg t r }

section Own

variable {lge : EventPtr} {t u : Thread} {rest : List ReadyEvent} {l : Local} {v : View}
  {s s' : Shared} {e : Option (EventPtr × EventMem)} {r : Option ℤ}

theorem View.kernel_setOwn : (v.setOwn t e r).kernel = v.kernel := rfl

/-- The other threads do not notice. -/
theorem Kept.setOwn (hu : u ≠ t) : Kept u v (v.setOwn t e r) where
  event := by simp [View.setOwn, hu]
  reg := by simp [View.setOwn, hu]
  read := rfl
  conn _ := rfl
  live _ _ h _ := h
  own _ _ _ := rfl

theorem At.setOwn (h : At t rest l v) {held : Option GtEvent}
    (hheld : ∀ ge x, e = some (ge, x) → v.world.events ge = held) :
    At t rest ⟨e, held, r, l.conn, l.read⟩ (v.setOwn t e r) where
  nodup := h.nodup
  batch := h.batch
  event := by simp [View.setOwn]
  held := hheld
  reg := by simp [View.setOwn]
  conn := h.conn
  read := h.read

/-- **A change of what a thread has for itself.**  Memory holds what the thread has now,
and where it lets an event go, what the serial server has. -/
theorem Sim.setOwn (h : Sim lge v s) (hpollers : s'.pollers = s.pollers)
    (hkernel : s'.kernel = s.kernel) (hr : v.reg t = none ∨ r = v.reg t)
    (hnew : ∀ ge x, e = some (ge, x) → s'.events ge = some x ∧
      (∀ u, u ≠ t → ∀ y, v.event u ≠ some (ge, y)) ∧
      ∀ ev, v.world.events ge = some ev → ev.gpoller = t.poller)
    (hdrop : ∀ ge x, v.event t = some (ge, x) → (∀ y, e ≠ some (ge, y)) →
      s'.events ge = (v.world.events ge).map .of)
    (hsame : ∀ ge, (∀ x, e ≠ some (ge, x)) → (∀ x, v.event t ≠ some (ge, x)) →
      s'.events ge = s.events ge)
    (hreg : ∀ fd, r = some fd →
      ∃ ge x ev, e = some (ge, x) ∧ v.world.events ge = some ev ∧ ev.efd = fd) :
    Sim lge (v.setOwn t e r) s' where
  serves := h.serves
  pollers := hpollers.trans h.pollers
  files := by
    rw [View.kernel_setOwn, hkernel]
    exact h.files
  conn_free := h.conn_free
  sets e' fd hfd := by
    rw [hkernel]
    refine h.sets e' fd fun u hu => ?_
    by_cases hut : u = t
    · subst hut
      have heq : r = v.reg u := hr.resolve_left (by simp [hu])
      exact hfd u (by simp [View.setOwn, heq, hu])
    · exact hfd u (by simp [View.setOwn, hut, hu])
  events ge hge := by
    have hnot : ∀ x, e ≠ some (ge, x) := fun x => by simpa [View.setOwn] using hge t x
    by_cases hhad : ∃ x, v.event t = some (ge, x)
    · obtain ⟨x, hx⟩ := hhad
      exact hdrop ge x hx hnot
    · have hhad' : ∀ x, v.event t ≠ some (ge, x) := fun x hx => hhad ⟨x, hx⟩
      rw [hsame ge hnot hhad']
      refine h.events ge fun u x => ?_
      by_cases hut : u = t
      · exact hut ▸ hhad' x
      · simpa [View.setOwn, hut] using hge u x
  mem u ge x hu := by
    by_cases hut : u = t
    · subst hut
      exact (hnew ge x (by simpa [View.setOwn] using hu)).1
    · have hu' : v.event u = some (ge, x) := by simpa [View.setOwn, hut] using hu
      rw [hsame ge (fun y hy => (hnew ge y hy).2.1 u hut x hu')
        (fun y hy => hut (h.inj u t ge x y hu' hy))]
      exact h.mem u ge x hu'
  inj u u' ge x y hu hu' := by
    by_cases hut : u = t <;> by_cases hut' : u' = t
    · rw [hut, hut']
    · subst hut
      have hnew' := (hnew ge x (by simpa [View.setOwn] using hu)).2.1 u' hut' y
      exact absurd (by simpa [View.setOwn, hut'] using hu') hnew'
    · subst hut'
      have hnew' := (hnew ge y (by simpa [View.setOwn] using hu')).2.1 u hut x
      exact absurd (by simpa [View.setOwn, hut] using hu) hnew'
    · simp only [View.setOwn, Function.update_of_ne hut] at hu
      simp only [View.setOwn, Function.update_of_ne hut'] at hu'
      exact h.inj u u' ge x y hu hu'
  owner u ge x ev hu hev := by
    by_cases hut : u = t
    · subst hut
      exact (hnew ge x (by simpa [View.setOwn] using hu)).2.2 ev hev
    · exact h.owner u ge x ev (by simpa [View.setOwn, hut] using hu) hev
  reg u fd hu := by
    by_cases hut : u = t
    · subst hut
      obtain ⟨ge, x, ev, he, hrest⟩ := hreg fd (by simpa [View.setOwn] using hu)
      exact ⟨ge, x, ev, by simpa [View.setOwn] using he, hrest⟩
    · obtain ⟨ge, x, ev, he, hrest⟩ := h.reg u fd (by simpa [View.setOwn, hut] using hu)
      exact ⟨ge, x, ev, by simpa [View.setOwn, hut] using he, hrest⟩

end Own

/-! ## The serial server moves -/

/-- The serial server has moved on, and a connection may be waiting for it. -/
def View.setWorld (v : View) (w : World) (conn : Option Accepted) : View :=
  { v with world := w, conn := conn }

section World

variable {lge : EventPtr} {t u : Thread} {rest : List ReadyEvent} {l : Local} {v : View}
  {s s' : Shared} {w : World} {conn : Option Accepted}

theorem Kept.setWorld (hu : u = .network → conn = v.conn)
    (hevents : w.events = v.world.events) : Kept u v (v.setWorld w conn) where
  event := rfl
  reg := rfl
  read := rfl
  conn := hu
  live ge ev h _ := by simpa [View.setWorld, hevents] using h
  own ge x _ := by simp [View.setWorld, hevents]

theorem At.setWorld (h : At t rest l v) (hevents : w.events = v.world.events) :
    At t rest { l with conn := conn } (v.setWorld w conn) where
  nodup := h.nodup
  batch r hr := by simpa [View.setWorld, hevents] using h.batch r hr
  event := h.event
  held ge x hx := by simpa [View.setWorld, hevents] using h.held ge x hx
  reg := h.reg
  conn _ := rfl
  read := h.read

/-- The serial server has the same events as before, and the same descriptors as the kernel
when the waiting connection is added. -/
theorem Sim.setWorld (h : Sim lge v s) (hserves : Serves lge w)
    (hpollers : w.pollers = v.world.pollers) (hevents : w.events = v.world.events)
    (hspollers : s'.pollers = s.pollers) (hsevents : s'.events = s.events)
    (hfiles : Kernel.SameFiles (v.setWorld w conn).kernel s'.kernel)
    (hfree : ∀ c, conn = some c → 0 ≤ c.cfd ∧ w.kernel.files c.cfd = none)
    (hsets : ∀ e fd, s.kernel.sets e fd = v.world.kernel.sets e fd →
      s'.kernel.sets e fd = w.kernel.sets e fd) : Sim lge (v.setWorld w conn) s' where
  serves := hserves
  pollers := hspollers.trans (h.pollers.trans hpollers.symm)
  files := hfiles
  conn_free := hfree
  sets e fd hfd := by
    refine hsets e fd (h.sets e fd fun u hu => ?_)
    simpa [View.setWorld, hpollers] using hfd u hu
  events ge hge := by
    rw [hsevents]
    simpa [View.setWorld, hevents] using h.events ge hge
  mem u ge x hu := by
    rw [hsevents]
    exact h.mem u ge x hu
  inj := h.inj
  owner u ge x ev hu hev := h.owner u ge x ev hu (by simpa [View.setWorld, hevents] using hev)
  reg u fd hu := by simpa [View.setWorld, hevents] using h.reg u fd hu

end World

/-! ## What is read and not yet logged -/

section Read

variable {lge : EventPtr} {t : Thread} {rest : List ReadyEvent} {l : Local} {v : View} {s : Shared}

theorem Sim.setRead (h : Sim lge v s) (r : Option (ℤ × List UInt8)) : Sim lge (v.setRead t r) s :=
  ⟨h.serves, h.pollers, h.files, h.conn_free, h.sets, h.events, h.mem, h.inj, h.owner, h.reg⟩

theorem Kept.setRead {u : Thread} (hu : u ≠ t) (r : Option (ℤ × List UInt8)) :
    Kept u v (v.setRead t r) :=
  ⟨rfl, rfl, by simp [View.setRead, hu], fun _ => rfl, fun _ _ h _ => h, fun _ _ _ => rfl⟩

theorem At.setRead (h : At t rest l v) (r : Option (ℤ × List UInt8)) :
    At t rest { l with read := r } (v.setRead t r) :=
  ⟨h.nodup, h.batch, h.event, h.held, h.reg, h.conn, by simp [View.setRead]⟩

end Read

/-! ## The memory of an event -/

namespace Serial

section Memory

variable {lge : EventPtr} {w₀ : World} {t : Thread} {rest : List ReadyEvent} {c : Cmd}
  {ge : EventPtr} {x x' : EventMem} {held : Option GtEvent} {reg : Option ℤ}
  {conn : Option Accepted}

/-- A command that writes to the thread's own event. -/
theorem triple_write (hc : isSilent c = true)
    (hresp : ∀ a s y s', s.events ge = some x → respond c a s = some (y, s') →
      s'.events = Function.update s.events ge (some x') ∧ s'.pollers = s.pollers ∧
        s'.kernel = s.kernel) :
    (serial lge w₀).Triple t (fun v _ => At t rest ⟨some (ge, x), held, reg, conn, none⟩ v)
      (perform c) fun _ v _ => At t rest ⟨some (ge, x'), held, reg, conn, none⟩ v := by
  refine triple_step hc rfl (fun _ => rfl) ?_
  intro v s past a y s' hsim hran hat hstep
  obtain ⟨hevents, hpollers, hkernel⟩ := hresp a s y s' (hsim.mem t ge x hat.event) hstep
  have hev : v.event t = some (ge, x) := hat.event
  refine ⟨v.setOwn t (some (ge, x')) reg, ?_, hran.silent hc y,
    fun u hu => .setOwn hu, hat.setOwn ?_⟩
  · refine hsim.setOwn hpollers hkernel (.inr hat.reg.symm) ?_ ?_ ?_ ?_
    · intro ge' y' he
      cases he
      exact ⟨by simp [hevents], fun u hu z hz => hu (hsim.inj u t ge z x hz hev),
        fun ev => hsim.owner t ge x ev hev⟩
    · intro ge' y' he hne
      obtain ⟨rfl, -⟩ : ge = ge' ∧ x = y' := by simpa [hev] using he
      exact absurd rfl (hne x')
    · intro ge' hne _
      have hne' : ge' ≠ ge := by
        rintro rfl
        exact hne x' rfl
      rw [hevents, Function.update_of_ne hne']
    · intro fd hfd
      obtain ⟨ge', y', ev, he, hrest⟩ := hsim.reg t fd (hat.reg.trans hfd)
      obtain ⟨rfl, -⟩ : ge = ge' ∧ x = y' := by simpa [hev] using he
      exact ⟨ge, x', ev, rfl, hrest⟩
  · intro ge' y' he
    cases he
    exact hat.held ge x rfl

/-- An assignment to a member of the thread's own event. -/
theorem triple_store (w : EventWrite) :
    (serial lge w₀).Triple t (fun v _ => At t rest ⟨some (ge, x), held, reg, conn, none⟩ v)
      (perform (.store ge w))
      fun _ v _ => At t rest ⟨some (ge, w.apply x), held, reg, conn, none⟩ v := by
  refine triple_write rfl ?_
  intro a s y s' hx hresp
  cases hresp
  exact ⟨by simp [Shared.setEvent, hx], rfl, rfl⟩

theorem triple_memset :
    (serial lge w₀).Triple t (fun v _ => At t rest ⟨some (ge, x), held, reg, conn, none⟩ v)
      (perform (.memset ge))
      fun _ v _ => At t rest ⟨some (ge, .zero), held, reg, conn, none⟩ v := by
  refine triple_write rfl ?_
  intro a s y s' hx hresp
  cases hresp
  exact ⟨by simp [Shared.setEvent, Shared.setNode, hx], rfl, rfl⟩

/-- The memory of an event that is gone for the serial server is given back. -/
theorem triple_free :
    (serial lge w₀).Triple t (fun v _ => At t rest ⟨some (ge, x), none, none, conn, none⟩ v)
      (perform (.free ge)) fun _ v _ => At t rest ⟨none, none, none, conn, none⟩ v := by
  refine triple_step rfl rfl (fun _ => rfl) ?_
  intro v s past a y s' hsim hran hat hresp
  cases hresp
  have hev : v.event t = some (ge, x) := hat.event
  refine ⟨v.setOwn t none none, ?_, hran.silent rfl _, fun u hu => .setOwn hu,
    hat.setOwn (by simp)⟩
  refine hsim.setOwn rfl rfl (.inl hat.reg) (by simp) ?_ ?_ (by simp)
  · intro ge' y' he _
    obtain ⟨rfl, -⟩ : ge = ge' ∧ x = y' := by simpa [hev] using he
    simp [hat.held ge x rfl]
  · intro ge' _ hne
    have hne' : ge' ≠ ge := by
      rintro rfl
      exact hne x hev
    simp [hne']

/-- A thread takes the event of the next entry of its batch for itself. -/
theorem triple_take {r : ReadyEvent} {m : LogCall} (hm : isData m = false)
    (hptr : r.ptr = some ge) :
    (serial lge w₀).Triple t (fun v _ => At t (r :: rest) ⟨none, none, none, conn, none⟩ v)
      (perform (.log m)) fun _ v _ => ∃ ev : GtEvent, (ev.efd = r.fd ∧ ev.gpoller = t.poller) ∧
        At t rest ⟨some (ge, .of ev), some ev, some ev.efd, conn, none⟩ v := by
  have hsilent : isSilent (.log m) = true := by simp [isSilent, hm]
  refine triple_perform hsilent rfl
    (fun _ v v' hown hk => hown.imp fun ev hev => ⟨hev.1, hev.2.kept hk⟩)
    (fun _ v hown => hown.elim fun ev hev => hev.2.read) ?_
  intro v s past a y s' hsim hran hat hresp
  cases hresp
  obtain ⟨ev, hev, hp, hfd, hfree, hmem⟩ := hat.entry hsim rfl List.mem_cons_self hptr
  have hnone : v.event t = none := hat.event
  refine ⟨v.setOwn t (some (ge, .of ev)) (some ev.efd), ?_,
    hran.silent hsilent _, fun u hu => .setOwn hu, ev, ⟨hfd, hp⟩,
    hat.tail.setOwn fun ge' x he => by cases he; exact hev⟩
  refine hsim.setOwn rfl rfl (.inl hat.reg) ?_ ?_ (fun _ _ _ => rfl) ?_
  · intro ge' x he
    cases he
    refine ⟨hmem, fun u _ => hfree u, fun ev' hev' => ?_⟩
    obtain rfl : ev = ev' := Option.some.inj (hev.symm.trans hev')
    exact hp
  · intro ge' x he
    simp [hnone] at he
  · intro fd he
    cases he
    exact ⟨ge, .of ev, ev, rfl, hev, rfl⟩

end Memory

/-! ## Connections -/

section Accept

variable {lge : EventPtr} {w₀ : World} {rest : List ReadyEvent}

/-- A connection that only `gt_network_m` knows. -/
theorem triple_accept (fd : ℤ) :
    (serial lge w₀).Triple .network (fun v _ => At .network rest {} v) (perform (.accept fd))
      fun (y : Except Errno Accepted) v _ => At .network rest { conn := y.toOption } v := by
  refine triple_step (c := .accept fd) (R := fun y : Except Errno Accepted =>
    { conn := y.toOption }) rfl rfl (fun _ => rfl) ?_
  intro v s past a y s' hsim hran hat hresp
  have hnone : v.conn = none := hat.conn rfl
  have hkernel : v.kernel = v.world.kernel := View.kernel_of_none hnone
  simp only [respond] at hresp
  split at hresp
  · cases hresp
    exact ⟨v, hsim, hran.silent rfl _, fun u _ => .refl u v, hat⟩
  · split at hresp
    · rename_i hfresh
      cases hresp
      have hfree : 0 ≤ a.fd ∧ v.world.kernel.files a.fd = none := by
        simp only [freshFd, Bool.and_eq_true, decide_eq_true_eq, Option.isNone_iff_eq_none]
          at hfresh
        rw [← hkernel, ← hsim.files.files_eq]
        exact hfresh.1
      refine ⟨v.setWorld v.world (some ⟨a.fd, a.sAddr, a.sinPort⟩), ?_, hran.silent rfl _,
        fun u hu => .setWorld (fun h => absurd h hu) rfl, hat.setWorld rfl⟩
      refine hsim.setWorld hsim.serves rfl rfl rfl rfl ?_ ?_ fun e fd he => he
      · exact (hkernel ▸ hsim.files).accept a.fd
      · rintro conn h
        cases h
        exact hfree
    · cases hresp

variable {conn : Accepted}

/-- The answers of the serial server's call for a connection. -/
def answers (conn : Accepted) (setsockopt setfl : Option Errno) (malloc : Option EventPtr)
    (ctl : Option Errno) : AcceptAnswers :=
  ⟨.ok conn.cfd, conn.sAddr, conn.sinPort, setsockopt, setfl, malloc, ctl⟩

/-- The serial server's call for a connection that waits. -/
theorem exists_accepted {v : View} {s : Shared} (hsim : Sim lge v s) (h : v.conn = some conn)
    (setsockopt setfl : Option Errno) (malloc : Option EventPtr)
    (hmalloc : ∀ ge, malloc = some ge → v.world.events ge = none) (ctl : Option Errno) :
    ∃ ret w,
      (handlerSystem lge).legal v.world (.accept (answers conn setsockopt setfl malloc ctl)) ∧
      (handlerSystem lge).exec v.world (.accept (answers conn setsockopt setfl malloc ctl)) =
        some w ∧
      AcceptOutcome (answers conn setsockopt setfl malloc ctl) v.world ret w ∧ Serves lge w := by
  have hlegal : LegalAnswers (answers conn setsockopt setfl malloc ctl) v.world := by
    refine ⟨fun cfd hcfd => ?_, hmalloc⟩
    cases hcfd
    exact (hsim.conn_free conn h).2
  have hnonneg : ∀ cfd, (answers conn setsockopt setfl malloc ctl).accept = .ok cfd → 0 ≤ cfd := by
    rintro cfd ⟨⟩
    exact (hsim.conn_free conn h).1
  obtain ⟨ret, w, hrun, ho⟩ :=
    hsim.serves.conn.exists_gtNetworkOpsRead (answers conn setsockopt setfl malloc ctl)
  exact ⟨ret, w, hlegal, by simp [handlerSystem, hrun], ho,
    hsim.serves.outcome hlegal hnonneg ho⟩

/-- **A connection that cannot be used is closed.** -/
theorem triple_close_conn {setsockopt setfl : Option Errno}
    (hopts : setsockopt ≠ none ∨ setfl ≠ none) :
    (serial lge w₀).Triple .network (fun v _ => At .network rest { conn := some conn } v)
      (perform (.close conn.cfd)) fun _ v _ => At .network rest {} v := by
  refine triple_step rfl rfl (fun _ => rfl) ?_
  intro v s past a y s' hsim hran hat hresp
  cases hresp
  have hconn : v.conn = some conn := hat.conn rfl
  obtain ⟨ret, w, hlegal, hexec, ho, hserves⟩ :=
    exists_accepted hsim hconn setsockopt setfl none (by simp) none
  have hfiles := View.kernel_of_conn hconn ▸ hsim.files
  cases ho with
  | none _ haccept => cases haccept
  | noMemory _ _ _ hopts' => exact absurd hopts' (by simpa [answers, imp_iff_not_or] using hopts)
  | dispatched _ _ _ _ hmalloc => cases hmalloc
  | closed cfd c haccept _ _ hw =>
      cases haccept
      subst hw
      have hran' := hran.commit _ hlegal hexec rfl (fun _ _ _ => .rfl)
        (filter_logCalls_silent (c := .close conn.cfd) rfl ())
      refine ⟨v.setWorld _ none, ?_, hran', fun u hu => .setWorld (fun h => absurd h hu) rfl,
        hat.setWorld rfl⟩
      refine hsim.setWorld hserves rfl rfl rfl rfl (hfiles.close _) (by simp) ?_
      intro e fd he
      have hopen : s.kernel.files conn.cfd ≠ none := by simp [hfiles.files_eq]
      change (s.kernel.close conn.cfd).sets e fd =
        ((v.world.kernel.accept conn.cfd).close conn.cfd).sets e fd
      rw [Kernel.sets_close hopen, Kernel.sets_close (by simp), he]
      rfl

/-- **There may be no memory for the event**: the serial server leaves the connection open
and forgets it. -/
theorem triple_malloc :
    (serial lge w₀).Triple .network (fun v _ => At .network rest { conn := some conn } v)
      (perform .malloc) fun (y : Option EventPtr) v _ => match y with
        | none => At .network rest {} v
        | some ge => ∃ x, At .network rest ⟨some (ge, x), none, none, some conn, none⟩ v := by
  refine triple_perform (c := .malloc) (R := fun (y : Option EventPtr) v => match y with
    | none => At .network rest {} v
    | some ge => ∃ x, At .network rest ⟨some (ge, x), none, none, some conn, none⟩ v)
    rfl rfl ?_ ?_ ?_
  · intro y v v' hy hk
    cases y with
    | none => exact hy.kept hk
    | some ge =>
        obtain ⟨x, hx⟩ := hy
        exact ⟨x, hx.kept hk⟩
  · intro y v hy
    cases y with
    | none => exact hy.read
    | some ge =>
        obtain ⟨x, hx⟩ := hy
        exact hx.read
  intro v s past a y s' hsim hran hat hresp
  have hconn : v.conn = some conn := hat.conn rfl
  have hfiles := View.kernel_of_conn hconn ▸ hsim.files
  simp only [respond] at hresp
  split at hresp
  · cases hresp
    obtain ⟨ret, w, hlegal, hexec, ho, hserves⟩ :=
      exists_accepted hsim hconn none none none (by simp) none
    cases ho with
    | none _ haccept => cases haccept
    | closed _ _ _ hopts => exact absurd hopts (by simp [answers])
    | dispatched _ _ _ _ hmalloc => cases hmalloc
    | noMemory cfd log haccept _ _ _ hw =>
        cases haccept
        subst hw
        have hran' := hran.commit _ hlegal hexec rfl (fun _ _ _ => .rfl)
          (filter_logCalls_silent (c := .malloc) rfl none)
        refine ⟨v.setWorld _ none, ?_, hran', fun u hu => .setWorld (fun h => absurd h hu) rfl,
          hat.setWorld rfl⟩
        exact hsim.setWorld hserves rfl rfl rfl rfl hfiles (by simp) fun e fd he => he
  · rename_i ge _
    split at hresp
    · rename_i hfresh
      cases hresp
      have hnone : v.event .network = none := hat.event
      have hnobody : ∀ u x, v.event u ≠ some (ge, x) := by
        intro u x hu
        simp [hsim.mem u ge x hu] at hfresh
      have hworld : v.world.events ge = none := by
        have hevents := hsim.events ge hnobody
        rw [hfresh] at hevents
        exact Option.map_eq_none_iff.mp hevents.symm
      refine ⟨v.setOwn .network (some (ge, a.mem)) none, ?_, hran.silent rfl _,
        fun u hu => .setOwn hu, a.mem, hat.setOwn fun ge' x he => by cases he; exact hworld⟩
      refine hsim.setOwn rfl rfl (.inl hat.reg) ?_ ?_ ?_ (by simp)
      · intro ge' x he
        cases he
        exact ⟨by simp, fun u _ => hnobody u, by simp [hworld]⟩
      · intro ge' x he
        simp [hnone] at he
      · intro ge' hne _
        have hne' : ge' ≠ ge := by
          rintro rfl
          exact hne a.mem rfl
        simp [hne']
    · cases hresp

/-- The view after a connection was handed over. -/
theorem sim_dispatched {v : View} {s : Shared} {ge : EventPtr} {fail : Option Errno} {w : World}
    (hsim : Sim lge v s) (hconn : v.conn = some conn)
    (hevent : v.event .network = some (ge, .of (connEvent conn.cfd ge)))
    (hnone : v.reg .network = none) (hworld : v.world.events ge = none) (hserves : Serves lge w)
    (hd : Dispatched conn.cfd ge fail
      { v.world with kernel := v.world.kernel.accept conn.cfd } w) :
    Sim lge ((v.setOwn .network none none).setWorld w none)
      { s with kernel := (s.kernel.epollCtl fail
        (v.world.pollers (.datanet (datanetIdx conn.cfd))).epfd .add conn.cfd
        ⟨epollin, some ge⟩).2 } := by
  have hfiles := View.kernel_of_conn hconn ▸ hsim.files
  have hpollers : w.pollers = v.world.pollers := hd.pollers_eq
  have hold : ∀ {u ge' y}, Function.update v.event .network none u = some (ge', y) →
      u ≠ .network ∧ v.event u = some (ge', y) := by
    intro u ge' y hu
    by_cases hnet : u = .network
    · simp [hnet] at hu
    · exact ⟨hnet, by simpa [hnet] using hu⟩
  have hother : ∀ {u ge' y}, u ≠ .network → v.event u = some (ge', y) →
      w.events ge' = v.world.events ge' := by
    intro u ge' y hu hy
    simp [hd.events_eq, hsim.event_ne hevent hy hu]
  refine ⟨hserves, hsim.pollers.trans hpollers.symm, ?_, by simp [View.setWorld], ?_, ?_, ?_,
    ?_, ?_, ?_⟩
  · exact hd.sameBut.sameFiles.symm.trans
      (hfiles.trans (Kernel.sameBut_epollCtl _ _ _ _ _ _).sameFiles)
  · intro e fd hfd
    have hsets : s.kernel.sets e fd = (v.world.kernel.accept conn.cfd).sets e fd := by
      refine hsim.sets e fd fun u hu => ?_
      have hnet : u ≠ .network := by
        rintro rfl
        simp [hnone] at hu
      rw [← hpollers]
      exact hfd u (by simpa [View.setWorld, View.setOwn, hnet] using hu)
    change _ = w.kernel.sets e fd
    rw [hd.kernel_eq, dispatchCtl]
    by_cases hcfd : fd = conn.cfd
    · by_cases hepfd : e = (v.world.pollers (.datanet (datanetIdx conn.cfd))).epfd
      · subst hcfd hepfd
        exact (Kernel.epollCtl_congr hsets).2
      · rw [Kernel.sets_epollCtl_of_epfd_ne hepfd, Kernel.sets_epollCtl_of_epfd_ne hepfd]
        exact hsets
    · rw [Kernel.sets_epollCtl_of_ne _ _ _ _ _ _ hcfd, Kernel.sets_epollCtl_of_ne _ _ _ _ _ _ hcfd]
      exact hsets
  · intro ge' hge
    by_cases hge' : ge' = ge
    · subst hge'
      simpa [View.setWorld, hd.events_eq] using hsim.mem .network ge' _ hevent
    · have hnobody : ∀ u x, v.event u ≠ some (ge', x) := by
        intro u x hu
        by_cases hnet : u = .network
        · subst hnet
          simp [hevent, Ne.symm hge'] at hu
        · exact hge u x (by simpa [View.setWorld, View.setOwn, hnet] using hu)
      simpa [View.setWorld, hd.events_eq, hge'] using hsim.events ge' hnobody
  · intro u ge' x hu
    exact hsim.mem u ge' x (hold hu).2
  · intro u u' ge' x y hu hu'
    exact hsim.inj u u' ge' x y (hold hu).2 (hold hu').2
  · intro u ge' x ev hu hev
    obtain ⟨hnet, hu⟩ := hold hu
    exact hsim.owner u ge' x ev hu ((hother hnet hu).symm.trans hev)
  · intro u fd hu
    have hnet : u ≠ .network := by
      rintro rfl
      simp [View.setWorld, View.setOwn] at hu
    obtain ⟨ge', x, ev, hx, hev, hefd⟩ :=
      hsim.reg u fd (by simpa [View.setWorld, View.setOwn, hnet] using hu)
    exact ⟨ge', x, ev, by simpa [View.setWorld, View.setOwn, hnet] using hx,
      (hother hnet hx).trans hev, hefd⟩

/-- The events of the core poller are not those of connections that are handed over. -/
theorem core_dispatched {w w' : World} {cfd : ℤ} {ge : EventPtr} {ctl : Option Errno}
    (hfresh : w.events ge = none)
    (hd : Dispatched cfd ge ctl { w with kernel := w.kernel.accept cfd } w') (ge' : EventPtr)
    (ev : GtEvent) (hp : ev.gpoller = .core) :
    w'.events ge' = some ev ↔ w.events ge' = some ev := by
  rw [hd.events_eq]
  by_cases hge : ge' = ge
  · subst hge
    have hne : connEvent cfd ge' ≠ ev := by
      rintro rfl
      simp [connEvent] at hp
    simp [hfresh, hne]
  · simp [hge]

/-- **A connection is handed over.**  From here on its datanet thread may serve it, and
the serial server has done the whole call. -/
theorem triple_dispatch {ge : EventPtr} {x : EventMem}
    (hx : x = .of (connEvent conn.cfd ge)) :
    (serial lge w₀).Triple .network
      (fun v _ => At .network rest ⟨some (ge, x), none, none, some conn, none⟩ v)
      (perform (.epollCtl (w₀.pollers (.datanet (datanetIdx conn.cfd))).epfd .add conn.cfd ge))
      fun _ v _ => At .network rest {} v := by
  subst hx
  refine triple_step rfl rfl (fun _ => rfl) ?_
  intro v s past a y s' hsim hran hat hresp
  have hconn : v.conn = some conn := hat.conn rfl
  have hevent : v.event .network = some (ge, .of (connEvent conn.cfd ge)) := hat.event
  have hworld : v.world.events ge = none := hat.held ge _ rfl
  simp only [respond, hsim.mem _ ge _ hevent, Option.getD_some, ← hran.pollers] at hresp
  generalize hfail : ctlFailure a _ conn.cfd s = fail at hresp
  cases hresp
  obtain ⟨ret, w, hlegal, hexec, ho, hserves⟩ := exists_accepted hsim hconn none none (some ge)
    (fun ge' he => by cases he; exact hworld) fail
  cases ho with
  | none _ haccept => cases haccept
  | closed _ _ _ hopts => exact absurd hopts (by simp [answers])
  | noMemory _ _ _ _ hmalloc => cases hmalloc
  | dispatched cfd ge' haccept _ hmalloc _ hd =>
      cases haccept
      cases hmalloc
      refine ⟨_, sim_dispatched hsim hconn hevent hat.reg hworld hserves hd,
        hran.commit _ hlegal hexec hd.pollers_eq (core_dispatched hworld hd)
          (filter_logCalls_silent rfl _), ?_, ?_⟩
      · intro u hu
        refine ⟨by simp [View.setWorld, View.setOwn, hu], by simp [View.setWorld, View.setOwn, hu],
          rfl, fun h => absurd h hu, ?_, ?_⟩
        · intro ge' ev hev _
          have hne : ge' ≠ ge := by
            rintro rfl
            simp [hworld] at hev
          simpa [View.setWorld, hd.events_eq, hne] using hev
        · intro ge' y hy
          simp [View.setWorld, hd.events_eq, hsim.event_ne hevent hy hu]
      · refine ⟨hat.nodup, ?_, by simp [View.setWorld, View.setOwn], by simp,
          by simp [View.setWorld, View.setOwn], fun _ => rfl, hat.read⟩
        intro r hr
        obtain ⟨ge', ev, hptr, hev, hrest⟩ := hat.batch r hr
        have hne : ge' ≠ ge := by
          rintro rfl
          simp [hworld] at hev
        exact ⟨ge', ev, hptr, by simpa [View.setWorld, hd.events_eq, hne] using hev, hrest⟩

end Accept

/-! ## Data and the end of a connection -/

section Datanet

variable {lge : EventPtr} {w₀ : World} {t : Thread} {rest : List ReadyEvent} {ge : EventPtr}
  {x : EventMem} {ev : GtEvent} {r : ReadyEvent} {errno : Errno}
  {read : Except Errno (List UInt8)}

/-- A thread changes the registration of its own event, in the set of its own poller. -/
theorem triple_epollCtl {l : Local} {fd : ℤ} (hl : l.reg = some fd) (hr : l.read = none)
    (op : EpollOp) :
    (serial lge w₀).Triple t (fun v _ => At t rest l v)
      (perform (.epollCtl (w₀.pollers t.poller).epfd op fd ge)) fun _ v _ => At t rest l v := by
  refine triple_step rfl hr (fun _ => hr) ?_
  intro v s past a y s' hsim hran hat hresp
  simp only [respond] at hresp
  generalize ctlFailure a _ fd s = fail at hresp
  generalize ((s.events ge).getD a.mem).e = e at hresp
  cases hresp
  have hframe := Kernel.sameBut_epollCtl s.kernel fail (w₀.pollers t.poller).epfd op fd e
  refine ⟨v, ⟨hsim.serves, hsim.pollers, hsim.files.trans hframe.sameFiles, hsim.conn_free, ?_,
    hsim.events, hsim.mem, hsim.inj, hsim.owner, hsim.reg⟩, hran.silent rfl _,
    fun u _ => .refl u v, hat⟩
  intro e' fd' hfd'
  change (s.kernel.epollCtl fail (w₀.pollers t.poller).epfd op fd e).2.sets e' fd' = _
  by_cases hfd : fd' = fd
  · subst hfd
    have hne := (hfd' t (hat.reg.trans hl)).symm
    rw [hran.pollers] at hne
    rw [Kernel.sets_epollCtl_of_epfd_ne hne]
    exact hsim.sets e' fd' hfd'
  · rw [Kernel.sets_epollCtl_of_ne _ _ _ _ _ _ hfd]
    exact hsim.sets e' fd' hfd'

/-- What a datanet thread serves is a connection. -/
theorem not_onCore_entry {v : View} {s : Shared} {past : List Executed} (ht : t.IsDatanet)
    (hran : Ran lge w₀ v.world past) (hsim : Sim lge v s) (hev : v.world.events ge = some ev)
    (hp : ev.gpoller = t.poller) (hfd : ev.efd = r.fd) : ¬ OnCore w₀ r.fd := by
  obtain ⟨i, rfl⟩ := ht
  rw [← hfd]
  exact not_onCore hran hsim.serves hev (by simp [hp, Thread.poller])

/-- **A thread reads a connection.**  The serial server has not read it yet. -/
theorem triple_read (ht : t.IsDatanet) (hptr : r.ptr = some ge) (count : ℕ) :
    (serial lge w₀).Triple t (fun v _ => At t (r :: rest) {} v) (perform (.read r.fd count))
      fun (y : ReadResult count) v _ => At t (r :: rest) { read := y.heard r.fd } v := by
  refine triple_command (c := .read r.fd count) (R := fun (y : ReadResult count) v =>
    At t (r :: rest) { read := y.heard r.fd } v) (fun _ _ _ hat hk => hat.kept hk) ?_
  intro v s past a y s' hsim hran hstreams hat hresp
  cases hresp
  obtain ⟨ev, hev, hp, hfd, -, -⟩ := hat.entry hsim rfl List.mem_cons_self hptr
  have hcore := not_onCore_entry ht hran hsim hev hp hfd
  have hran' : Ran lge w₀ v.world (past ++ [⟨.read r.fd count, a.read.upTo count⟩]) := by
    refine ⟨hran.pollers, hran.core, ?_⟩
    simpa [logCalls] using hran.run
  refine ⟨v.setRead t ((a.read.upTo count).heard r.fd), hsim.setRead _, hran', ?_,
    fun u hu => .setRead hu _, hat.setRead _⟩
  exact hstreams.read hat.read (fun u hu => hstreams.read_ne hsim.serves hev hp hfd hu) hcore
    ⟨ge, ev, hev, hp, hfd⟩ (a.read.upTo count)

/-- **The main thread reads its pipe.** -/
theorem triple_read_main (hptr : r.ptr = some ge) (count : ℕ) :
    (serial lge w₀).Triple .main (fun v _ => At .main (r :: rest) {} v)
      (perform (.read r.fd count)) fun _ v _ => At .main (r :: rest) {} v := by
  refine triple_command (c := .read r.fd count) (R := fun _ v => At .main (r :: rest) {} v)
    (fun _ _ _ hat hk => hat.kept hk) ?_
  intro v s past a y s' hsim hran hstreams hat hresp
  cases hresp
  obtain ⟨ev, hev, hp, hfd, -, -⟩ := hat.entry hsim rfl List.mem_cons_self hptr
  have hcore : OnCore w₀ r.fd := ⟨ge, ev, (hran.core ge ev hp).mp hev, hp, hfd⟩
  have hran' : Ran lge w₀ v.world (past ++ [⟨.read r.fd count, a.read.upTo count⟩]) := by
    refine ⟨hran.pollers, hran.core, ?_⟩
    simpa [logCalls] using hran.run
  have hnobody : ∀ u data, v.read u ≠ some (r.fd, data) := by
    intro u data
    by_cases hu : u = .main
    · rw [hu, hat.read]
      simp
    · exact hstreams.read_ne hsim.serves hev hp hfd hu data
  exact ⟨v, hsim, hran', hstreams.read_core hcore hnobody (a.read.upTo count),
    fun u _ => .refl u v, hat⟩

/-- **Data.**  The serial server reads at the moment when the thread logs what it has read. -/
theorem triple_log_data (ht : t.IsDatanet) {data : List UInt8} (hdata : data ≠ [])
    (hlen : data.length ≤ sizeofBuf - 1) (hptr : r.ptr = some ge) :
    (serial lge w₀).Triple t (fun v _ => At t (r :: rest) { read := some (r.fd, data) } v)
      (perform (.log (chunkLog r.fd (upToNul data)))) fun _ v _ => At t rest {} v := by
  refine triple_command (R := fun _ v => At t rest {} v) (fun _ _ _ hat hk => hat.kept hk) ?_
  intro v s past a y s' hsim hran hstreams hat hresp
  cases hresp
  obtain ⟨ev, hev, hp, hfd, -, -⟩ := hat.entry hsim rfl List.mem_cons_self hptr
  have hread : v.read t = some (r.fd, data) := hat.read
  have hother := fun u hu => hstreams.read_ne hsim.serves hev hp hfd (u := u) hu
  have hwhole : data.take (sizeofBuf - 1) = data := List.take_of_length_le hlen
  have hrun : GuitarTea.gtDatanetOpsRead 0 (.ok data) none none ge v.world =
      some ((data.length : ℤ), v.world.logs (chunkLog ev.efd (upToNul data))) := by
    rw [gtDatanetOpsRead_data hev none none hdata, hwhole]
    rfl
  have hserves : Serves lge (v.world.logs (chunkLog ev.efd (upToNul data))) :=
    hsim.serves.congr rfl rfl rfl rfl
  let v' := v.setWorld (v.world.logs (chunkLog ev.efd (upToNul data))) v.conn
  have hkept : ∀ u, Kept u v v' := fun u => .setWorld (fun _ => rfl) rfl
  have hsim' : Sim lge v' s :=
    hsim.setWorld hserves rfl rfl rfl rfl hsim.files hsim.conn_free fun e fd he => he
  have hlegal : (handlerSystem lge).legal v.world (.read ge 0 (.ok data) none none) := by
    obtain ⟨i, rfl⟩ := ht
    exact ⟨ev, hev, i, hp⟩
  refine ⟨v'.setRead t none, hsim'.setRead none, ?_, ?_,
    fun u hu => (hkept u).trans (.setRead hu none), (hat.tail.kept (hkept t)).setRead none⟩
  · refine hran.commit (.read ge 0 (.ok data) none none) hlegal ?_ rfl (fun _ _ _ => .rfl) ?_
    · simp [handlerSystem, hrun, v', View.setWorld, View.setRead]
    · simp [logCalls, dataLine, hdata, hwhole, hev, hfd, isData, chunkLog, gtInfoLog]
  · have hlog := hstreams.log hread (not_onCore_entry ht hran hsim hev hp hfd)
      (hfd ▸ hsim.serves.efd_nonneg ge ev hev) hother
    exact ⟨hlog.logged, hlog.pending, hlog.live, hlog.conn, hlog.nonneg⟩

/-- The view after a connection was given up. -/
theorem sim_destroyed {v : View} {s : Shared} {w : World} {epolls : ℤ → Bool}
    (hsim : Sim lge v s) (hevent : v.event t = some (ge, x)) (hreg : v.reg t = some ev.efd)
    (hconn : v.world.IsConn ge ev) (hserves : Serves lge w) (hd : Destroyed ge ev v.world w) :
    Sim lge ((v.setOwn t (some (ge, x)) none).setWorld w v.conn)
      { s with kernel := s.kernel.close ev.efd, epolls := epolls } := by
  have hold : ∀ {u}, (v.setOwn t (some (ge, x)) none).event u = v.event u := by
    intro u
    by_cases hut : u = t
    · simp [View.setOwn, hut, hevent]
    · simp [View.setOwn, hut]
  have hopen := hsim.serves.conn.efd_open ge ev hconn.1
  have hne : ∀ conn, v.conn = some conn → ev.efd ≠ conn.cfd := by
    rintro conn hc heq
    exact hopen (heq ▸ (hsim.conn_free conn hc).2)
  have hfiles : Kernel.SameFiles (v.kernel.close ev.efd) (s.kernel.close ev.efd) :=
    hsim.files.close ev.efd
  have hsopen : s.kernel.files ev.efd ≠ none := by
    rw [hsim.files.files_eq, View.kernel]
    split
    · exact hopen
    · rename_i conn hc
      simpa [hne conn hc] using hopen
  have hsub : ∀ {g e}, w.events g = some e → v.world.events g = some e := by
    intro g e hg
    rw [hd.events_eq] at hg
    by_cases heq : g = ge
    · simp [heq] at hg
    · simpa [heq] using hg
  refine ⟨hserves, hsim.pollers.trans hd.pollers_eq.symm, ?_, ?_, ?_, ?_, ?_, ?_, ?_, ?_⟩
  · cases hc : v.conn with
    | none =>
        rw [View.kernel_of_none hc] at hfiles
        exact hd.kernel_agrees.sameFiles.symm.trans hfiles
    | some conn =>
        rw [View.kernel_of_conn hc] at hfiles
        have hclose := (hd.kernel_agrees.sameFiles.accept conn.cfd).symm.trans
          (Kernel.sameFiles_accept_close _ (hne conn hc)).symm
        exact hclose.trans hfiles
  · intro conn hc
    change 0 ≤ conn.cfd ∧ w.kernel.files conn.cfd = none
    rw [hd.kernel_agrees.files_eq, Kernel.files_close, Function.update_of_ne (hne conn hc).symm]
    exact hsim.conn_free conn hc
  · intro e fd hfd
    change (s.kernel.close ev.efd).sets e fd = w.kernel.sets e fd
    rw [hd.kernel_agrees.sets_eq, Kernel.sets_close hsopen, Kernel.sets_close hopen]
    split
    · rfl
    · rename_i hother
      refine hsim.sets e fd fun u hu => ?_
      have hut : u ≠ t := by
        rintro rfl
        exact hother (.inr (Option.some.inj (hu.symm.trans hreg)))
      rw [← hd.pollers_eq]
      exact hfd u (by simpa [View.setWorld, View.setOwn, hut] using hu)
  · intro g hg
    have hnobody : ∀ u y, v.event u ≠ some (g, y) := fun u y hu => hg u y (hold.trans hu)
    have hgne : g ≠ ge := by
      rintro rfl
      exact hnobody t x hevent
    simpa [View.setWorld, hd.events_eq, hgne] using hsim.events g hnobody
  · intro u g y hu
    exact hsim.mem u g y (hold.symm.trans hu)
  · intro u u' g y z hu hu'
    exact hsim.inj u u' g y z (hold.symm.trans hu) (hold.symm.trans hu')
  · intro u g y e hu he
    exact hsim.owner u g y e (hold.symm.trans hu) (hsub he)
  · intro u fd hu
    have hut : u ≠ t := by
      rintro rfl
      simp [View.setWorld, View.setOwn] at hu
    obtain ⟨g, y, e, hy, he, hefd⟩ :=
      hsim.reg u fd (by simpa [View.setWorld, View.setOwn, hut] using hu)
    refine ⟨g, y, e, hold.trans hy, ?_, hefd⟩
    simpa [View.setWorld, hd.events_eq, hsim.event_ne hevent hy hut] using he

/-- The events of the core poller are not those of connections that are given up. -/
theorem core_destroyed {w w' : World} (hconn : w.IsConn ge ev) (hd : Destroyed ge ev w w')
    (ge' : EventPtr) (ev' : GtEvent) (hp : ev'.gpoller = .core) :
    w'.events ge' = some ev' ↔ w.events ge' = some ev' := by
  rw [hd.events_eq]
  by_cases hge : ge' = ge
  · subst hge
    have hne : ev ≠ ev' := by
      rintro rfl
      obtain ⟨-, i, hi⟩ := hconn
      simp [hp] at hi
    simp [hconn.1, hne]
  · simp [hge]

/-- **A connection is given up.**  The descriptor is free for everyone now, and the serial
server has done the whole call; the memory of the event is still the thread's. -/
theorem triple_close_own (ht : t.IsDatanet) (hdrops : Drops errno read)
    (hp : ev.gpoller = t.poller) (hrest : ev.efd ∉ rest.map ReadyEvent.fd) :
    (serial lge w₀).Triple t
      (fun v _ => At t rest ⟨some (ge, x), some ev, some ev.efd, none, none⟩ v)
      (perform (.close ev.efd))
      fun _ v _ => At t rest ⟨some (ge, x), none, none, none, none⟩ v := by
  refine triple_step rfl rfl (fun _ => rfl) ?_
  intro v s past a y s' hsim hran hat hresp
  cases hresp
  have hevent : v.event t = some (ge, x) := hat.event
  have hev : v.world.events ge = some ev := hat.held ge x rfl
  obtain ⟨i, rfl⟩ := ht
  have hconn : v.world.IsConn ge ev := ⟨hev, i, hp⟩
  obtain ⟨ret, w, hrun, hcases⟩ :=
    hsim.serves.conn.exists_gtDatanetOpsRead hconn errno read none none
  obtain ⟨-, -, hd⟩ := hcases.resolve_left fun h => h.1 hdrops
  have hserves := hsim.serves.destroyed hconn hd
  have hnodata : dataLine v.world (.read ge errno read none none) = none := by
    cases read with
    | error errnum => rfl
    | ok buf => simp [dataLine, hdrops.1]
  refine ⟨_, sim_destroyed hsim hevent hat.reg hconn hserves hd, ?_, ?_, ?_⟩
  · refine hran.commit (.read ge errno read none none) ⟨ev, hconn⟩ ?_ hd.pollers_eq
      (core_destroyed hconn hd) ?_
    · simp [handlerSystem, hrun, View.setWorld]
    · rw [hnodata]
      exact filter_logCalls_silent rfl _
  · intro u hu
    refine ⟨by simp [View.setWorld, View.setOwn, hu], by simp [View.setWorld, View.setOwn, hu],
      rfl, fun _ => rfl, ?_, ?_⟩
    · intro g e hg hgp
      have hne : g ≠ ge := by
        rintro rfl
        obtain rfl : e = ev := Option.some.inj (hg.symm.trans hev)
        exact hu (Thread.poller_inj (hgp.symm.trans hp))
      simpa [View.setWorld, hd.events_eq, hne] using hg
    · intro g z hz
      simp [View.setWorld, hd.events_eq, hsim.event_ne hevent hz hu]
  · refine ⟨hat.nodup, ?_, by simp [View.setWorld, View.setOwn], ?_,
      by simp [View.setWorld, View.setOwn], by simp, hat.read⟩
    · intro r hr
      obtain ⟨g, e, hptr, hg, hgp, hefd⟩ := hat.batch r hr
      have hne : g ≠ ge := by
        rintro rfl
        obtain rfl : e = ev := Option.some.inj (hg.symm.trans hev)
        exact hrest (hefd ▸ List.mem_map_of_mem hr)
      exact ⟨g, e, hptr, by simpa [View.setWorld, hd.events_eq, hne] using hg, hgp, hefd⟩
    · intro g z hz
      cases hz
      simp [View.setWorld, hd.events_eq]

/-- **`epoll_wait`.**  The serial server has every event that is reported. -/
theorem triple_epollWait (maxe : ℤ) :
    (serial lge w₀).Triple t (fun v _ => At t [] {} v)
      (perform (.epollWait (w₀.pollers t.poller).epfd maxe))
      fun (ee : List ReadyEvent) v _ => At t ee {} v := by
  refine triple_perform (c := .epollWait (w₀.pollers t.poller).epfd maxe)
    (R := fun (ee : List ReadyEvent) v => At t ee {} v) rfl rfl (fun _ _ _ hat hk => hat.kept hk)
    (fun _ _ hat => hat.read) ?_
  intro v s past a y s' hsim hran hat hresp
  simp only [respond] at hresp
  split at hresp
  · rename_i hrep
    cases hresp
    refine ⟨v, hsim, hran.silent rfl _, fun u _ => .refl u v, hrep.nodup, ?_, hat.event,
      by simp, hat.reg, hat.conn, hat.read⟩
    intro r hr
    obtain ⟨reg, hset, hptr, -⟩ := hrep.entries r hr
    have hworld : v.world.kernel.sets (v.world.pollers t.poller).epfd r.fd = some reg := by
      rw [hran.pollers, ← hsim.sets _ r.fd]
      · exact hset
      · intro u hu
        have hut : u ≠ t := by
          rintro rfl
          simp [show v.reg u = none from hat.reg] at hu
        rw [← hran.pollers]
        exact fun heq => hut (Thread.poller_inj (hsim.serves.epfd_inj _ _ heq))
    obtain ⟨ge, ev, hdata, hev, hfd, hp⟩ := hsim.serves.registered t.poller r.fd reg hworld
    exact ⟨ge, ev, hptr.trans hdata, hev, hp, hfd⟩
  · cases hresp

end Datanet

end Serial

end GuitarTea.Threads
