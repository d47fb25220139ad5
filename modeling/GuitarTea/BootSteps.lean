import GuitarTea.ThreadOwnership

/-!
# Threads before the first connection

Until a connection comes, two kinds of threads change what they share: the main thread sets
up the core poller and the network poller with an event on each, and every datanet thread
sets up its own poller.  What has been set up is written down beside the shared state, and
the invariant says that there is nothing else: no other event and no other registration.

## Main definitions

* `NoConnection` — a step that accepts no connection.
* `Booting.Setup`, `Booting.Inv`, `Booting.Rely` — what is set up, the invariant, and
  interference.
* `Booting.discipline` — the discipline of the threads before the first connection.
* `Booting.At` — what a thread knows.
-/

namespace GuitarTea.Threads

/-- A call of `accept`. -/
def Cmd.isAccept : Cmd → Bool
  | .accept _ => true
  | _ => false

/-- No connection is accepted. -/
def NoConnection (c : Config) (op : Thread × Reply) : Prop :=
  (c.code op.1).next.any Cmd.isAccept = true → op.2.err ≠ none

instance (c : Config) (op : Thread × Reply) : Decidable (NoConnection c op) :=
  inferInstanceAs (Decidable (_ → _))

namespace Booting

/-- The value and the effect of a command, when no connection is accepted. -/
def respond (c : Cmd) (a : Reply) (s : Shared) : Option (c.Val × Shared) :=
  if c.isAccept = true ∧ a.err = none then none else Threads.respond c a s

theorem of_respond {c : Cmd} {a : Reply} {s s' : Shared} {v : c.Val}
    (h : respond c a s = some (v, s')) : Threads.respond c a s = some (v, s') := by
  rw [respond] at h
  split at h
  · cases h
  · exact h

/-- A call of `accept` fails. -/
theorem respond_accept {fd : ℤ} {a : Reply} {s s' : Shared} {v : Except Errno Accepted}
    (h : respond (.accept fd) a s = some (v, s')) : ∃ errnum, v = .error errnum ∧ s' = s := by
  cases herr : a.err with
  | none => simp [respond, Cmd.isAccept, herr] at h
  | some errnum =>
      have hresp := of_respond h
      simp only [Threads.respond, herr, Option.some.injEq, Prod.mk.injEq] at hresp
      exact ⟨errnum, hresp.1.symm, hresp.2.symm⟩

/-! ## What is set up -/

/-- The thread that initialises a poller. -/
def starter : PollerId → Thread
  | .core | .network => .main
  | .datanet i => .datanet i

/-- What has been set up: the epoll descriptor of a poller, the event that is registered with
it and the descriptor of that event, and the event that the main thread is making. -/
structure Setup where
  epfd : PollerId → Option ℤ
  event : PollerId → Option (EventPtr × ℤ)
  fresh : Option (EventPtr × EventMem)

/-- An event of a poller that was started for `EPOLLIN`. -/
def started (p : PollerId) (fd : ℤ) (ge : EventPtr) : EventMem :=
  ⟨fd, ⟨some (readFn p), none⟩, ⟨epollin, some ge⟩, some p⟩

/-- **The invariant.**  The events and the registrations are those that have been set up. -/
structure Inv (g : Setup) (s : Shared) : Prop where
  kernel : s.kernel.WF
  zero_open : s.kernel.files 0 ≠ none
  epfd : ∀ p e, g.epfd p = some e → 0 < e ∧ s.kernel.files e ≠ none ∧ s.epolls e = true
  epfd_inj : ∀ p q e, g.epfd p = some e → g.epfd q = some e → p = q
  poller : ∀ p, (s.pollers p).epfd ≤ 0 ∨ g.epfd p = some (s.pollers p).epfd
  event : ∀ ge x, s.events ge = some x ↔
    g.fresh = some (ge, x) ∨ ∃ p fd, g.event p = some (ge, fd) ∧ x = started p fd ge
  fresh : ∀ ge x p fd, g.fresh = some (ge, x) → g.event p ≠ some (ge, fd)
  efd : ∀ p ge fd, g.event p = some (ge, fd) →
    0 ≤ fd ∧ s.kernel.files fd ≠ none ∧ s.epolls fd = false
  efd_inj : ∀ p q ge ge' fd, g.event p = some (ge, fd) → g.event q = some (ge', fd) → p = q
  sets : ∀ e fd reg, s.kernel.sets e fd = some reg ↔
    ∃ p ge, g.epfd p = some e ∧ g.event p = some (ge, fd) ∧ reg = ⟨epollin, some ge⟩
  epolls : ∀ e, s.epolls e = true → ∃ p, g.epfd p = some e
  created : ∀ p x, g.event p = some x → g.epfd p ≠ none
  datanet : ∀ i, g.event (.datanet i) = none

/-- What a thread relies on: nobody else writes to its pollers, what was set up stays, and
the events are made by the main thread alone. -/
structure Rely (u : Thread) (g : Setup) (s : Shared) (g' : Setup) (s' : Shared) : Prop where
  epfd : ∀ p e, g.epfd p = some e → g'.epfd p = some e
  event : ∀ p x, g.event p = some x → g'.event p = some x
  own : ∀ p, starter p = u → g'.epfd p = g.epfd p ∧ s'.pollers p = s.pollers p
  main : u = .main → g'.event = g.event ∧ g'.fresh = g.fresh
  files : u = .main → ∀ fd, s.kernel.files fd ≠ none →
    s'.kernel.files fd ≠ none ∧ s'.epolls fd = s.epolls fd

theorem Rely.refl (u : Thread) (g : Setup) (s : Shared) : Rely u g s g s where
  epfd _ _ h := h
  event _ _ h := h
  own _ _ := ⟨rfl, rfl⟩
  main _ := ⟨rfl, rfl⟩
  files _ _ h := ⟨h, rfl⟩

theorem Rely.trans {u : Thread} {g g' g'' : Setup} {s s' s'' : Shared} (h : Rely u g s g' s')
    (h' : Rely u g' s' g'' s'') : Rely u g s g'' s'' where
  epfd p e he := h'.epfd p e (h.epfd p e he)
  event p x hx := h'.event p x (h.event p x hx)
  own p hp := ⟨(h'.own p hp).1.trans (h.own p hp).1, (h'.own p hp).2.trans (h.own p hp).2⟩
  main hu := ⟨(h'.main hu).1.trans (h.main hu).1, (h'.main hu).2.trans (h.main hu).2⟩
  files hu fd hfd := by
    obtain ⟨hopen, hepolls⟩ := h.files hu fd hfd
    obtain ⟨hopen', hepolls'⟩ := h'.files hu fd hopen
    exact ⟨hopen', hepolls'.trans hepolls⟩

/-- The discipline of the threads before the first connection.  Nothing has to be checked
before a command. -/
def discipline : Discipline Thread Cmd Cmd.Val Reply Shared Setup where
  respond := respond
  inv := Inv
  rely := Rely
  check _ _ _ := True
  rely_refl := Rely.refl
  rely_trans := Rely.trans

/-- A run without a connection keeps to this discipline's system. -/
theorem run_of_meets {c c' : Config} {ops : List (Thread × Reply)}
    (hrun : threadSystem.system.Run c ops c')
    (hmeets : threadSystem.system.Meets NoConnection c ops) :
    (discipline.threads body).system.Run c ops c' := by
  induction hrun with
  | nil c => exact .nil c
  | @cons c c₁ c' op ops hlegal hstep _ ih =>
      obtain ⟨t, a⟩ := op
      obtain ⟨hno, hrest⟩ := (GuardedSystem.meets_cons_iff hlegal hstep).mp hmeets
      have hsame : (discipline.threads body).step c t a = some c₁ := by
        rcases ThreadSystem.step_cases hstep with ⟨hcode, rfl⟩ | ⟨cmd, k, v, s', hcode, hresp, rfl⟩
        · simp [ThreadSystem.step, hcode, Discipline.threads, threadSystem]
        · refine ThreadSystem.step_of_respond hcode ?_
          have hnot : ¬ (cmd.isAccept = true ∧ a.err = none) := by
            rintro ⟨haccept, herr⟩
            exact hno (by simpa [hcode, Prog.next] using haccept) herr
          exact (if_neg hnot).trans hresp
      exact ThreadSystem.run_cons hsame (ih hrest)

/-! ## What a thread knows -/

/-- An open descriptor that no event and no poller has. -/
structure Spare (fd : ℤ) (g : Setup) (s : Shared) : Prop where
  nonneg : 0 ≤ fd
  isOpen : s.kernel.files fd ≠ none
  not_epoll : s.epolls fd = false
  not_efd : ∀ p ge, g.event p ≠ some (ge, fd)

/-- What a thread has set up itself: the epoll descriptors it has created and stored in its
pollers, and as the main thread the events, and the descriptor of the next one. -/
structure Known where
  epfd : PollerId → Option ℤ
  stored : PollerId → Option ℤ
  event : PollerId → Option (EventPtr × ℤ)
  fresh : Option (EventPtr × EventMem)
  fd : Option ℤ

/-- A thread knows what it has set up. -/
structure At (t : Thread) (k : Known) (g : Setup) (s : Shared) : Prop where
  epfd : ∀ p, starter p = t → g.epfd p = k.epfd p
  stored : ∀ p e, starter p = t → k.stored p = some e → (s.pollers p).epfd = e
  event : t = .main → g.event = k.event
  fresh : t = .main → g.fresh = k.fresh
  fd : t = .main → ∀ fd, k.fd = some fd → Spare fd g s

section Rules

variable {t : Thread} {k : Known} {g g' : Setup} {s s' : Shared}

theorem Spare.rely {fd : ℤ} (h : Spare fd g s) (hr : Rely .main g s g' s') : Spare fd g' s' where
  nonneg := h.nonneg
  isOpen := (hr.files rfl fd h.isOpen).1
  not_epoll := (hr.files rfl fd h.isOpen).2.trans h.not_epoll
  not_efd := by
    rw [(hr.main rfl).1]
    exact h.not_efd

theorem Spare.congr {fd : ℤ} (h : Spare fd g s) (hevent : g'.event = g.event)
    (hfiles : s'.kernel.files = s.kernel.files) (hepolls : s'.epolls = s.epolls) :
    Spare fd g' s' where
  nonneg := h.nonneg
  isOpen := hfiles ▸ h.isOpen
  not_epoll := hepolls ▸ h.not_epoll
  not_efd := hevent ▸ h.not_efd

theorem At.rely (h : At t k g s) (hr : Rely t g s g' s') : At t k g' s' where
  epfd p hp := (hr.own p hp).1.trans (h.epfd p hp)
  stored p e hp he := by
    rw [(hr.own p hp).2]
    exact h.stored p e hp he
  event ht := (hr.main ht).1.trans (h.event ht)
  fresh ht := (hr.main ht).2.trans (h.fresh ht)
  fd ht fd hfd := by
    subst ht
    exact (h.fd rfl fd hfd).rely hr

theorem stable_at (t : Thread) (k : Known) : discipline.Stable t (At t k) :=
  fun _ _ _ _ h _ hr => h.rely hr

/-- One command. -/
theorem triple_command {c : Cmd} {P : Setup → Shared → Prop} {R : c.Val → Setup → Shared → Prop}
    (hR : ∀ v, discipline.Stable t (R v))
    (hstep : ∀ g s a v s', Inv g s → P g s → Threads.respond c a s = some (v, s') →
      ∃ g', Inv g' s' ∧ (∀ u, u ≠ t → Rely u g s g' s') ∧ R v g' s') :
    discipline.Triple t P (perform c) R := by
  refine Discipline.Triple.perform hR (fun _ _ _ _ => trivial) ?_
  intro g s a v s' hinv hP hresp
  exact hstep g s a v s' hinv hP (of_respond hresp)

end Rules

/-! ## Commands that change nothing of this -/

/-- A command that at most writes to a list cell. -/
def isQuiet : Cmd → Bool
  | .malloc | .memset _ | .store _ _ | .free _ | .storePoller _ _ | .epollCreate
  | .epollCtl _ _ _ _ | .socket | .close _ => false
  | _ => true

theorem respond_quiet {c : Cmd} {a : Reply} {v : c.Val} {s s' : Shared} (hc : isQuiet c = true)
    (h : respond c a s = some (v, s')) :
    s'.pollers = s.pollers ∧ s'.events = s.events ∧ s'.kernel = s.kernel ∧
      s'.epolls = s.epolls := by
  cases c with
  | malloc | memset | store | free | storePoller | epollCreate | epollCtl | socket | close =>
      cases hc
  | load | loadEfd | getNext | getPrev | setNext | setPrev | mallocEe | fdCall | read | log =>
      obtain ⟨-, rfl⟩ := Prod.mk.inj (Option.some.inj (of_respond h))
      exact ⟨rfl, rfl, rfl, rfl⟩
  | loadPoller | deref | call | callWrite =>
      obtain ⟨_, -, hs'⟩ := Option.map_eq_some_iff.mp (of_respond h)
      obtain ⟨-, rfl⟩ := Prod.mk.inj hs'
      exact ⟨rfl, rfl, rfl, rfl⟩
  | epollWait epfd maxe =>
      obtain ⟨-, hs'⟩ := Option.ite_none_right_eq_some.mp (of_respond h)
      obtain ⟨-, rfl⟩ := Prod.mk.inj (Option.some.inj hs')
      exact ⟨rfl, rfl, rfl, rfl⟩
  | accept fd =>
      obtain ⟨errnum, -, rfl⟩ := respond_accept h
      exact ⟨rfl, rfl, rfl, rfl⟩
  | fault => cases of_respond h

section Quiet

variable {t : Thread} {g : Setup} {s s' : Shared} {c : Cmd} {P : Setup → Shared → Prop}

/-- The list cells do not matter. -/
theorem Inv.congr (h : Inv g s) (hpollers : s'.pollers = s.pollers)
    (hevents : s'.events = s.events) (hkernel : s'.kernel = s.kernel)
    (hepolls : s'.epolls = s.epolls) : Inv g s' := by
  obtain ⟨pollers, events, nodes, kernel, epolls⟩ := s'
  subst hpollers hevents hkernel hepolls
  exact ⟨h.kernel, h.zero_open, h.epfd, h.epfd_inj, h.poller, h.event, h.fresh, h.efd, h.efd_inj,
    h.sets, h.epolls, h.created, h.datanet⟩

/-- A quiet command tells something about its value. -/
theorem triple_quiet {φ : c.Val → Setup → Prop} (hc : isQuiet c = true)
    (hP : discipline.Stable t P) (hφ : ∀ v, discipline.Stable t fun g _ => φ v g)
    (hval : ∀ g s a v s', Inv g s → P g s → respond c a s = some (v, s') → φ v g) :
    discipline.Triple t P (perform c) fun v g s => φ v g ∧ P g s := by
  refine Discipline.Triple.frame hP hφ (fun _ _ _ _ => trivial) ?_
  intro g s a v s' hinv hp hresp
  obtain ⟨hpollers, hevents, hkernel, hepolls⟩ := respond_quiet hc hresp
  refine ⟨g, Inv.congr hinv hpollers hevents hkernel hepolls, fun u => ?_,
    hval g s a v s' hinv hp hresp⟩
  refine ⟨fun _ _ h => h, fun _ _ h => h, fun p _ => ⟨rfl, by rw [hpollers]⟩,
    fun _ => ⟨rfl, rfl⟩, fun _ fd hfd => ?_⟩
  rw [hkernel, hepolls]
  exact ⟨hfd, rfl⟩

/-- A quiet command whose value does not matter. -/
theorem triple_skip (hc : isQuiet c = true) (hP : discipline.Stable t P) :
    discipline.Triple t P (perform c) fun _ => P :=
  (triple_quiet (φ := fun _ _ => True) hc hP (fun _ _ _ _ _ _ _ _ => trivial)
    fun _ _ _ _ _ _ _ _ => trivial).post fun _ _ _ _ h => h.2

/-- Read an event that is registered with a poller. -/
theorem triple_load_registered {p : PollerId} {ge : EventPtr} {fd : ℤ}
    (hP : discipline.Stable t P) (hreg : ∀ g s, P g s → g.event p = some (ge, fd)) :
    discipline.Triple t P (perform (.load ge)) fun x g s => x = started p fd ge ∧ P g s := by
  refine triple_quiet (c := .load ge) (φ := fun x _ => x = started p fd ge) rfl hP
    (fun _ _ _ _ _ h _ _ => h) ?_
  intro g s a x s' hinv hp hresp
  obtain ⟨rfl, -⟩ := Prod.mk.inj (Option.some.inj (of_respond hresp))
  rw [(hinv.event ge _).mpr (.inr ⟨p, fd, hreg g s hp, rfl⟩), Option.getD_some]

/-- Read a poller: its epoll descriptor is not valid, or the one that was created for it. -/
theorem triple_loadPoller (hP : discipline.Stable t P) (p : PollerId) :
    discipline.Triple t P (perform (.loadPoller (some p)))
      fun x g s => (x.epfd ≤ 0 ∨ g.epfd p = some x.epfd) ∧ P g s := by
  refine triple_quiet (c := .loadPoller (some p))
    (φ := fun x g => x.epfd ≤ 0 ∨ g.epfd p = some x.epfd) rfl hP ?_ ?_
  · intro x g s g' s' h _ hr
    exact h.imp_right (hr.epfd p x.epfd)
  · intro g s a x s' hinv _ hresp
    obtain ⟨rfl, -⟩ := Prod.mk.inj (Option.some.inj (of_respond hresp))
    exact hinv.poller p

/-- Read a poller that the thread has initialised. -/
theorem triple_loadPoller_own {k : Known} {p : PollerId} {e : ℤ} (hp : starter p = t)
    (he : k.stored p = some e) :
    discipline.Triple t (At t k) (perform (.loadPoller (some p)))
      fun x g s => x.epfd = e ∧ At t k g s := by
  refine triple_quiet (c := .loadPoller (some p)) (φ := fun x _ => x.epfd = e) rfl (stable_at t k)
    (fun _ _ _ _ _ h _ _ => h) ?_
  intro g s a x s' _ hat hresp
  obtain ⟨rfl, -⟩ := Prod.mk.inj (Option.some.inj (of_respond hresp))
  exact hat.stored p e hp he

/-- Read the event the main thread is making. -/
theorem triple_load {k : Known} {ge : EventPtr} {x : EventMem} (hx : k.fresh = some (ge, x)) :
    discipline.Triple .main (At .main k) (perform (.load ge))
      fun y g s => y = x ∧ At .main k g s := by
  refine triple_quiet (c := .load ge) (φ := fun y _ => y = x) rfl (stable_at .main k)
    (fun _ _ _ _ _ h _ _ => h) ?_
  intro g s a y s' hinv hat hresp
  obtain ⟨rfl, -⟩ := Prod.mk.inj (Option.some.inj (of_respond hresp))
  rw [(hinv.event ge x).mpr (.inl ((hat.fresh rfl).trans hx)), Option.getD_some]

end Quiet

/-! ## Initialising a poller -/

section Pollers

variable {t : Thread} {k : Known} {g : Setup} {s : Shared} {p : PollerId}

theorem Inv.setPoller (h : Inv g s) {x : GtPoller} (hx : x.epfd ≤ 0 ∨ g.epfd p = some x.epfd) :
    Inv g { s with pollers := Function.update s.pollers p x } where
  kernel := h.kernel
  zero_open := h.zero_open
  epfd := h.epfd
  epfd_inj := h.epfd_inj
  poller q := by
    by_cases hq : q = p
    · subst hq
      simpa using hx
    · simpa [hq] using h.poller q
  event := h.event
  fresh := h.fresh
  efd := h.efd
  efd_inj := h.efd_inj
  sets := h.sets
  epolls := h.epolls
  created := h.created
  datanet := h.datanet

/-- Another thread's poller is written. -/
theorem rely_setPoller (g : Setup) (s : Shared) (x : GtPoller) {u : Thread} (hu : u ≠ starter p) :
    Rely u g s g { s with pollers := Function.update s.pollers p x } where
  epfd _ _ h := h
  event _ _ h := h
  own q hq := by
    have hne : q ≠ p := by
      rintro rfl
      exact hu hq.symm
    exact ⟨rfl, Function.update_of_ne hne _ _⟩
  main _ := ⟨rfl, rfl⟩
  files _ _ h := ⟨h, rfl⟩

/-- Write to a poller, but not its epoll descriptor. -/
theorem triple_storePoller (hp : starter p = t) {w : PollerWrite}
    (hw : ∀ x, (w.apply x).epfd = x.epfd) :
    discipline.Triple t (At t k) (perform (.storePoller p w)) fun _ => At t k := by
  refine triple_command (fun _ => stable_at t k) ?_
  intro g s a v s' hinv hat hresp
  obtain ⟨-, rfl⟩ := Prod.mk.inj (Option.some.inj hresp)
  subst hp
  refine ⟨g, hinv.setPoller (by simpa [hw] using hinv.poller p),
    fun u hu => rely_setPoller g s _ hu, hat.epfd, ?_, hat.event, hat.fresh,
    fun ht fd hfd => (hat.fd ht fd hfd).congr rfl rfl rfl⟩
  intro q e hq he
  rw [← hat.stored q e hq he]
  by_cases hqp : q = p
  · subst hqp
    simp [hw]
  · simp [hqp]

/-- Store the epoll descriptor that was created for the poller, or a number that is none. -/
theorem triple_storeEpfd (hp : starter p = t) {e : ℤ} (he : e ≤ 0 ∨ k.epfd p = some e) :
    discipline.Triple t (At t k) (perform (.storePoller p (.epfd e)))
      fun _ => At t { k with stored := Function.update k.stored p (some e) } := by
  refine triple_command (fun _ => stable_at t _) ?_
  intro g s a v s' hinv hat hresp
  obtain ⟨-, rfl⟩ := Prod.mk.inj (Option.some.inj hresp)
  have he' : e ≤ 0 ∨ g.epfd p = some e := by rwa [hat.epfd p hp]
  subst hp
  refine ⟨g, hinv.setPoller he', fun u hu => rely_setPoller g s _ hu, hat.epfd, ?_, hat.event,
    hat.fresh, fun ht fd hfd => (hat.fd ht fd hfd).congr rfl rfl rfl⟩
  intro q e' hq hq'
  by_cases hqp : q = p
  · subst hqp
    simpa [PollerWrite.apply] using hq'
  · simp only [Function.update_of_ne hqp] at hq' ⊢
    exact hat.stored q e' hq hq'

/-- A file is opened under a free number. -/
theorem Inv.openFile (h : Inv g s) {fd : ℤ} (hfree : s.kernel.files fd = none) :
    Inv g { s with kernel := s.kernel.openFile fd } := by
  have hopen : ∀ fd', s.kernel.files fd' ≠ none → (s.kernel.openFile fd).files fd' ≠ none := by
    intro fd' hfd'
    by_cases heq : fd' = fd <;> simp [Kernel.openFile, heq, hfd']
  exact
    { kernel := h.kernel.openFile fd hfree
      zero_open := hopen 0 h.zero_open
      epfd := fun p e he => ⟨(h.epfd p e he).1, hopen e (h.epfd p e he).2.1, (h.epfd p e he).2.2⟩
      epfd_inj := h.epfd_inj
      poller := h.poller
      event := h.event
      fresh := h.fresh
      efd := fun p ge fd' he =>
        ⟨(h.efd p ge fd' he).1, hopen fd' (h.efd p ge fd' he).2.1, (h.efd p ge fd' he).2.2⟩
      efd_inj := h.efd_inj
      sets := h.sets
      epolls := h.epolls
      created := h.created
      datanet := h.datanet }

/-- The file is the epoll set of a poller. -/
theorem Inv.setEpfd (h : Inv g s) {e : ℤ} (hpos : 0 < e) (hopen : s.kernel.files e ≠ none)
    (hp : g.epfd p = none) (hnew : ∀ q, g.epfd q ≠ some e)
    (hefd : ∀ q ge, g.event q ≠ some (ge, e)) :
    Inv { g with epfd := Function.update g.epfd p (some e) }
      { s with epolls := Function.update s.epolls e true } := by
  have hcases : ∀ q e', Function.update g.epfd p (some e) q = some e' ↔
      q = p ∧ e' = e ∨ g.epfd q = some e' := by
    intro q e'
    by_cases hq : q = p
    · subst hq
      simp [hp, eq_comm]
    · simp [hq]
  refine ⟨h.kernel, h.zero_open, ?_, ?_, ?_, h.event, h.fresh, ?_, h.efd_inj, ?_, ?_, ?_,
    h.datanet⟩
  · intro q e' he'
    rcases (hcases q e').mp he' with ⟨-, rfl⟩ | hold
    · exact ⟨hpos, hopen, by simp⟩
    · obtain ⟨hpos', hopen', hepolls'⟩ := h.epfd q e' hold
      have hne : e' ≠ e := by
        rintro rfl
        exact hnew q hold
      exact ⟨hpos', hopen', by simpa [hne] using hepolls'⟩
  · intro q q' e' he' he''
    rcases (hcases q e').mp he' with ⟨rfl, rfl⟩ | hold <;>
      rcases (hcases q' _).mp he'' with ⟨rfl, heq⟩ | hold'
    · rfl
    · exact absurd hold' (hnew q')
    · exact absurd (heq ▸ hold) (hnew q)
    · exact h.epfd_inj q q' e' hold hold'
  · intro q
    exact (h.poller q).imp_right fun hq => (hcases q _).mpr (.inr hq)
  · intro q ge fd hq
    obtain ⟨hnonneg, hopen', hepolls'⟩ := h.efd q ge fd hq
    have hne : fd ≠ e := by
      rintro rfl
      exact hefd q ge hq
    exact ⟨hnonneg, hopen', by simpa [hne] using hepolls'⟩
  · intro e' fd reg
    rw [h.sets e' fd reg]
    constructor
    · rintro ⟨q, ge, hq, hrest⟩
      exact ⟨q, ge, (hcases q e').mpr (.inr hq), hrest⟩
    · rintro ⟨q, ge, hq, hev, hreg⟩
      rcases (hcases q e').mp hq with ⟨rfl, -⟩ | hold
      · exact absurd hp (h.created q _ hev)
      · exact ⟨q, ge, hold, hev, hreg⟩
  · intro e' he'
    by_cases hne : e' = e
    · exact ⟨p, (hcases p e').mpr (.inl ⟨rfl, hne⟩)⟩
    · obtain ⟨q, hq⟩ := h.epolls e' (by simpa [hne] using he')
      exact ⟨q, (hcases q e').mpr (.inr hq)⟩
  · intro q x hq
    obtain ⟨e', he'⟩ := Option.ne_none_iff_exists'.mp (h.created q x hq)
    simp [(hcases q e').mpr (.inr he')]

/-- `epoll_create` for a poller that has no epoll set yet. -/
theorem triple_epollCreate (hp : starter p = t) (hk : k.epfd p = none) :
    discipline.Triple t (At t k) (perform .epollCreate) fun created g s => match created with
      | .ok e => At t { k with epfd := Function.update k.epfd p (some e) } g s
      | .error _ => At t k g s := by
  refine triple_command ?_ ?_
  · intro created
    cases created with
    | ok e => exact stable_at t _
    | error errnum => exact stable_at t k
  · intro g s a v s' hinv hat hresp
    cases herr : a.err with
    | some errnum =>
        simp only [Threads.respond, herr, Option.some.injEq, Prod.mk.injEq] at hresp
        obtain ⟨rfl, rfl⟩ := hresp
        exact ⟨g, hinv, fun u _ => .refl u g s, hat⟩
    | none =>
        simp only [Threads.respond, herr] at hresp
        obtain ⟨hfresh, hs'⟩ := Option.ite_none_right_eq_some.mp hresp
        obtain ⟨rfl, rfl⟩ := Prod.mk.inj (Option.some.inj hs')
        obtain ⟨hnonneg, hfree⟩ : 0 ≤ a.fd ∧ s.kernel.files a.fd = none := by
          simpa [freshFd] using hfresh
        have hgp : g.epfd p = none := (hat.epfd p hp).trans hk
        have hother : ∀ fd, s.kernel.files fd ≠ none →
            fd ≠ a.fd ∧ (s.kernel.openFile a.fd).files fd ≠ none := by
          intro fd hfd
          have hne : fd ≠ a.fd := by
            rintro rfl
            exact hfd hfree
          exact ⟨hne, by simpa [Kernel.openFile, hne] using hfd⟩
        have hpos : 0 < a.fd := by
          have hne := (hother 0 hinv.zero_open).1
          omega
        refine ⟨{ g with epfd := Function.update g.epfd p (some a.fd) },
          (hinv.openFile hfree).setEpfd hpos (by simp [Kernel.openFile]) hgp ?_ ?_, ?_, ?_⟩
        · intro q hq
          exact (hother a.fd (hinv.epfd q a.fd hq).2.1).1 rfl
        · intro q ge hq
          exact (hother a.fd (hinv.efd q ge a.fd hq).2.1).1 rfl
        · intro u hu
          refine ⟨?_, fun _ _ h => h, ?_, fun _ => ⟨rfl, rfl⟩, ?_⟩
          · intro q e hq
            have hne : q ≠ p := by
              rintro rfl
              simp [hgp] at hq
            simpa [hne] using hq
          · intro q hq
            have hne : q ≠ p := by
              rintro rfl
              exact hu (hq.symm.trans hp)
            exact ⟨Function.update_of_ne hne _ _, rfl⟩
          · intro _ fd hfd
            exact ⟨(hother fd hfd).2, Function.update_of_ne (hother fd hfd).1 _ _⟩
        · refine ⟨?_, hat.stored, hat.event, hat.fresh, ?_⟩
          · intro q hq
            by_cases hqp : q = p
            · simp [hqp]
            · simpa [hqp] using hat.epfd q hq
          · intro ht fd hfd
            obtain ⟨hnonneg', hopen, hepolls, hefd⟩ := hat.fd ht fd hfd
            obtain ⟨hne, hopen'⟩ := hother fd hopen
            exact ⟨hnonneg', hopen', by simpa [hne] using hepolls, hefd⟩

end Pollers

/-! ## Making an event -/

section Events

variable {k : Known} {g : Setup} {s : Shared} {p : PollerId} {ge : EventPtr} {x : EventMem}
  {fd e : ℤ}

/-- The memory of the event that is being made. -/
theorem Inv.setFresh (h : Inv g s) {s' : Shared} (hg : g.fresh = none ∨ ∃ y, g.fresh = some (ge, y))
    (hnew : ∀ p fd, g.event p ≠ some (ge, fd)) (hpollers : s'.pollers = s.pollers)
    (hevents : s'.events = Function.update s.events ge (some x)) (hkernel : s'.kernel = s.kernel)
    (hepolls : s'.epolls = s.epolls) : Inv { g with fresh := some (ge, x) } s' := by
  obtain ⟨pollers, events, nodes, kernel, epolls⟩ := s'
  subst hpollers hevents hkernel hepolls
  refine ⟨h.kernel, h.zero_open, h.epfd, h.epfd_inj, h.poller, ?_, ?_, h.efd, h.efd_inj, h.sets,
    h.epolls, h.created, h.datanet⟩
  · intro ge' y
    by_cases hge : ge' = ge
    · subst hge
      simp [hnew]
    · have hold : g.fresh ≠ some (ge', y) := by
        rcases hg with hg | ⟨z, hg⟩
        · simp [hg]
        · simp [hg, Ne.symm hge]
      simp [hge, Ne.symm hge, h.event ge' y, hold]
  · intro ge' y p fd hfresh
    obtain ⟨rfl, -⟩ : ge = ge' ∧ x = y := by simpa using hfresh
    exact hnew p fd

/-- What a step of the main thread on its events and descriptors leaves alone. -/
theorem rely_of_ne_main {g' : Setup} {s' : Shared} {u : Thread} (hu : u ≠ .main)
    (hepfd : g'.epfd = g.epfd) (hevent : ∀ p x, g.event p = some x → g'.event p = some x)
    (hpollers : s'.pollers = s.pollers) : Rely u g s g' s' where
  epfd := hepfd ▸ fun _ _ h => h
  event := hevent
  own p _ := ⟨by rw [hepfd], by rw [hpollers]⟩
  main h := absurd h hu
  files h := absurd h hu

/-- A new event, or none. -/
theorem triple_malloc (hk : k.fresh = none) :
    discipline.Triple .main (At .main k) (perform .malloc) fun v g s => match v with
      | none => At .main k g s
      | some ge => ∃ x, At .main { k with fresh := some (ge, x) } g s := by
  refine triple_command ?_ ?_
  · intro v
    cases v with
    | none => exact stable_at .main k
    | some ge =>
        rintro g s g' s' ⟨x, hat⟩ _ hr
        exact ⟨x, hat.rely hr⟩
  · intro g s a v s' hinv hat hresp
    cases hptr : a.ptr with
    | none =>
        simp only [Threads.respond, hptr, Option.some.injEq, Prod.mk.injEq] at hresp
        obtain ⟨rfl, rfl⟩ := hresp
        exact ⟨g, hinv, fun u _ => .refl u g s, hat⟩
    | some ge =>
        simp only [Threads.respond, hptr] at hresp
        obtain ⟨hfree, hs'⟩ := Option.ite_none_right_eq_some.mp hresp
        obtain ⟨rfl, rfl⟩ := Prod.mk.inj (Option.some.inj hs')
        have hnew : ∀ p fd, g.event p ≠ some (ge, fd) := by
          intro p fd hp
          have hlive := (hinv.event ge _).mpr (.inr ⟨p, fd, hp, rfl⟩)
          simp [hfree] at hlive
        refine ⟨{ g with fresh := some (ge, a.mem) },
          hinv.setFresh (.inl ((hat.fresh rfl).trans hk)) hnew rfl rfl rfl rfl, ?_,
          a.mem, hat.epfd, hat.stored, hat.event, fun _ => rfl,
          fun ht fd hfd => (hat.fd ht fd hfd).congr rfl rfl rfl⟩
        exact fun u hu => rely_of_ne_main hu rfl (fun _ _ h => h) rfl

/-- The main thread writes to the event it is making. -/
theorem triple_write {c : Cmd} (hk : k.fresh = some (ge, x)) {y : EventMem}
    (hc : ∀ a v s s', s.events ge = some x → Threads.respond c a s = some (v, s') →
      s'.pollers = s.pollers ∧ s'.events = Function.update s.events ge (some y) ∧
        s'.kernel = s.kernel ∧ s'.epolls = s.epolls) :
    discipline.Triple .main (At .main k) (perform c)
      fun _ => At .main { k with fresh := some (ge, y) } := by
  refine triple_command (fun _ => stable_at .main _) ?_
  intro g s a v s' hinv hat hresp
  have hg : g.fresh = some (ge, x) := (hat.fresh rfl).trans hk
  obtain ⟨hpollers, hevents, hkernel, hepolls⟩ :=
    hc a v s s' ((hinv.event ge x).mpr (.inl hg)) hresp
  refine ⟨{ g with fresh := some (ge, y) },
    hinv.setFresh (.inr ⟨x, hg⟩) (fun p fd => hinv.fresh ge x p fd hg) hpollers hevents hkernel
      hepolls, fun u hu => rely_of_ne_main hu rfl (fun _ _ h => h) hpollers, hat.epfd, ?_,
    hat.event, fun _ => rfl, ?_⟩
  · rw [hpollers]
    exact hat.stored
  · intro ht fd hfd
    exact (hat.fd ht fd hfd).congr rfl (by rw [hkernel]) hepolls

theorem triple_memset (hk : k.fresh = some (ge, x)) :
    discipline.Triple .main (At .main k) (perform (.memset ge))
      fun _ => At .main { k with fresh := some (ge, .zero) } := by
  refine triple_write hk ?_
  intro a v s s' hlive hresp
  obtain ⟨-, rfl⟩ := Prod.mk.inj (Option.some.inj hresp)
  exact ⟨rfl, by simp [Shared.setNode, Shared.setEvent, hlive], rfl, rfl⟩

theorem triple_store (hk : k.fresh = some (ge, x)) (w : EventWrite) :
    discipline.Triple .main (At .main k) (perform (.store ge w))
      fun _ => At .main { k with fresh := some (ge, w.apply x) } := by
  refine triple_write hk ?_
  intro a v s s' hlive hresp
  obtain ⟨-, rfl⟩ := Prod.mk.inj (Option.some.inj hresp)
  exact ⟨rfl, by simp [Shared.setEvent, hlive], rfl, rfl⟩

/-- The event that was made is registered with its poller. -/
theorem Inv.register (h : Inv g s) (hp : g.epfd p = some e) (hstarter : starter p = .main)
    (hnone : g.event p = none) (hx : g.fresh = some (ge, started p fd ge)) (hspare : Spare fd g s)
    {kernel : Kernel (Option EventPtr)} (hwf : kernel.WF) (hfiles : kernel.files = s.kernel.files)
    (hset : kernel.sets e fd = some ⟨epollin, some ge⟩)
    (hsets : ∀ e' fd', e' ≠ e ∨ fd' ≠ fd → kernel.sets e' fd' = s.kernel.sets e' fd') :
    Inv { g with event := Function.update g.event p (some (ge, fd)), fresh := none }
      { s with kernel := kernel } := by
  have hcases : ∀ q y, Function.update g.event p (some (ge, fd)) q = some y ↔
      q = p ∧ y = (ge, fd) ∨ g.event q = some y := by
    intro q y
    by_cases hq : q = p
    · subst hq
      simp [hnone, eq_comm]
    · simp [hq]
  refine ⟨hwf, hfiles ▸ h.zero_open, ?_, h.epfd_inj, h.poller, ?_, nofun, ?_, ?_, ?_, h.epolls,
    ?_, ?_⟩
  · rw [hfiles]
    exact h.epfd
  · intro ge' y
    rw [h.event ge' y]
    constructor
    · rintro (hfresh | ⟨q, fd', hq, rfl⟩)
      · obtain ⟨rfl, rfl⟩ : ge = ge' ∧ started p fd ge = y := by simpa [hx] using hfresh
        exact .inr ⟨p, fd, (hcases p _).mpr (.inl ⟨rfl, rfl⟩), rfl⟩
      · exact .inr ⟨q, fd', (hcases q _).mpr (.inr hq), rfl⟩
    · rintro (hfresh | ⟨q, fd', hq, rfl⟩)
      · cases hfresh
      · rcases (hcases q _).mp hq with ⟨rfl, heq⟩ | hold
        · obtain ⟨rfl, rfl⟩ := Prod.mk.inj heq
          exact .inl hx
        · exact .inr ⟨q, fd', hold, rfl⟩
  · intro q ge' fd' hq
    rw [hfiles]
    rcases (hcases q _).mp hq with ⟨-, heq⟩ | hold
    · obtain ⟨-, rfl⟩ := Prod.mk.inj heq
      exact ⟨hspare.nonneg, hspare.isOpen, hspare.not_epoll⟩
    · exact h.efd q ge' fd' hold
  · intro q q' ge' ge'' fd' hq hq'
    rcases (hcases q _).mp hq with ⟨hqp, heq⟩ | hold <;>
      rcases (hcases q' _).mp hq' with ⟨hqp', heq'⟩ | hold'
    · exact hqp.trans hqp'.symm
    · obtain ⟨-, rfl⟩ := Prod.mk.inj heq
      exact absurd hold' (hspare.not_efd q' ge'')
    · obtain ⟨-, rfl⟩ := Prod.mk.inj heq'
      exact absurd hold (hspare.not_efd q ge')
    · exact h.efd_inj q q' ge' ge'' fd' hold hold'
  · intro e' fd' reg
    by_cases hhere : e' = e ∧ fd' = fd
    · obtain ⟨rfl, rfl⟩ := hhere
      rw [hset]
      constructor
      · intro heq
        exact ⟨p, ge, hp, (hcases p _).mpr (.inl ⟨rfl, rfl⟩), (Option.some.inj heq).symm⟩
      · rintro ⟨q, ge', -, hev, rfl⟩
        rcases (hcases q _).mp hev with ⟨-, heq⟩ | hold
        · rw [(Prod.mk.inj heq).1]
        · exact absurd hold (hspare.not_efd q ge')
    · rw [hsets e' fd' (by tauto), h.sets e' fd' reg]
      constructor
      · rintro ⟨q, ge', hq, hev, hreg⟩
        exact ⟨q, ge', hq, (hcases q _).mpr (.inr hev), hreg⟩
      · rintro ⟨q, ge', hq, hev, hreg⟩
        rcases (hcases q _).mp hev with ⟨rfl, heq⟩ | hold
        · exact absurd ⟨Option.some.inj (hq.symm.trans hp), (Prod.mk.inj heq).2⟩ hhere
        · exact ⟨q, ge', hq, hold, hreg⟩
  · intro q y hq
    rcases (hcases q y).mp hq with ⟨rfl, -⟩ | hold
    · simp [hp]
    · exact h.created q y hold
  · intro i
    have hne : PollerId.datanet i ≠ p := by
      rintro rfl
      cases hstarter
    simpa [hne] using h.datanet i

/-- `epoll_ctl` of the finished event: it is registered, or nothing changes. -/
theorem triple_epollCtl (hstarter : starter p = .main) (hp : k.epfd p = some e)
    (hnone : k.event p = none) (hx : k.fresh = some (ge, started p fd ge)) (hfd : k.fd = some fd) :
    discipline.Triple .main (At .main k) (perform (.epollCtl e .add fd ge))
      fun v g s => v.elim (At .main { k with
        event := Function.update k.event p (some (ge, fd)), fresh := none, fd := none } g s)
        fun _ => At .main k g s := by
  refine triple_command ?_ ?_
  · intro v
    cases v with
    | none => exact stable_at .main _
    | some errnum => exact stable_at .main k
  · intro g s a v s' hinv hat hresp
    have hgx := (hat.fresh rfl).trans hx
    have hspare := hat.fd rfl fd hfd
    have hgp : g.epfd p = some e := (hat.epfd p hstarter).trans hp
    have hgnone : g.event p = none := by rw [hat.event rfl, hnone]
    have hlive : s.events ge = some (started p fd ge) := (hinv.event ge _).mpr (.inl hgx)
    have hnot : ∀ e', s.kernel.sets e' fd = none := by
      intro e'
      by_contra hne
      obtain ⟨reg, hreg⟩ := Option.ne_none_iff_exists'.mp hne
      obtain ⟨q, ge', -, hev, -⟩ := (hinv.sets e' fd reg).mp hreg
      exact hspare.not_efd q ge' hev
    simp only [Threads.respond, hlive, Option.getD_some, Option.some.injEq, Prod.mk.injEq] at hresp
    obtain ⟨hv, rfl⟩ := hresp
    have hsame := Kernel.sameBut_epollCtl s.kernel (ctlFailure a e fd s) e .add fd
      (started p fd ge).e
    cases v with
    | none =>
        refine ⟨_, hinv.register hgp hstarter hgnone hgx hspare (hinv.kernel.sameBut hsame
          hspare.isOpen) hsame.files_eq (Kernel.sets_epollCtl_of_ok (by decide) hv) ?_, ?_, ?_⟩
        · intro e' fd' hne
          by_cases hfd' : fd' = fd
          · have he' : e' ≠ e := by tauto
            rw [Kernel.sets_epollCtl_of_epfd_ne he']
          · exact Kernel.sets_epollCtl_of_ne _ _ _ _ _ _ hfd'
        · intro u hu
          refine rely_of_ne_main hu rfl (fun q y hq => ?_) rfl
          have hne : q ≠ p := by
            rintro rfl
            simp [hgnone] at hq
          simpa [hne] using hq
        · refine ⟨hat.epfd, hat.stored, ?_, fun _ => rfl, ?_⟩
          · intro _
            rw [← hat.event rfl]
          · rintro - fd' hfd'
            cases hfd'
    | some errnum =>
        have hsets := Kernel.sets_epollCtl_of_err hv
        refine ⟨g, ?_, ?_, hat.epfd, hat.stored, hat.event, hat.fresh, ?_⟩
        · refine ⟨hinv.kernel.sameBut hsame hspare.isOpen, hsame.files_eq ▸ hinv.zero_open, ?_,
            hinv.epfd_inj, hinv.poller, hinv.event, hinv.fresh, ?_, hinv.efd_inj, ?_, hinv.epolls,
            hinv.created, hinv.datanet⟩
          · rw [hsame.files_eq]
            exact hinv.epfd
          · rw [hsame.files_eq]
            exact hinv.efd
          · rw [hsets]
            exact hinv.sets
        · exact fun u hu => rely_of_ne_main hu rfl (fun _ _ h => h) rfl
        · intro ht fd' hfd'
          exact (hat.fd ht fd' hfd').congr rfl hsame.files_eq rfl

/-- `socket` gives the main thread a descriptor. -/
theorem triple_socket :
    discipline.Triple .main (At .main k) (perform .socket) fun v g s => match v with
      | .ok fd => 0 < fd ∧ At .main { k with fd := some fd } g s
      | .error _ => At .main k g s := by
  refine triple_command ?_ ?_
  · intro v
    cases v with
    | ok fd => exact fun g s g' s' h _ hr => ⟨h.1, h.2.rely hr⟩
    | error errnum => exact stable_at .main k
  · intro g s a v s' hinv hat hresp
    cases herr : a.err with
    | some errnum =>
        simp only [Threads.respond, herr, Option.some.injEq, Prod.mk.injEq] at hresp
        obtain ⟨rfl, rfl⟩ := hresp
        exact ⟨g, hinv, fun u _ => .refl u g s, hat⟩
    | none =>
        simp only [Threads.respond, herr] at hresp
        obtain ⟨hfresh, hs'⟩ := Option.ite_none_right_eq_some.mp hresp
        obtain ⟨rfl, rfl⟩ := Prod.mk.inj (Option.some.inj hs')
        obtain ⟨hnonneg, hfree⟩ : 0 ≤ a.fd ∧ s.kernel.files a.fd = none := by
          simpa [freshFd] using hfresh
        have hpos : 0 < a.fd := by
          have hne : a.fd ≠ 0 := fun h => hinv.zero_open (h ▸ hfree)
          omega
        refine ⟨g, hinv.openFile hfree, ?_, hpos, hat.epfd, hat.stored, hat.event, hat.fresh, ?_⟩
        · exact fun u hu => rely_of_ne_main hu rfl (fun _ _ h => h) rfl
        · rintro - fd hfd
          obtain rfl := Option.some.inj hfd
          refine ⟨hnonneg, by simp [Kernel.openFile], ?_, ?_⟩
          · by_contra hepolls
            obtain ⟨q, hq⟩ := hinv.epolls a.fd (by simpa using hepolls)
            exact (hinv.epfd q a.fd hq).2.1 hfree
          · intro q ge hq
            exact (hinv.efd q ge a.fd hq).2.1 hfree

/-- The main thread closes a descriptor that it has not used. -/
theorem triple_close (hfd : k.fd = some fd) (hpos : 0 < fd) :
    discipline.Triple .main (At .main k) (perform (.close fd)) fun _ _ _ => True := by
  refine triple_command (fun _ _ _ _ _ _ _ _ => trivial) ?_
  intro g s a v s' hinv hat hresp
  obtain ⟨-, rfl⟩ := Prod.mk.inj (Option.some.inj hresp)
  obtain ⟨-, hopen, hnot, hefd⟩ := hat.fd rfl fd hfd
  have hepfd : ∀ p e, g.epfd p = some e → e ≠ fd := by
    rintro p e he rfl
    simp [(hinv.epfd p e he).2.2] at hnot
  refine ⟨g, ?_, ?_, trivial⟩
  · refine ⟨hinv.kernel.close fd, ?_, ?_, hinv.epfd_inj, hinv.poller, hinv.event, hinv.fresh, ?_,
      hinv.efd_inj, ?_, ?_, hinv.created, hinv.datanet⟩
    · have hne : (0 : ℤ) ≠ fd := by omega
      simpa [hne] using hinv.zero_open
    · intro p e he
      simpa [hepfd p e he] using hinv.epfd p e he
    · intro p ge fd' hp
      have hne : fd' ≠ fd := by
        rintro rfl
        exact hefd p ge hp
      simpa [hne] using hinv.efd p ge fd' hp
    · intro e fd' reg
      rw [Kernel.sets_close hopen]
      split
      · rename_i hclosed
        refine ⟨nofun, ?_⟩
        rintro ⟨p, ge, hp, hev, -⟩
        rcases hclosed with rfl | rfl
        · exact absurd rfl (hepfd p e hp)
        · exact absurd hev (hefd p ge)
      · exact hinv.sets e fd' reg
    · intro e he
      have hne : e ≠ fd := by
        rintro rfl
        simp at he
      exact hinv.epolls e (by simpa [hne] using he)
  · exact fun u hu => rely_of_ne_main hu rfl (fun _ _ h => h) rfl

end Events

end Booting

end GuitarTea.Threads
