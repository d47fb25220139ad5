import GuitarTea.ThreadOwnership

/-!
# What the list of a poller is written through

`gt_poller_gevent_create` and `gt_poller_gevent_destroy` follow pointers that an earlier
call stored, and the events of these pointers may have been freed since.  Here the functions
are called on the pollers in any order and with anything the environment may answer.  They
run one access at a time, and every assignment to a `next` or `prev` member is looked at
when it is made.

What saves the program is that it calls `list_add` with the new node in the place of the
head.  Both pointers of an event then name the list of its poller for as long as the
event lives, whatever happens to the other events, and `Spokes` says so.

## Main definitions

* `WritesLive` — an assignment to a member of a list cell that is there.
* `ElistCall`, `CallsWell` — the calls, and what holds along a sequence of them.
* `Spokes` — the invariant between two calls.
* `Holds` — what holds while a call works on one event.
-/

namespace GuitarTea.Threads

/-! ## Sequences of calls -/

/-- The list cell that a command assigns to. -/
def Cmd.writesThrough : Cmd → Option NodeAddr
  | .setNext n _ | .setPrev n _ => some n
  | _ => none

/-- What the command assigns through is the list of the poller, or the node of an event
that is there. -/
def WritesLive (p : PollerId) (c : Cmd) (s : Shared) : Prop :=
  ∀ n, c.writesThrough = some n → n = .elist p ∨ ∃ ge, n = .node ge ∧ s.events ge ≠ none

/-- A call of one of the functions of `gt_poller.c` that work on a poller or on one event. -/
inductive ElistCall
  | init (maxe timeout : ℤ)
  | create (efd : ℤ)
  | destroy (ge : EventPtr)
  | start (eflag : BitVec 32) (ge : EventPtr)
  | stop (eflag : BitVec 32) (ge : EventPtr)
  deriving DecidableEq, Repr

/-- The event that the caller hands in. -/
def ElistCall.event : ElistCall → Option EventPtr
  | .init _ _ | .create _ => none
  | .destroy ge | .start _ ge | .stop _ ge => some ge

/-- The call, on this poller. -/
def ElistCall.code (p : PollerId) : ElistCall → Code Unit
  | .init maxe timeout => do
      let _ ← gtPollerInit maxe timeout p
  | .create efd => do
      let _ ← gtPollerGeventCreate efd p
  | .destroy ge => gtPollerGeventDestroy ge
  | .start eflag ge => do
      let _ ← gtPollerEventStart eflag ge
  | .stop eflag ge => do
      let _ ← gtPollerEventStop eflag ge

/-- The event that is handed in was created on the poller and was not destroyed. -/
def ElistCall.Legal (p : PollerId) (c : ElistCall) (s : Shared) : Prop :=
  ∀ ge, c.event = some ge → ∃ ev, s.events ge = some ev ∧ ev.gpoller = some p

/-- The program runs to its end, assigns through live cells only, and ends in `Q`. -/
abbrev Runs (p : PollerId) {α : Type} (Q : α → Shared → Prop) (prog : Code α) (s : Shared) :
    Prop :=
  prog.Along respond (WritesLive p) Q s

/-- The calls are made one after the other, each on some poller, and each of them
assigns through live cells only; after a call that is not legal nothing is claimed. -/
def CallsWell : List (PollerId × ElistCall) → Shared → Prop
  | [], _ => True
  | (p, c) :: calls, s => c.Legal p s → Runs p (fun _ => CallsWell calls) (c.code p) s

/-! ## The invariant -/

/-- **Between two calls** both pointers of every event name the list of its poller. -/
structure Spokes (s : Shared) : Prop where
  elist : ∀ p, s.nodes (.elist p) ≠ none
  node : ∀ ge ev p, s.events ge = some ev → ev.gpoller = some p →
    s.nodes (.node ge) = some (ring p)

/-- A call works on the event `ge`: it holds `ev` and its node holds `l`.  The other events
and their nodes are as they were. -/
structure Holds (ge : EventPtr) (s₀ : Shared) (ev : EventMem) (l : Link NodeAddr) (s : Shared) :
    Prop where
  events : s.events = Function.update s₀.events ge (some ev)
  node : s.nodes (.node ge) = some l
  elist : ∀ p, s.nodes (.elist p) ≠ none
  others : ∀ ge', ge' ≠ ge → s.nodes (.node ge') = s₀.nodes (.node ge')

variable {p : PollerId} {ge : EventPtr} {s₀ s s' : Shared} {ev : EventMem} {l : Link NodeAddr}

/-- An assignment through a pointer makes no cell disappear. -/
theorem setNode_ne_none {m : NodeAddr} (h : s.nodes m ≠ none) (n : NodeAddr)
    (f : Link NodeAddr → Link NodeAddr) : (s.setNode n f).nodes m ≠ none := by
  by_cases hm : m = n
  · simpa [Shared.setNode, hm] using hm ▸ h
  · simpa [Shared.setNode, hm] using h

namespace Holds

theorem event (h : Holds ge s₀ ev l s) : s.events ge = some ev := by
  rw [h.events]
  exact Function.update_self ge _ _

/-- Commands that do not touch events and list cells. -/
theorem of_eq (h : Holds ge s₀ ev l s) (hevents : s'.events = s.events)
    (hnodes : s'.nodes = s.nodes) : Holds ge s₀ ev l s' where
  events := hevents.trans h.events
  node := hnodes ▸ h.node
  elist := hnodes ▸ h.elist
  others ge' hne := hnodes ▸ h.others ge' hne

theorem setEvent (h : Holds ge s₀ ev l s) (f : EventMem → EventMem) :
    Holds ge s₀ (f ev) l (s.setEvent ge f) where
  events := by simp [Shared.setEvent, h.event, h.events]
  node := h.node
  elist := h.elist
  others := h.others

theorem setNode (h : Holds ge s₀ ev l s) (f : Link NodeAddr → Link NodeAddr) :
    Holds ge s₀ ev (f l) (s.setNode (.node ge) f) where
  events := h.events
  node := by simp [Shared.setNode, h.node]
  elist q := setNode_ne_none (h.elist q) _ f
  others ge' hne := by simpa [Shared.setNode, hne] using h.others ge' hne

theorem setElist (h : Holds ge s₀ ev l s) (f : Link NodeAddr → Link NodeAddr) :
    Holds ge s₀ ev l (s.setNode (.elist p) f) where
  events := h.events
  node := by simpa [Shared.setNode] using h.node
  elist q := setNode_ne_none (h.elist q) _ f
  others ge' hne := by simpa [Shared.setNode] using h.others ge' hne

end Holds

/-! ## One command -/

/-- Commands that change neither events nor list cells. -/
def Cmd.quiet : Cmd → Bool
  | .malloc | .memset _ | .store _ _ | .free _ | .setNext _ _ | .setPrev _ _ => false
  | _ => true

theorem respond_quiet {c : Cmd} {a : Reply} {v : c.Val} (hc : c.quiet = true)
    (h : respond c a s = some (v, s')) : s'.events = s.events ∧ s'.nodes = s.nodes := by
  cases c with
  | malloc | memset | store | free | setNext | setPrev => cases hc
  | load | loadEfd | getNext | getPrev | mallocEe | fdCall | read | log | storePoller | epollCtl
  | close =>
      obtain ⟨-, rfl⟩ := Prod.mk.inj (Option.some.inj h)
      exact ⟨rfl, rfl⟩
  | loadPoller | deref | call | callWrite =>
      obtain ⟨_, -, hs'⟩ := Option.map_eq_some_iff.mp h
      obtain ⟨-, rfl⟩ := Prod.mk.inj hs'
      exact ⟨rfl, rfl⟩
  | epollCreate | epollWait | socket | accept =>
      simp only [respond] at h
      grind
  | fault => cases h

theorem writesLive_of_none {c : Cmd} (hc : c.writesThrough = none) : WritesLive p c s := by
  simp [WritesLive, hc]

theorem writesLive_elist {c : Cmd} (hc : c.writesThrough = some (.elist p)) :
    WritesLive p c s := by
  simp [WritesLive, hc]

/-- A command that changes neither events nor list cells keeps what is said of these only. -/
theorem runs_quiet {c : Cmd} {I : Shared → Prop}
    (hI : ∀ s', s'.events = s.events → s'.nodes = s.nodes → I s') (hc : c.quiet = true)
    (hanswer : ∃ a v s', respond c a s = some (v, s')) :
    Runs p (fun _ => I) (perform c) s := by
  have hwrites : c.writesThrough = none := by
    cases c with
    | setNext | setPrev => cases hc
    | _ => rfl
  refine Prog.along_perform (writesLive_of_none hwrites) hanswer ?_
  intro a v s' hresp
  obtain ⟨hevents, hnodes⟩ := respond_quiet hc hresp
  exact hI s' hevents hnodes

instance : Nonempty Reply := ⟨{}⟩

/-- A command that only looks, and what follows. -/
theorem runs_bind_of_look {β : Type} {Q : β → Shared → Prop} {c : Cmd} {f : c.Val → Code β}
    {v : c.Val} (hc : c.writesThrough = none) (hresp : ∀ a, respond c a s = some (v, s))
    (hf : Runs p Q (f v) s) : Runs p Q (perform c >>= f) s := by
  have hlook : Runs p (fun v' s' => v' = v ∧ s' = s) (perform c) s :=
    Prog.along_perform_of_eq (writesLive_of_none hc) hresp ⟨rfl, rfl⟩
  refine hlook.bind ?_
  rintro _ _ ⟨rfl, rfl⟩
  exact hf

namespace Holds

/-- The node of the event may be assigned through. -/
theorem writesLive (h : Holds ge s₀ ev l s) {c : Cmd}
    (hc : c.writesThrough = some (.node ge)) : WritesLive p c s := by
  simp [WritesLive, hc, h.event]

theorem quiet (h : Holds ge s₀ ev l s) {c : Cmd} (hc : c.quiet = true)
    (hanswer : ∃ a v s', respond c a s = some (v, s')) :
    Runs p (fun _ => Holds ge s₀ ev l) (perform c) s :=
  runs_quiet (fun _ => h.of_eq) hc hanswer

theorem store (h : Holds ge s₀ ev l s) (w : EventWrite) :
    Runs p (fun _ => Holds ge s₀ (w.apply ev) l) (perform (.store ge w)) s :=
  Prog.along_perform_of_eq (writesLive_of_none rfl) (fun _ => rfl) (h.setEvent w.apply)

theorem memset (h : Holds ge s₀ ev l s) :
    Runs p (fun _ => Holds ge s₀ .zero ⟨.null, .null⟩) (perform (.memset ge)) s :=
  Prog.along_perform_of_eq (writesLive_of_none rfl) (fun _ => rfl)
    ((h.setEvent fun _ => .zero).setNode fun _ => ⟨.null, .null⟩)

theorem setNext (h : Holds ge s₀ ev l s) (v : NodeAddr) :
    Runs p (fun _ => Holds ge s₀ ev { l with next := v }) (perform (.setNext (.node ge) v)) s :=
  Prog.along_perform_of_eq (h.writesLive rfl) (fun _ => rfl)
    (h.setNode fun l => { l with next := v })

theorem setPrev (h : Holds ge s₀ ev l s) (v : NodeAddr) :
    Runs p (fun _ => Holds ge s₀ ev { l with prev := v }) (perform (.setPrev (.node ge) v)) s :=
  Prog.along_perform_of_eq (h.writesLive rfl) (fun _ => rfl)
    (h.setNode fun l => { l with prev := v })

theorem setNext_elist (h : Holds ge s₀ ev l s) (v : NodeAddr) :
    Runs p (fun _ => Holds ge s₀ ev l) (perform (.setNext (.elist p) v)) s :=
  Prog.along_perform_of_eq (writesLive_elist rfl) (fun _ => rfl)
    (h.setElist fun l => { l with next := v })

theorem setPrev_elist (h : Holds ge s₀ ev l s) (v : NodeAddr) :
    Runs p (fun _ => Holds ge s₀ ev l) (perform (.setPrev (.elist p) v)) s :=
  Prog.along_perform_of_eq (writesLive_elist rfl) (fun _ => rfl)
    (h.setElist fun l => { l with prev := v })

section Reads

variable {β : Type} {Q : β → Shared → Prop}

theorem load_bind (h : Holds ge s₀ ev l s) {f : EventMem → Code β} (hf : Runs p Q (f ev) s) :
    Runs p Q (perform (.load ge) >>= f) s :=
  runs_bind_of_look rfl (by simp [respond, h.event]) hf

theorem getNext_bind (h : Holds ge s₀ ev l s) {f : NodeAddr → Code β}
    (hf : Runs p Q (f l.next) s) : Runs p Q (perform (.getNext (.node ge)) >>= f) s :=
  runs_bind_of_look rfl (by simp [respond, h.node]) hf

theorem getPrev_bind (h : Holds ge s₀ ev l s) {f : NodeAddr → Code β}
    (hf : Runs p Q (f l.prev) s) : Runs p Q (perform (.getPrev (.node ge)) >>= f) s :=
  runs_bind_of_look rfl (by simp [respond, h.node]) hf

end Reads

/-! ## The functions -/

theorem initListHead (h : Holds ge s₀ ev l s) :
    Runs p (fun _ => Holds ge s₀ ev ⟨.node ge, .node ge⟩) (initListHead (.node ge)) s := by
  refine (h.setNext _).bind ?_
  intro _ s h
  exact h.setPrev _

/-- **The node takes the place of the head.**  The new event ends up with both pointers on
the list of the poller, whatever the list held. -/
theorem listAdd (h : Holds ge s₀ ev ⟨.node ge, .node ge⟩ s) :
    Runs p (fun _ => Holds ge s₀ ev (ring p)) (listAdd (.elist p) (.node ge)) s := by
  refine h.getNext_bind ?_
  refine (h.setPrev _).bind ?_
  intro _ s h
  refine (h.setNext_elist _).bind ?_
  intro _ s h
  refine (h.setPrev_elist _).bind ?_
  intro _ s h
  exact h.setNext _

/-- What `list_del` assigns through was read from the event itself. -/
theorem listDel (h : Holds ge s₀ ev (ring p) s) :
    Runs p (fun _ => Holds ge s₀ ev ⟨.listPoison1, .listPoison2⟩) (listDel (.node ge)) s := by
  refine h.getPrev_bind ?_
  refine h.getNext_bind ?_
  have hdel : Runs p (fun _ => Holds ge s₀ ev (ring p)) (rawListDel (.elist p) (.elist p)) s := by
    refine (h.setPrev_elist _).bind ?_
    intro _ s h
    exact h.setNext_elist _
  refine hdel.bind ?_
  intro _ s h
  refine (h.setNext _).bind ?_
  intro _ s h
  exact h.setPrev _

theorem pollerCtl (h : Holds ge s₀ ev l s) (func : String) (line : ℕ) (op : EpollOp) :
    Runs p (fun _ => Holds ge s₀ ev l) (pollerCtl func line op ge (some p)) s := by
  refine h.load_bind ?_
  refine (h.quiet rfl ⟨{}, _, _, rfl⟩).bind ?_
  intro gpoller s h
  refine (h.quiet rfl ⟨{}, _, _, rfl⟩).bind ?_
  intro failed s h
  cases failed with
  | none => exact h
  | some errnum =>
      refine (h.quiet rfl ⟨{}, _, _, rfl⟩).bind ?_
      intro gpoller s h
      refine (h.quiet rfl ⟨{}, _, _, rfl⟩).bind ?_
      intro _ s h
      exact h

/-- `gt_poller_event_start` leaves the node alone, and the poller of the event. -/
theorem gtPollerEventStart (h : Holds ge s₀ ev l s) (hp : ev.gpoller = some p)
    (eflag : BitVec 32) :
    Runs p (fun _ s' => ∃ ev', Holds ge s₀ ev' l s' ∧ ev'.gpoller = some p)
      (gtPollerEventStart eflag ge) s := by
  refine h.load_bind ?_
  refine h.load_bind ?_
  refine h.load_bind ?_
  rw [hp]
  split
  · exact ⟨ev, h, hp⟩
  · refine h.load_bind ?_
    refine (h.store _).bind ?_
    intro _ s h
    refine (h.store _).bind ?_
    intro _ s h
    exact (h.pollerCtl _ _ _).mono fun _ s h => ⟨_, h, hp⟩

/-- `gt_poller_event_stop` does, too. -/
theorem gtPollerEventStop (h : Holds ge s₀ ev l s) (hp : ev.gpoller = some p)
    (eflag : BitVec 32) :
    Runs p (fun _ s' => ∃ ev', Holds ge s₀ ev' l s' ∧ ev'.gpoller = some p)
      (gtPollerEventStop eflag ge) s := by
  refine h.load_bind ?_
  refine h.load_bind ?_
  refine h.load_bind ?_
  rw [hp]
  split
  · exact ⟨ev, h, hp⟩
  · refine h.load_bind ?_
    refine (h.store _).bind ?_
    intro _ s h
    exact (h.pollerCtl _ _ _).mono fun _ s h => ⟨_, h, hp⟩

/-- A call may end when the pointers of its event name the list. -/
theorem spokes (h : Holds ge s₀ ev (ring p) s) (hp : ev.gpoller = some p) (h₀ : Spokes s₀) :
    Spokes s where
  elist := h.elist
  node ge' ev' q hev' hq := by
    rw [h.events] at hev'
    by_cases hge : ge' = ge
    · subst hge
      rw [Function.update_self] at hev'
      obtain rfl := Option.some.inj hev'
      obtain rfl : p = q := Option.some.inj (hp.symm.trans hq)
      exact h.node
    · rw [Function.update_of_ne hge] at hev'
      exact (h.others ge' hge).trans (h₀.node ge' ev' q hev' hq)

theorem free (h : Holds ge s₀ ev l s) (h₀ : Spokes s₀) :
    Runs p (fun _ => Spokes) (perform (.free ge)) s := by
  refine Prog.along_perform_of_eq (writesLive_of_none rfl) (fun _ => rfl) ⟨?_, ?_⟩
  · simpa using h.elist
  · intro ge' ev' q hev' hq
    have hge : ge' ≠ ge := by
      rintro rfl
      simp at hev'
    simp only [ne_eq, hge, not_false_eq_true, Function.update_of_ne, h.events] at hev'
    simpa [hge] using (h.others ge' hge).trans (h₀.node ge' ev' q hev' hq)

end Holds

namespace Spokes

theorem of_eq (h : Spokes s) (hevents : s'.events = s.events) (hnodes : s'.nodes = s.nodes) :
    Spokes s' where
  elist := hnodes ▸ h.elist
  node := hevents ▸ hnodes ▸ h.node

theorem setElist (h : Spokes s) (f : Link NodeAddr → Link NodeAddr) :
    Spokes (s.setNode (.elist p) f) where
  elist q := setNode_ne_none (h.elist q) _ f
  node ge ev q hev hq := by simpa [Shared.setNode] using h.node ge ev q hev hq

/-- The event that is handed in. -/
theorem holds (h : Spokes s) (hev : s.events ge = some ev) (hp : ev.gpoller = some p) :
    Holds ge s ev (ring p) s where
  events := by rw [← hev, Function.update_eq_self]
  node := h.node ge ev p hev hp
  elist := h.elist
  others _ _ := rfl

theorem quiet (h : Spokes s) {c : Cmd} (hc : c.quiet = true)
    (hanswer : ∃ a v s', respond c a s = some (v, s')) :
    Runs p (fun _ => Spokes) (perform c) s :=
  runs_quiet (fun _ => h.of_eq) hc hanswer

/-- `malloc` returns nothing, or memory that is no event yet. -/
theorem malloc (h : Spokes s) :
    Runs p (fun r s' => (r = none ∧ Spokes s') ∨ ∃ ge ev l, r = some ge ∧ Holds ge s ev l s')
      (perform .malloc) s := by
  refine Prog.along_perform (writesLive_of_none rfl) ⟨{}, _, _, rfl⟩ ?_
  intro a v s' hresp
  rcases respond_malloc hresp with ⟨rfl, rfl⟩ | ⟨ge, rfl, -, rfl⟩
  · exact .inl ⟨rfl, h⟩
  · refine .inr ⟨ge, a.mem, ⟨a.addr, a.addr⟩, rfl, rfl, ?_, ?_, ?_⟩
    · exact Function.update_self _ _ _
    · simpa using h.elist
    · intro ge' hne
      simp [hne]

/-- `gt_poller_gevent_create`. -/
theorem gtPollerGeventCreate (h : Spokes s) (efd : ℤ) :
    Runs p (fun _ => Spokes) (gtPollerGeventCreate efd p) s := by
  refine h.malloc.bind ?_
  rintro _ s' (⟨rfl, h'⟩ | ⟨ge, ev, l, rfl, h'⟩)
  · exact (h'.quiet rfl ⟨{}, _, _, rfl⟩).bind fun _ _ h => h
  · refine h'.memset.bind ?_
    intro _ s' h'
    refine (h'.store _).bind ?_
    intro _ s' h'
    refine h'.initListHead.bind ?_
    intro _ s' h'
    refine h'.listAdd.bind ?_
    intro _ s' h'
    refine (h'.store _).bind ?_
    intro _ s' h'
    exact h'.spokes rfl h

/-- `gt_poller_gevent_destroy`, of an event on the poller. -/
theorem gtPollerGeventDestroy (h : Spokes s) (hev : s.events ge = some ev)
    (hp : ev.gpoller = some p) : Runs p (fun _ => Spokes) (gtPollerGeventDestroy ge) s := by
  have h' := h.holds hev hp
  refine h'.load_bind ?_
  refine (h'.gtPollerEventStop hp _).bind ?_
  rintro _ s' ⟨ev', h', -⟩
  refine h'.listDel.bind ?_
  intro _ s' h'
  refine h'.load_bind ?_
  refine (h'.quiet rfl ⟨{}, _, _, rfl⟩).bind ?_
  intro _ s' h'
  exact h'.free h

theorem initListHead (h : Spokes s) :
    Runs p (fun _ => Spokes) (initListHead (.elist p)) s := by
  refine (Prog.along_perform_of_eq (Q := fun _ => Spokes) (writesLive_elist rfl) (fun _ => rfl)
    (h.setElist _)).bind ?_
  intro _ s h
  exact Prog.along_perform_of_eq (writesLive_elist rfl) (fun _ => rfl) (h.setElist _)

/-- `gt_poller_init`. -/
theorem gtPollerInit (h : Spokes s) (maxe timeout : ℤ) :
    Runs p (fun _ => Spokes) (gtPollerInit maxe timeout p) s := by
  refine (h.quiet rfl ⟨{}, _, _, rfl⟩).bind ?_
  intro _ s h
  refine (h.quiet rfl ⟨{}, _, _, rfl⟩).bind ?_
  intro _ s h
  refine (h.quiet rfl ⟨{ err := some 0 }, _, _, rfl⟩).bind ?_
  intro created s h
  refine (h.quiet rfl ⟨{}, _, _, rfl⟩).bind ?_
  intro _ s h
  refine (h.quiet rfl ⟨{}, _, _, rfl⟩).bind ?_
  intro gpoller s h
  split
  · refine (h.quiet rfl ⟨{}, _, _, rfl⟩).bind ?_
    intro gpoller s h
    exact (h.quiet rfl ⟨{}, _, _, rfl⟩).bind fun _ _ h => h
  · refine (h.quiet rfl ⟨{}, _, _, rfl⟩).bind ?_
    intro ee s h
    refine (h.quiet rfl ⟨{}, _, _, rfl⟩).bind ?_
    intro _ s h
    refine (h.quiet rfl ⟨{}, _, _, rfl⟩).bind ?_
    intro gpoller s h
    split
    · exact h.initListHead.bind fun _ _ h => h
    · exact (h.quiet rfl ⟨{}, _, _, rfl⟩).bind fun _ _ h => h

/-! ## The calls in any order -/

/-- **One call** keeps the invariant. -/
theorem call (h : Spokes s) {c : ElistCall} (hc : c.Legal p s) :
    Runs p (fun _ => Spokes) (c.code p) s := by
  cases c with
  | init maxe timeout => exact (h.gtPollerInit maxe timeout).bind fun _ _ h => h
  | create efd => exact (h.gtPollerGeventCreate efd).bind fun _ _ h => h
  | destroy ge =>
      obtain ⟨ev, hev, hp⟩ := hc ge rfl
      exact h.gtPollerGeventDestroy hev hp
  | start eflag ge =>
      obtain ⟨ev, hev, hp⟩ := hc ge rfl
      refine ((h.holds hev hp).gtPollerEventStart hp eflag).bind ?_
      rintro _ s' ⟨ev', h', hp'⟩
      exact h'.spokes hp' h
  | stop eflag ge =>
      obtain ⟨ev, hev, hp⟩ := hc ge rfl
      refine ((h.holds hev hp).gtPollerEventStop hp eflag).bind ?_
      rintro _ s' ⟨ev', h', hp'⟩
      exact h'.spokes hp' h

/-- So does any sequence of calls. -/
theorem callsWell (calls : List (PollerId × ElistCall)) (h : Spokes s) : CallsWell calls s := by
  induction calls generalizing s with
  | nil => trivial
  | cons call calls ih =>
      intro hc
      exact (h.call hc).mono fun _ _ h => ih h

end Spokes

/-- **No call writes through a stale pointer.**  From a state without events, functions are
called on the pollers in any order, each with an event that was created on its poller and
not destroyed.  With any answers of the environment, everything a call assigns through is the
list of its poller or the node of an event that is there at that moment. -/
theorem elist_writes_live (helist : ∀ p, s.nodes (.elist p) ≠ none)
    (hnew : ∀ ge, s.events ge = none) (calls : List (PollerId × ElistCall)) :
    CallsWell calls s := by
  have hspokes : Spokes s := by
    refine ⟨helist, ?_⟩
    intro ge ev p hev
    rw [hnew ge] at hev
    cases hev
  exact hspokes.callsWell calls

/-- A server that has just booted: events come and go on two pollers. -/
theorem elist_writes_live_boot :
    (∀ p, bootConfig.shared.nodes (.elist p) ≠ none) ∧
      (∀ ge, bootConfig.shared.events ge = none) ∧
      CallsWell [(.core, .init gtCoreMaxevent gtEpollWaitTimeout),
          (.network, .init gtNetworkerMaxevent gtEpollWaitTimeout), (.core, .create 9),
          (.core, .create 10), (.network, .create 11), (.core, .destroy 1), (.core, .create 12),
          (.core, .destroy 2)] bootConfig.shared :=
  ⟨booted_bootConfig.elists, booted_bootConfig.events_eq,
    elist_writes_live booted_bootConfig.elists booted_bootConfig.events_eq _⟩

/-- When the phase functions have returned, there is an event on the core poller. -/
example : ((threadSystem.system.execAll bootConfig startSchedule).any fun c =>
    decide ((c.shared.events 1).bind EventMem.gpoller = some .core)) = true := by
  decide +kernel

end GuitarTea.Threads
