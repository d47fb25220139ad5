import GuitarTea.Poller
import GuitarTea.Lib.GuardedSystem

/-!
# The list of a poller's events

`elist` is meant to hold the events of a poller that were created and not yet
destroyed.  `gt_poller_gevent_create` passes the arguments of `list_add` in the
wrong order: the poller's list is inserted into the ring of the new event, so the
list forgets the events it held.  `gt_poller_gevent_destroy` then unlinks an event
whose two neighbours are the list, which empties the list whatever it holds.

`ListsLive` is what the list is for.  It holds along a run exactly when no event
is created while another one is live.  What does hold along every run is `Star`:
each live event points to the list and to nothing else, and the list points to
itself or to a live event, so no pointer ever leads to a freed event.

## Main definitions

* `ListOp`, `listSystem` — calls on the events of one poller.
* `ListsLive` — the list holds the live events, in both directions.
* `Star` — the shape the list really has.
-/

namespace GuitarTea

/-- A call on the events of a poller, with what `malloc` or `epoll_ctl` answers. -/
inductive ListOp
  | create (malloc : Option EventPtr) (efd : ℤ)
  | destroy (ctl : Option Errno) (ge : EventPtr)
  deriving DecidableEq, Repr

/-- Creations and destructions on one poller: `malloc` returns an address that is
not in use, and an event is destroyed once, after it was created. -/
def listSystem (p : PollerId) : GuardedSystem World ListOp where
  legal w
    | .create malloc _ => ∀ ge ∈ malloc, w.events ge = none
    | .destroy _ ge => w.LiveOn p ge
  exec w
    | .create malloc efd => (gtPollerGeventCreate malloc efd p w).map Prod.snd
    | .destroy ctl ge => gtPollerGeventDestroy ctl ge w

/-- Walking `elist` along `next` visits the live events of the poller, each once,
walking along `prev` visits them in reverse, and `list_empty` tells whether there
are any. -/
structure ListsLive (p : PollerId) (w : World) : Prop where
  traversal : ∃ fuel xs, listForEach (.elist p) w.nodes fuel = some xs ∧
    listForEachPrev (.elist p) w.nodes fuel = some xs.reverse ∧ xs.Nodup ∧
    ∀ a, a ∈ xs ↔ ∃ ge, a = .node ge ∧ w.LiveOn p ge
  empty_iff : listEmpty (.elist p) w.nodes = some true ↔ ∀ ge, ¬ w.LiveOn p ge

/-! ## The shape of the list -/

/-- The live events point to the list, and the list to itself or to one of them. -/
structure Star (p : PollerId) (w : World) : Prop where
  links : ∀ ge, w.LiveOn p ge → w.nodes (.node ge) = some ⟨.elist p, .elist p⟩
  head : w.nodes (.elist p) = some ⟨.elist p, .elist p⟩ ∨
    ∃ ge, w.LiveOn p ge ∧ w.nodes (.elist p) = some ⟨.node ge, .node ge⟩

/-- The cell of the list exists. -/
theorem Star.exists_head {p : PollerId} {w : World} (h : Star p w) :
    ∃ l, w.nodes (.elist p) = some l := by
  rcases h.head with hself | ⟨ge, -, hge⟩
  · exact ⟨_, hself⟩
  · exact ⟨_, hge⟩

/-- A creation, on this poller or another, keeps the shape. -/
theorem Star.create {p : PollerId} {w w' : World} {ge : EventPtr} {ev : GtEvent} (h : Star p w)
    (hfresh : w.events ge = none) (hevents : w'.events = Function.update w.events ge (some ev))
    (hnodes : w'.nodes = Function.update
      (Function.update w.nodes (.node ge) (some ⟨.elist ev.gpoller, .elist ev.gpoller⟩))
      (.elist ev.gpoller) (some ⟨.node ge, .node ge⟩)) : Star p w' := by
  have hlive := World.liveOn_update_some hevents p
  constructor
  · intro g hg
    rcases (hlive g).mp hg with ⟨rfl, rfl⟩ | ⟨hne, hold⟩
    · simp [hnodes]
    · simpa [hnodes, hne] using h.links g hold
  · by_cases hp : ev.gpoller = p
    · subst hp
      exact .inr ⟨ge, (hlive ge).mpr (.inl ⟨rfl, rfl⟩), by simp [hnodes]⟩
    · have hp' : p ≠ ev.gpoller := Ne.symm hp
      rcases h.head with hself | ⟨g, hg, hhead⟩
      · exact .inl (by simpa [hnodes, hp'] using hself)
      · have hne : g ≠ ge := by
          rintro rfl
          exact World.not_liveOn_of_none hfresh p hg
        exact .inr ⟨g, (hlive g).mpr (.inr ⟨hne, hg⟩), by simpa [hnodes, hp'] using hhead⟩

/-- A destruction, of an event of this poller or another, keeps the shape. -/
theorem Star.destroy {p q : PollerId} {w w' : World} {ge : EventPtr} (h : Star p w)
    (hge : w.LiveOn q ge) (hevents : w'.events = Function.update w.events ge none)
    (hnodes : w'.nodes = Function.update (Function.update w.nodes (.elist q)
      (some ⟨.elist q, .elist q⟩)) (.node ge) none) : Star p w' := by
  have hlive := World.liveOn_update_none hevents p
  constructor
  · intro g hg
    obtain ⟨hne, hold⟩ := (hlive g).mp hg
    simpa [hnodes, hne] using h.links g hold
  · by_cases hpq : p = q
    · subst hpq
      exact .inl (by simp [hnodes])
    · rcases h.head with hself | ⟨g, hg, hhead⟩
      · exact .inl (by simpa [hnodes, hpq] using hself)
      · have hne : g ≠ ge := by
          rintro rfl
          obtain ⟨ev, hev, hp⟩ := hg
          obtain ⟨ev', hev', hq⟩ := hge
          rw [hev] at hev'
          cases hev'
          exact hpq (hp.symm.trans hq)
        exact .inr ⟨g, (hlive g).mpr ⟨hne, hg⟩, by simpa [hnodes, hpq] using hhead⟩

/-- On a poller of this shape every live event can be destroyed. -/
theorem Star.exists_destroy {p : PollerId} {w : World} {ge : EventPtr} {ev : GtEvent}
    (h : Star p w) (hev : w.events ge = some ev) (hp : ev.gpoller = p) (ctl : Option Errno) :
    ∃ w', gtPollerGeventDestroy ctl ge w = some w' ∧ w'.pollers = w.pollers ∧
      w'.events = Function.update w.events ge none ∧
      w'.nodes = Function.update (Function.update w.nodes (.elist p)
        (some ⟨.elist p, .elist p⟩)) (.node ge) none ∧
      ∃ k, Kernel.SameBut ev.efd w.kernel k ∧ w'.kernel = k.close ev.efd := by
  obtain ⟨l, hl⟩ := h.exists_head
  have hnode := h.links ge ⟨ev, hev, hp⟩
  subst hp
  exact exists_gtPollerGeventDestroy hev hnode hl ctl

/-! ## When the list holds the live events -/

/-- No event, or a single one that the list points to. -/
inductive AtMostOne (p : PollerId) (w : World) : Prop
  | none (hlive : ∀ g, ¬ w.LiveOn p g)
      (hhead : w.nodes (.elist p) = some ⟨.elist p, .elist p⟩)
  | one (ge : EventPtr) (hlive : ∀ g, w.LiveOn p g ↔ g = ge)
      (hhead : w.nodes (.elist p) = some ⟨.node ge, .node ge⟩)
      (hnode : w.nodes (.node ge) = some ⟨.elist p, .elist p⟩)

theorem AtMostOne.congr {p : PollerId} {w w' : World} (h : AtMostOne p w)
    (hevents : w'.events = w.events) (hnodes : w'.nodes = w.nodes) : AtMostOne p w' := by
  have hlive : ∀ g, w'.LiveOn p g ↔ w.LiveOn p g := by
    intro g
    simp only [World.LiveOn, hevents]
  cases h with
  | none hold hhead => exact .none (by simpa only [hlive] using hold) (by rwa [hnodes])
  | one ge hold hhead hnode =>
      exact .one ge (by simpa only [hlive] using hold) (by rwa [hnodes]) (by rwa [hnodes])

theorem AtMostOne.star {p : PollerId} {w : World} (h : AtMostOne p w) : Star p w := by
  cases h with
  | none hlive hhead => exact ⟨fun g hg => absurd hg (hlive g), .inl hhead⟩
  | one ge hlive hhead hnode =>
      refine ⟨?_, .inr ⟨ge, (hlive ge).mpr rfl, hhead⟩⟩
      intro g hg
      rwa [(hlive g).mp hg]

/-- With at most one event, the list is right. -/
theorem AtMostOne.listsLive {p : PollerId} {w : World} (h : AtMostOne p w) : ListsLive p w := by
  cases h with
  | none hlive hhead =>
      obtain ⟨hnext, hprev⟩ := listForEach_of_self hhead
      refine ⟨⟨1, [], hnext, hprev, List.nodup_nil, by simp [hlive]⟩, ?_⟩
      simp [listEmpty, LinkHeap.next?, hhead, hlive]
  | one ge hlive hhead hnode =>
      obtain ⟨hnext, hprev⟩ := listForEach_of_pair (by simp) hhead hnode
      refine ⟨⟨2, [.node ge], hnext, hprev, List.nodup_singleton _, ?_⟩, ?_⟩
      · simp [hlive]
      · simp [listEmpty, LinkHeap.next?, hhead, hlive]

/-- The list never holds two events: a second live event is missed. -/
theorem not_listsLive_of_two {p : PollerId} {w : World} {g ge : EventPtr} (hne : g ≠ ge)
    (hg : w.LiveOn p g) (hhead : w.nodes (.elist p) = some ⟨.node ge, .node ge⟩)
    (hnode : w.nodes (.node ge) = some ⟨.elist p, .elist p⟩) : ¬ ListsLive p w := by
  intro h
  obtain ⟨fuel, xs, hnext, -, -, hmem⟩ := h.traversal
  have hpair := (listForEach_of_pair (by simp) hhead hnode).1
  simp only [listForEach, LinkHeap.next?_of_eq hhead, Option.bind_some] at hnext hpair
  have hxs : xs = [.node ge] := LinkHeap.walk_unique hnext hpair
  have hin : NodeAddr.node g ∈ xs := (hmem _).mpr ⟨g, rfl, hg⟩
  rw [hxs] at hin
  exact hne (by simpa using hin)

/-- The condition on a call: an event is only created while none is live. -/
def CreatesAlone (p : PollerId) (w : World) : ListOp → Prop
  | .create (some _) _ => ∀ g, ¬ w.LiveOn p g
  | _ => True

/-- One call that meets the condition. -/
theorem atMostOne_step {p : PollerId} {w : World} {op : ListOp} (h : AtMostOne p w)
    (hlegal : (listSystem p).legal w op) (hc : CreatesAlone p w op) :
    ∃ w', (listSystem p).exec w op = some w' ∧ ListsLive p w' ∧ AtMostOne p w' := by
  suffices hs : ∃ w', (listSystem p).exec w op = some w' ∧ AtMostOne p w' by
    obtain ⟨w', hw', h'⟩ := hs
    exact ⟨w', hw', h'.listsLive, h'⟩
  cases op with
  | create malloc efd =>
      cases malloc with
      | none => exact ⟨_, rfl, h.congr rfl rfl⟩
      | some ge =>
          obtain ⟨l, hl⟩ := h.star.exists_head
          refine ⟨_, by simp only [listSystem, gtPollerGeventCreate_some hl]; rfl, ?_⟩
          refine .one ge ?_ (by simp) (by simp)
          intro g
          rw [@World.liveOn_update_some w _ ge ⟨efd, ⟨none, none⟩, ⟨0, none⟩, p⟩ rfl]
          simp [hc g]
  | destroy ctl ge =>
      obtain ⟨ev, hev, hp⟩ := hlegal
      obtain ⟨w', hrun, -, hevents, hnodes, -⟩ := h.star.exists_destroy hev hp ctl
      refine ⟨w', hrun, .none ?_ (by simp [hnodes])⟩
      intro g
      rw [World.liveOn_update_none hevents]
      rintro ⟨hne, hg⟩
      cases h with
      | none hlive _ => exact hlive g hg
      | one ge' hlive _ _ =>
          exact hne (((hlive g).mp hg).trans ((hlive ge).mp ⟨ev, hev, hp⟩).symm)

/-- One call that misses the condition loses the events that were live. -/
theorem not_listsLive_step {p : PollerId} {w w' : World} {op : ListOp} (h : AtMostOne p w)
    (hlegal : (listSystem p).legal w op) (hc : ¬ CreatesAlone p w op)
    (hrun : (listSystem p).exec w op = some w') : ¬ ListsLive p w' := by
  cases op with
  | destroy ctl ge => exact absurd trivial hc
  | create malloc efd =>
      cases malloc with
      | none => exact absurd trivial hc
      | some ge =>
          obtain ⟨g, hg⟩ : ∃ g, w.LiveOn p g := by
            simpa [CreatesAlone] using hc
          have hne : g ≠ ge := by
            rintro rfl
            exact World.not_liveOn_of_none (hlegal g rfl) p hg
          obtain ⟨l, hl⟩ := h.star.exists_head
          simp only [listSystem, gtPollerGeventCreate_some hl, Option.map_some,
            Option.some.injEq] at hrun
          subst hrun
          refine not_listsLive_of_two hne ?_ (by simp) (by simp)
          rw [@World.liveOn_update_some w _ ge ⟨efd, ⟨none, none⟩, ⟨0, none⟩, p⟩ rfl]
          exact .inr ⟨hne, hg⟩

/-- **When a poller's list holds its live events.**  Along a run of creations and
destructions on an initialised poller, after every call, exactly when no event is
created while another one is live. -/
theorem elist_listsLive_iff {epollCreate : Except Errno ℤ} {malloc : Bool} {maxe timeout : ℤ}
    {p : PollerId} {w₀ w : World}
    (hinit : gtPollerInit epollCreate malloc maxe timeout p w₀ = some (gtOk, w))
    (hnone : ∀ ge, ¬ w₀.LiveOn p ge) (ops : List ListOp) :
    ListsLive p w ∧ ((listSystem p).Always (fun _ _ w' => ListsLive p w') w ops ↔
      (listSystem p).Meets (CreatesAlone p) w ops) := by
  obtain ⟨hevents, hhead⟩ := nodes_gtPollerInit hinit
  have h : AtMostOne p w := .none (by simpa only [World.LiveOn, hevents] using hnone) hhead
  refine ⟨h.listsLive, ?_⟩
  exact GuardedSystem.always_iff_meets (fun _ _ h hl hc => atMostOne_step h hl hc)
    (fun _ _ _ h hl hc hrun => not_listsLive_step h hl hc hrun) ops w h

/-- The core poller after `gt_core_phase0_func`. -/
def corePollerReady : World :=
  { World.boot with
    pollers := Function.update World.boot.pollers .core ⟨3, true, 32, 50⟩
    nodes := Function.update World.boot.nodes (.elist .core)
      (some ⟨.elist .core, .elist .core⟩)
    kernel := World.boot.kernel.openFile 3 }

theorem gtPollerInit_boot :
    gtPollerInit (.ok 3) true 32 50 .core World.boot = some (gtOk, corePollerReady) := by
  rw [gtPollerInit, if_pos rfl, initListHead_of_eq (l := ⟨.null, .null⟩) rfl]
  rfl

/-- One event, created and destroyed: the list is right after each call. -/
theorem elist_listsLive_single :
    (listSystem .core).Always (fun _ _ w' => ListsLive .core w') corePollerReady
      [.create (some 1) 4, .destroy none 1] := by
  have hnone : ∀ ge, ¬ World.boot.LiveOn .core ge := by
    intro ge
    exact World.not_liveOn_of_none rfl _
  refine ((elist_listsLive_iff gtPollerInit_boot hnone _).2).mpr ?_
  intro _
  refine ⟨hnone, ?_⟩
  intro w _ _
  exact ⟨trivial, fun _ _ => trivial⟩

/-- Two events on one poller: after the second creation the first event is live
and not on the list, and after the second event is destroyed `list_empty` holds
although the first event is still live. -/
theorem second_event_drops_first :
    ∃ w w', (listSystem .core).Run corePollerReady [.create (some 1) 4, .create (some 2) 5] w ∧
      w.LiveOn .core 1 ∧ w.LiveOn .core 2 ∧
      listForEach (.elist .core) w.nodes 2 = some [.node 2] ∧ ¬ ListsLive .core w ∧
      (listSystem .core).Run w [.destroy none 2] w' ∧ w'.LiveOn .core 1 ∧
      listEmpty (.elist .core) w'.nodes = some true ∧ ¬ ListsLive .core w' := by
  let w₁ : World :=
    { corePollerReady with
      events := Function.update corePollerReady.events 1
        (some ⟨4, ⟨none, none⟩, ⟨0, none⟩, .core⟩)
      nodes := Function.update
        (Function.update corePollerReady.nodes (.node 1) (some ⟨.elist .core, .elist .core⟩))
        (.elist .core) (some ⟨.node 1, .node 1⟩) }
  let w₂ : World :=
    { w₁ with
      events := Function.update w₁.events 2 (some ⟨5, ⟨none, none⟩, ⟨0, none⟩, .core⟩)
      nodes := Function.update
        (Function.update w₁.nodes (.node 2) (some ⟨.elist .core, .elist .core⟩))
        (.elist .core) (some ⟨.node 2, .node 2⟩) }
  have hrun₁ : (listSystem .core).exec corePollerReady (.create (some 1) 4) = some w₁ := by
    simp only [listSystem, gtPollerGeventCreate_some (l := ⟨.elist .core, .elist .core⟩)
      (w := corePollerReady) (p := .core) rfl, Option.map_some, w₁]
  have hrun₂ : (listSystem .core).exec w₁ (.create (some 2) 5) = some w₂ := by
    simp only [listSystem, gtPollerGeventCreate_some (l := ⟨.node 1, .node 1⟩) (w := w₁)
      (p := .core) rfl, Option.map_some, w₂]
  have hlive₁ : w₂.LiveOn .core 1 := ⟨_, rfl, rfl⟩
  have hlive₂ : w₂.LiveOn .core 2 := ⟨_, rfl, rfl⟩
  have hev : w₂.events 2 = some ⟨5, ⟨none, none⟩, ⟨0, none⟩, .core⟩ := rfl
  obtain ⟨w', hdestroy, -, hevents, hnodes, -⟩ := exists_gtPollerGeventDestroy
    (l := ⟨.node 2, .node 2⟩) hev rfl rfl none
  have hlive' : w'.LiveOn .core 1 := by
    rw [World.liveOn_update_none hevents]
    exact ⟨by decide, hlive₁⟩
  have hempty : listEmpty (.elist .core) w'.nodes = some true := by
    simp [listEmpty, LinkHeap.next?, hnodes]
  refine ⟨w₂, w', ?_, hlive₁, hlive₂, rfl, ?_, ?_, hlive', hempty, ?_⟩
  · exact .cons (by intro ge hge; cases hge; rfl) hrun₁
      (.cons (by intro ge hge; cases hge; rfl) hrun₂ (.nil _))
  · exact not_listsLive_of_two (by decide : (1 : EventPtr) ≠ 2) hlive₁ rfl rfl
  · exact .cons hlive₂ hdestroy (.nil _)
  · intro h
    exact h.empty_iff.mp hempty 1 hlive'

end GuitarTea
