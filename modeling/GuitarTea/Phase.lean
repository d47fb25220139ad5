import GuitarTea.Log

/-!
# The phases of the start-up

Modules register a function for a phase of the start-up in the table `g_gt_phase`,
and `gt_phase_run` later calls what was registered, phase by phase and within a
phase module by module, until one of the functions fails.

The table is written by `gt_phase_register` alone, which refuses a slot that is
taken, so what a slot holds depends only on the registrations for that slot and
their order.  The run is a nested loop with an early exit; `occupied` is the list
of slots it works through, and `gtPhaseRun_spec` says what it does with that list.

A registered function is a value of an arbitrary type, and a call of it changes an
arbitrary state.

## Main definitions

* `GtPhase`, `GtCmod`, `GtPhaseTable` — the table.
* `gtPhaseRegister`, `gtPhaseRun` — the two functions.
* `occupied` — the slots that hold a function, in the order of the loops.
-/

namespace GuitarTea

/-! ## The table -/

/-- `gt_phase_e`. -/
inductive GtPhase
  | phase0
  | phase1
  | phase2
  | phase3
  deriving DecidableEq, Repr

/-- `gt_cmod_e`. -/
inductive GtCmod
  | core
  | mem
  | signal
  | poller
  | network
  | pthread
  deriving DecidableEq, Repr

/-- The value of an enumerator of `gt_phase_e`. -/
def GtPhase.num : GtPhase → ℕ
  | .phase0 => 0
  | .phase1 => 1
  | .phase2 => 2
  | .phase3 => 3

/-- The value of an enumerator of `gt_cmod_e`. -/
def GtCmod.num : GtCmod → ℕ
  | .core => 0
  | .mem => 1
  | .signal => 2
  | .poller => 3
  | .network => 4
  | .pthread => 5

/-- The member `phase` of `gt_phase_info_t`. -/
def GtPhase.name : GtPhase → String
  | .phase0 => "GT_PHASE_0"
  | .phase1 => "GT_PHASE_1"
  | .phase2 => "GT_PHASE_2"
  | .phase3 => "GT_PHASE_3"

/-- The phases in the order of the outer loop, below `DIM(g_gt_phase)`. -/
def gtPhases : List GtPhase := [.phase0, .phase1, .phase2, .phase3]

/-- The modules in the order of the inner loop, below `GT_CMOD_MAX`. -/
def gtCmods : List GtCmod := [.core, .mem, .signal, .poller, .network, .pthread]

/-- The member `fn` of the entries of `g_gt_phase`; `none` is a null pointer. -/
abbrev GtPhaseTable (F : Type) := GtPhase → GtCmod → Option F

variable {F σ : Type}

/-- `g_gt_phase` as it is initialised. -/
def gGtPhase : GtPhaseTable F := fun _ _ => none

/-- Write a slot. -/
def GtPhaseTable.set (t : GtPhaseTable F) (gphase : GtPhase) (cmod : GtCmod) (fn : Option F) :
    GtPhaseTable F :=
  fun p c => if p = gphase ∧ c = cmod then fn else t p c

/-- `gt_phase_register`: the return code, the table and the logging calls. -/
def gtPhaseRegister (cmod : GtCmod) (gphase : GtPhase) (fn : Option F) (t : GtPhaseTable F) :
    ℤ × GtPhaseTable F × List LogCall :=
  match t gphase cmod with
  | some _ => (gtError, t, [gtErrorLog "gt_phase_register" 40
      [.text "Warning: Phase_fn of the cmod[", .int cmod.num, .text "] at phase[",
        .int gphase.num, .text "] has been registered!"]])
  | none => (gtOk, t.set gphase cmod fn, [])

/-- The arguments of a call of `gt_phase_register`. -/
structure Registration (F : Type) where
  cmod : GtCmod
  gphase : GtPhase
  fn : Option F
  deriving DecidableEq, Repr

/-- The table after one call. -/
def GtPhaseTable.register (t : GtPhaseTable F) (r : Registration F) : GtPhaseTable F :=
  (gtPhaseRegister r.cmod r.gphase r.fn t).2.1

/-- The table after a sequence of calls. -/
def GtPhaseTable.registerAll (t : GtPhaseTable F) (regs : List (Registration F)) :
    GtPhaseTable F :=
  regs.foldl GtPhaseTable.register t

/-! ## The run -/

/-- A call that `gt_phase_run` made, with the value it returned. -/
structure PhaseCall (F : Type) where
  phase : GtPhase
  cmod : GtCmod
  fn : F
  ret : ℤ
  deriving DecidableEq, Repr

/-- The state the phase functions work on, the calls made and the logging calls of
`gt_phase_run` itself. -/
structure PhaseTrace (F σ : Type) where
  state : σ
  calls : List (PhaseCall F)
  log : List LogCall

/-- The line of `gt_phase_run` before a call. -/
def phaseBegins (phase : GtPhase) (cmod : GtCmod) : LogCall :=
  gtInfoLog "gt_phase_run" 83
    [.text "Sys-init phase[", .int phase.num, .text "] cmod[", .int cmod.num, .text "]"]

/-- The line of `gt_phase_run` after a call that failed. -/
def phaseFailed (phase : GtPhase) (cmod : GtCmod) : LogCall :=
  gtErrorLog "gt_phase_run" 87 [.text "Failed to run phase_fn on cmod[", .int cmod.num,
    .text "] at ", .text phase.name, .text "."]

/-- The body of the loops for a slot that holds a function; the result is the value
returned. -/
def phaseCall (call : F → σ → Option (ℤ × σ)) (phase : GtPhase) (cmod : GtCmod) (fn : F)
    (tr : PhaseTrace F σ) : Option (ℤ × PhaseTrace F σ) := do
  let before := phaseBegins phase cmod
  let (ret, state) ← call fn tr.state
  let after := if gtOk ≠ ret then [phaseFailed phase cmod] else []
  some (ret, ⟨state, tr.calls ++ [⟨phase, cmod, fn, ret⟩], tr.log ++ before :: after⟩)

/-- The inner loop of `gt_phase_run`; the result is `gtOk` unless the loop was left. -/
def phaseRunCmods (call : F → σ → Option (ℤ × σ)) (t : GtPhaseTable F) (phase : GtPhase) :
    List GtCmod → PhaseTrace F σ → Option (ℤ × PhaseTrace F σ)
  | [], tr => some (gtOk, tr)
  | cmod :: cmods, tr =>
      match t phase cmod with
      | none => phaseRunCmods call t phase cmods tr
      | some fn => do
          let (ret, tr) ← phaseCall call phase cmod fn tr
          if gtOk ≠ ret then some (ret, tr) else phaseRunCmods call t phase cmods tr

/-- The outer loop of `gt_phase_run`. -/
def phaseRunPhases (call : F → σ → Option (ℤ × σ)) (t : GtPhaseTable F) :
    List GtPhase → PhaseTrace F σ → Option (ℤ × PhaseTrace F σ)
  | [], tr => some (gtOk, tr)
  | phase :: phases, tr => do
      let (ret, tr) ← phaseRunCmods call t phase gtCmods tr
      if gtOk ≠ ret then some (ret, tr) else phaseRunPhases call t phases tr

/-- `gt_phase_run`, where `call` is what a registered function does; `none` when one of
them does not return. -/
def gtPhaseRun (call : F → σ → Option (ℤ × σ)) (t : GtPhaseTable F) (s : σ) :
    Option (ℤ × PhaseTrace F σ) :=
  phaseRunPhases call t gtPhases ⟨s, [], []⟩

/-! ## What a slot holds -/

/-- The function a registration offers to a slot. -/
def Registration.offers (r : Registration F) (gphase : GtPhase) (cmod : GtCmod) : Option F :=
  if r.gphase = gphase ∧ r.cmod = cmod then r.fn else none

/-- A slot that is taken refuses: `GT_ERROR`, and the table stays. -/
theorem gtPhaseRegister_taken {t : GtPhaseTable F} {cmod : GtCmod} {gphase : GtPhase} {held : F}
    (h : t gphase cmod = some held) (fn : Option F) :
    (gtPhaseRegister cmod gphase fn t).1 = gtError ∧
      (gtPhaseRegister cmod gphase fn t).2.1 = t := by
  simp [gtPhaseRegister, h]

/-- A slot that is free accepts. -/
theorem gtPhaseRegister_free {t : GtPhaseTable F} {cmod : GtCmod} {gphase : GtPhase}
    (h : t gphase cmod = none) (fn : Option F) :
    gtPhaseRegister cmod gphase fn t = (gtOk, t.set gphase cmod fn, []) := by
  simp [gtPhaseRegister, h]

/-- One registration: a slot keeps what it holds, or takes what it is offered. -/
theorem register_apply (t : GtPhaseTable F) (r : Registration F) (p : GtPhase) (c : GtCmod) :
    t.register r p c = (t p c).or (r.offers p c) := by
  cases hheld : t r.gphase r.cmod with
  | some held =>
      rw [GtPhaseTable.register, (gtPhaseRegister_taken hheld r.fn).2, Registration.offers]
      split
      · rename_i hslot
        obtain ⟨rfl, rfl⟩ := hslot
        simp [hheld]
      · simp
  | none =>
      rw [GtPhaseTable.register, gtPhaseRegister_free hheld, Registration.offers]
      simp only [GtPhaseTable.set]
      by_cases hslot : p = r.gphase ∧ c = r.cmod
      · obtain ⟨rfl, rfl⟩ := hslot
        simp [hheld]
      · have hslot' : ¬ (r.gphase = p ∧ r.cmod = c) := fun h => hslot ⟨h.1.symm, h.2.symm⟩
        simp [hslot, hslot']

/-- **What a slot holds**: what it held, or the first function registered for it. -/
theorem registerAll_apply (regs : List (Registration F)) (t : GtPhaseTable F) (p : GtPhase)
    (c : GtCmod) :
    t.registerAll regs p c = (t p c).or (regs.findSome? fun r => r.offers p c) := by
  induction regs generalizing t with
  | nil => simp [GtPhaseTable.registerAll]
  | cons r regs ih =>
      have hstep : t.registerAll (r :: regs) = (t.register r).registerAll regs := rfl
      rw [hstep, ih, register_apply, List.findSome?_cons]
      cases t p c <;> cases r.offers p c <;> simp

/-- The registrations that concern a slot, in their order. -/
def forSlot (p : GtPhase) (c : GtCmod) (regs : List (Registration F)) : List (Registration F) :=
  regs.filter fun r => r.gphase = p ∧ r.cmod = c

/-- Registrations for other slots offer nothing. -/
theorem findSome?_forSlot (p : GtPhase) (c : GtCmod) (regs : List (Registration F)) :
    (forSlot p c regs).findSome? (fun r => r.offers p c) =
      regs.findSome? fun r => r.offers p c := by
  induction regs with
  | nil => rfl
  | cons r regs ih =>
      by_cases hr : r.gphase = p ∧ r.cmod = c
      · have hcons : forSlot p c (r :: regs) = r :: forSlot p c regs := by simp [forSlot, hr]
        rw [hcons, List.findSome?_cons, List.findSome?_cons, ih]
      · have hskip : forSlot p c (r :: regs) = forSlot p c regs := by simp [forSlot, hr]
        rw [hskip, ih, List.findSome?_cons]
        simp [Registration.offers, hr]

/-- Two sequences that agree slot by slot fill the table alike. -/
theorem registerAll_congr {regs regs' : List (Registration F)}
    (h : ∀ p c, forSlot p c regs = forSlot p c regs') (t : GtPhaseTable F) :
    t.registerAll regs = t.registerAll regs' := by
  funext p c
  rw [registerAll_apply, registerAll_apply, ← findSome?_forSlot p c regs, h p c,
    findSome?_forSlot]

/-! ## The slots of a run -/

/-- A slot with the function it holds. -/
structure Slot (F : Type) where
  phase : GtPhase
  cmod : GtCmod
  fn : F
  deriving DecidableEq, Repr

/-- The table with every function in its slot. -/
def GtPhaseTable.slots (t : GtPhaseTable F) : GtPhaseTable (Slot F) := fun phase cmod =>
  (t phase cmod).map fun fn => ⟨phase, cmod, fn⟩

/-- The occupied slots of some modules at a phase. -/
def occupiedAt (t : GtPhaseTable F) (phase : GtPhase) (cmods : List GtCmod) : List (Slot F) :=
  cmods.filterMap fun cmod => (t phase cmod).map fun fn => ⟨phase, cmod, fn⟩

/-- The occupied slots, phase by phase. -/
def occupied (t : GtPhaseTable F) : List (Slot F) :=
  gtPhases.flatMap fun phase => occupiedAt t phase gtCmods

/-- The lexicographic order of slots: by phase, then by module. -/
def Slot.Before (x y : Slot F) : Prop :=
  x.phase.num < y.phase.num ∨ (x.phase = y.phase ∧ x.cmod.num < y.cmod.num)

theorem mem_occupiedAt {t : GtPhaseTable F} {phase : GtPhase} {cmods : List GtCmod}
    {x : Slot F} : x ∈ occupiedAt t phase cmods ↔
      x.cmod ∈ cmods ∧ x.phase = phase ∧ t phase x.cmod = some x.fn := by
  simp only [occupiedAt, List.mem_filterMap, Option.map_eq_some_iff]
  constructor
  · rintro ⟨cmod, hcmod, fn, hfn, rfl⟩
    exact ⟨hcmod, rfl, hfn⟩
  · rintro ⟨hcmod, rfl, hfn⟩
    exact ⟨x.cmod, hcmod, x.fn, hfn, rfl⟩

/-- The list holds the occupied slots and nothing else. -/
theorem mem_occupied (t : GtPhaseTable F) (x : Slot F) :
    x ∈ occupied t ↔ t x.phase x.cmod = some x.fn := by
  have hphase : ∀ p, p ∈ gtPhases := by
    intro p
    cases p <;> decide
  have hcmod : ∀ c, c ∈ gtCmods := by
    intro c
    cases c <;> decide
  simp only [occupied, List.mem_flatMap, mem_occupiedAt]
  constructor
  · rintro ⟨p, -, -, rfl, hfn⟩
    exact hfn
  · intro hfn
    exact ⟨x.phase, hphase _, hcmod _, rfl, hfn⟩

/-- The slots come in lexicographic order, each once. -/
theorem pairwise_occupied (t : GtPhaseTable F) : (occupied t).Pairwise Slot.Before := by
  have hphases : gtPhases.Pairwise fun p q => p.num < q.num := by decide
  have hcmods : gtCmods.Pairwise fun c d => c.num < d.num := by decide
  rw [occupied, List.pairwise_flatMap]
  constructor
  · intro p _
    rw [occupiedAt, List.pairwise_filterMap]
    refine hcmods.imp ?_
    intro c d hlt x hx y hy
    obtain ⟨f, -, rfl⟩ := Option.map_eq_some_iff.mp hx
    obtain ⟨g, -, rfl⟩ := Option.map_eq_some_iff.mp hy
    exact .inr ⟨rfl, hlt⟩
  · refine hphases.imp ?_
    intro p q hlt x hx y hy
    obtain ⟨-, rfl, -⟩ := mem_occupiedAt.mp hx
    obtain ⟨-, rfl, -⟩ := mem_occupiedAt.mp hy
    exact .inl hlt

/-! ## What the run does -/

/-- The slot of a call. -/
def PhaseCall.slot (c : PhaseCall F) : Slot F := ⟨c.phase, c.cmod, c.fn⟩

/-- The calls are made one after the other, from one state to another, and return what
the trace says. -/
def Replays (call : F → σ → ℤ × σ) : σ → List (PhaseCall F) → σ → Prop
  | s, [], s' => s' = s
  | s, c :: cs, s' => ∃ s₁, call c.fn s = (c.ret, s₁) ∧ Replays call s₁ cs s'

/-- What a run over a list of slots does: it calls a part of the slots from the front,
each of which but the last returned `GT_OK`; it goes to the end of the list and
returns `GT_OK`, or stops at the slot that did not and returns its value. -/
structure RunsThrough (call : F → σ → ℤ × σ) (slots : List (Slot F)) (s : σ)
    (calls : List (PhaseCall F)) (ret : ℤ) (s' : σ) : Prop where
  replays : Replays call s calls s'
  called : calls.map PhaseCall.slot <+: slots
  ok_before : ∀ c ∈ calls.dropLast, c.ret = gtOk
  ends : (ret = gtOk ∧ calls.map PhaseCall.slot = slots ∧ ∀ c ∈ calls, c.ret = gtOk) ∨
    (ret ≠ gtOk ∧ ∃ c, calls.getLast? = some c ∧ c.ret = ret)

section Run

variable {call : F → σ → ℤ × σ}

theorem RunsThrough.nil (s : σ) : RunsThrough call [] s [] gtOk s where
  replays := rfl
  called := List.nil_prefix
  ok_before := by simp
  ends := .inl ⟨rfl, rfl, by simp⟩

/-- A slot whose function fails ends the run. -/
theorem RunsThrough.stop {x : Slot F} {s s' : σ} {ret : ℤ} (hcall : call x.fn s = (ret, s'))
    (hret : ret ≠ gtOk) (slots : List (Slot F)) :
    RunsThrough call (x :: slots) s [⟨x.phase, x.cmod, x.fn, ret⟩] ret s' where
  replays := ⟨s', hcall, rfl⟩
  called := by
    rw [List.map_singleton, List.cons_prefix_cons]
    exact ⟨rfl, List.nil_prefix⟩
  ok_before := by simp
  ends := .inr ⟨hret, _, rfl, rfl⟩

/-- A slot whose function succeeds is followed by the rest of the run. -/
theorem RunsThrough.cons {x : Slot F} {slots : List (Slot F)} {s s₁ s' : σ} {ret : ℤ}
    {calls : List (PhaseCall F)} (hcall : call x.fn s = (gtOk, s₁))
    (h : RunsThrough call slots s₁ calls ret s') :
    RunsThrough call (x :: slots) s (⟨x.phase, x.cmod, x.fn, gtOk⟩ :: calls) ret s' where
  replays := ⟨s₁, hcall, h.replays⟩
  called := by
    rw [List.map_cons, List.cons_prefix_cons]
    exact ⟨rfl, h.called⟩
  ok_before := by
    intro c hc
    cases calls with
    | nil => simp at hc
    | cons d ds =>
        rw [List.dropLast_cons_cons, List.mem_cons] at hc
        rcases hc with rfl | hc
        · rfl
        · exact h.ok_before c hc
  ends := by
    rcases h.ends with ⟨rfl, hall, hok⟩ | ⟨hret, c, hlast, hc⟩
    · refine .inl ⟨rfl, by rw [List.map_cons, hall]; rfl, ?_⟩
      rw [List.forall_mem_cons]
      exact ⟨rfl, hok⟩
    · refine .inr ⟨hret, c, ?_, hc⟩
      cases calls with
      | nil => simp at hlast
      | cons d ds => rw [List.getLast?_cons_cons, hlast]

/-- A run that goes through its slots and another one that goes on from there. -/
theorem RunsThrough.append {slots slots' : List (Slot F)} {s s₁ s' : σ} {ret : ℤ}
    {calls calls' : List (PhaseCall F)} (h : RunsThrough call slots s calls gtOk s₁)
    (h' : RunsThrough call slots' s₁ calls' ret s') :
    RunsThrough call (slots ++ slots') s (calls ++ calls') ret s' := by
  induction slots generalizing s calls with
  | nil =>
      obtain rfl : calls = [] := by
        have hle := h.called.length_le
        rw [List.length_map, List.length_nil, Nat.le_zero, List.length_eq_zero_iff] at hle
        exact hle
      obtain rfl : s₁ = s := h.replays
      exact h'
  | cons x slots ih =>
      rcases h.ends with ⟨-, hall, hok⟩ | ⟨hret, -⟩
      · cases calls with
        | nil => simp at hall
        | cons c calls =>
            obtain ⟨hslot, hrest⟩ := List.cons_eq_cons.mp hall
            obtain ⟨hc, hoks⟩ := List.forall_mem_cons.mp hok
            obtain ⟨s₂, hcall, hreplays⟩ := h.replays
            obtain ⟨phase, cmod, fn, ret'⟩ := c
            obtain rfl : ret' = gtOk := hc
            subst hslot
            refine RunsThrough.cons hcall (ih ⟨hreplays, ?_, ?_, .inl ⟨rfl, hrest, hoks⟩⟩)
            · exact hrest ▸ List.prefix_rfl
            · intro c hc
              exact hoks c (List.dropLast_subset _ hc)
      · exact absurd rfl hret

variable (call)

/-- One slot. -/
theorem exists_phaseCall (phase : GtPhase) (cmod : GtCmod) (fn : F) (tr : PhaseTrace F σ) :
    ∃ ret tr', phaseCall (fun fn s => some (call fn s)) phase cmod fn tr = some (ret, tr') ∧
      call fn tr.state = (ret, tr'.state) ∧
      tr'.calls = tr.calls ++ [⟨phase, cmod, fn, ret⟩] :=
  ⟨_, _, rfl, rfl, rfl⟩

/-- The inner loop. -/
theorem exists_phaseRunCmods (t : GtPhaseTable F) (phase : GtPhase) (cmods : List GtCmod)
    (tr : PhaseTrace F σ) :
    ∃ ret tr' calls, phaseRunCmods (fun fn s => some (call fn s)) t phase cmods tr =
      some (ret, tr') ∧ tr'.calls = tr.calls ++ calls ∧
      RunsThrough call (occupiedAt t phase cmods) tr.state calls ret tr'.state := by
  induction cmods generalizing tr with
  | nil => exact ⟨gtOk, tr, [], rfl, by simp, .nil _⟩
  | cons cmod cmods ih =>
      cases hfn : t phase cmod with
      | none =>
          obtain ⟨ret, tr', calls, hrun, hcalls, hthrough⟩ := ih tr
          have hslots : occupiedAt t phase (cmod :: cmods) = occupiedAt t phase cmods := by
            simp [occupiedAt, hfn]
          rw [hslots]
          exact ⟨ret, tr', calls, by rw [phaseRunCmods, hfn]; exact hrun, hcalls, hthrough⟩
      | some fn =>
          have hslots : occupiedAt t phase (cmod :: cmods) =
              ⟨phase, cmod, fn⟩ :: occupiedAt t phase cmods := by
            simp [occupiedAt, hfn]
          rw [hslots]
          obtain ⟨ret, tr₁, htr₁, hcall, hcalls₁⟩ :=
            exists_phaseCall call phase cmod fn tr
          by_cases hret : ret = gtOk
          · subst hret
            obtain ⟨ret, tr', calls, hrun, hcalls, hthrough⟩ := ih tr₁
            refine ⟨ret, tr', ⟨phase, cmod, fn, gtOk⟩ :: calls, ?_, ?_, ?_⟩
            · simp [phaseRunCmods, hfn, htr₁, hrun]
            · rw [hcalls, hcalls₁, List.append_assoc, List.singleton_append]
            · exact RunsThrough.cons (x := ⟨phase, cmod, fn⟩) hcall hthrough
          · refine ⟨ret, tr₁, [⟨phase, cmod, fn, ret⟩], ?_, hcalls₁, ?_⟩
            · simp [phaseRunCmods, hfn, htr₁, Ne.symm hret]
            · exact RunsThrough.stop (x := ⟨phase, cmod, fn⟩) hcall hret _

/-- The outer loop. -/
theorem exists_phaseRunPhases (t : GtPhaseTable F) (phases : List GtPhase)
    (tr : PhaseTrace F σ) :
    ∃ ret tr' calls, phaseRunPhases (fun fn s => some (call fn s)) t phases tr =
      some (ret, tr') ∧ tr'.calls = tr.calls ++ calls ∧
      RunsThrough call (phases.flatMap fun phase => occupiedAt t phase gtCmods) tr.state calls ret
        tr'.state := by
  induction phases generalizing tr with
  | nil => exact ⟨gtOk, tr, [], rfl, by simp, .nil _⟩
  | cons phase phases ih =>
      obtain ⟨ret₁, tr₁, calls₁, hrun₁, hcalls₁, hthrough₁⟩ :=
        exists_phaseRunCmods call t phase gtCmods tr
      rw [List.flatMap_cons]
      by_cases hret : ret₁ = gtOk
      · subst hret
        obtain ⟨ret, tr', calls, hrun, hcalls, hthrough⟩ := ih tr₁
        refine ⟨ret, tr', calls₁ ++ calls, ?_, ?_, hthrough₁.append hthrough⟩
        · simp [phaseRunPhases, hrun₁, hrun]
        · rw [hcalls, hcalls₁, List.append_assoc]
      · refine ⟨ret₁, tr₁, calls₁, ?_, hcalls₁, ?_⟩
        · simp [phaseRunPhases, hrun₁, Ne.symm hret]
        · rcases hthrough₁.ends with ⟨hok, -⟩ | hlast
          · exact absurd hok hret
          · exact ⟨hthrough₁.replays, hthrough₁.called.trans (List.prefix_append _ _),
              hthrough₁.ok_before, .inr hlast⟩

/-- **What `gt_phase_run` does**: it runs through the occupied slots. -/
theorem gtPhaseRun_spec (t : GtPhaseTable F) (s : σ) :
    ∃ ret tr, gtPhaseRun (fun fn s => some (call fn s)) t s = some (ret, tr) ∧
      RunsThrough call (occupied t) s tr.calls ret tr.state := by
  obtain ⟨ret, tr, calls, hrun, hcalls, hthrough⟩ :=
    exists_phaseRunPhases call t gtPhases ⟨s, [], []⟩
  rw [List.nil_append] at hcalls
  exact ⟨ret, tr, hrun, hcalls ▸ hthrough⟩

end Run

/-- **Registrations and the run.**  After any sequence of registrations every slot holds
the first function that was registered for it, and each registration that found its
slot taken returned `GT_ERROR` and changed nothing.  `gt_phase_run` calls the
occupied slots in lexicographic order up to the first that fails, and returns its
value, or `GT_OK`.  Another sequence that has the same registrations for every
slot, in the same order, leads to the same calls and the same result. -/
theorem phase_register_run (regs : List (Registration F)) (call : F → σ → ℤ × σ) (s : σ) :
    (∀ p c, gGtPhase.registerAll regs p c = regs.findSome? fun r => r.offers p c) ∧
    (∀ before r after, regs = before ++ r :: after →
      ∀ held, (before.findSome? fun q => q.offers r.gphase r.cmod) = some held →
      (gtPhaseRegister r.cmod r.gphase r.fn (gGtPhase.registerAll before)).1 = gtError ∧
      (gtPhaseRegister r.cmod r.gphase r.fn (gGtPhase.registerAll before)).2.1 =
        gGtPhase.registerAll before) ∧
    (∃ slots : List (Slot F), slots.Pairwise Slot.Before ∧
      (∀ x : Slot F, x ∈ slots ↔ gGtPhase.registerAll regs x.phase x.cmod = some x.fn) ∧
      ∃ ret tr, gtPhaseRun (fun fn s => some (call fn s)) (gGtPhase.registerAll regs) s =
        some (ret, tr) ∧ RunsThrough call slots s tr.calls ret tr.state) ∧
    ∀ regs' : List (Registration F), (∀ p c, forSlot p c regs = forSlot p c regs') →
      gtPhaseRun (fun fn s => some (call fn s)) (gGtPhase.registerAll regs') s =
        gtPhaseRun (fun fn s => some (call fn s)) (gGtPhase.registerAll regs) s := by
  have hslot : ∀ (rs : List (Registration F)) p c,
      gGtPhase.registerAll rs p c = rs.findSome? fun r => r.offers p c := by
    intro rs p c
    rw [registerAll_apply]
    rfl
  refine ⟨hslot regs, ?_, ?_, ?_⟩
  · intro before r after _ held hheld
    rw [← hslot] at hheld
    exact gtPhaseRegister_taken hheld r.fn
  · exact ⟨occupied _, pairwise_occupied _, mem_occupied _, gtPhaseRun_spec call _ s⟩
  · intro regs' h
    rw [registerAll_congr h]

/-- A second function for a slot is refused, and the order in which the slots of two
modules are registered does not matter. -/
theorem phase_register_run_swapped :
    let signal : Registration ℤ := ⟨.signal, .phase1, some 1⟩
    let core : Registration ℤ := ⟨.core, .phase0, some 0⟩
    let again : Registration ℤ := ⟨.signal, .phase1, some 5⟩
    (gtPhaseRegister .signal .phase1 (some 5) (gGtPhase.registerAll [signal, core])).1 = gtError ∧
    gtPhaseRun (fun fn s => some (fn, s)) (gGtPhase.registerAll [core, signal, again]) () =
      gtPhaseRun (fun fn s => some (fn, s))
        (gGtPhase.registerAll [signal, core, again]) () := by
  intro signal core again
  obtain ⟨-, hrefused, -, hreorder⟩ :=
    phase_register_run [signal, core, again] (fun fn s => (fn, s)) ()
  refine ⟨(hrefused [signal, core] again [] rfl 1 rfl).1, hreorder [core, signal, again] ?_⟩
  intro p c
  cases p <;> cases c <;> rfl

end GuitarTea
