import GuitarTea.Lib.GuardedSystem
import GuitarTea.Lib.Interleaving

/-!
# Sections under a lock

Threads share a memory and a lock, and touch the memory only between taking the lock
and releasing it.  In between they do as many accesses as they like, and the other
threads may run between any two of them.

The abstract system does a whole section in one step.  `Sections.exists_serial` is the
refinement: every interleaving is a run of the abstract system, with each section at
the place where its thread took the lock.

## Main definitions

* `Prog.eval` — a program that runs alone.
* `LockWord` — a lock, given by what its word holds and what the calls do to it.
* `Sections`, `Sections.step`, `Sections.run` — threads with sections, one access at a
  time.
* `Sections.serial` — the same threads, one section at a time.
* `Sections.Matches` — the simulation relation.
-/

/-- Run a program alone: its result and the memory it leaves. -/
def Prog.eval {Cmd : Type} {Val : Cmd → Type} {σ α : Type}
    (access : (c : Cmd) → σ → Val c × σ) : Prog Cmd Val α → σ → α × σ
  | .ret a, s => (a, s)
  | .vis c k, s => (k (access c s).1).eval access (access c s).2

/-- A lock with several ways to take it.  Its word tells whether it is free and, if not,
how it was taken. -/
structure LockWord (W Mode : Type) where
  free : W
  held : Mode → W
  /-- One attempt to take the lock. -/
  attempt : Mode → W → Bool × W
  /-- One attempt to release it. -/
  release : Mode → W → Bool × W
  held_ne_free : ∀ m, held m ≠ free
  attempt_free : ∀ m, attempt m free = (true, held m)
  attempt_of_ne : ∀ m w, w ≠ free → attempt m w = (false, w)
  release_held : ∀ m, release m (held m) = (true, free)

/-- What a thread does next. -/
inductive Plan (Mode Cmd : Type) (Val : Cmd → Type) (X : Type)
  /-- It is done. -/
  | stop
  /-- A step of its own. -/
  | quiet (x : X)
  /-- It takes the lock, trying again until it succeeds, and runs the section. -/
  | locked (m : Mode) (p : Prog Cmd Val X)
  /-- It tries once to take the lock, and goes on with `x` if that fails. -/
  | tryLocked (m : Mode) (p : Prog Cmd Val X) (x : X)

/-- Where a thread is.  Outside, `x` is its own state. -/
inductive SectionPc (Mode Cmd : Type) (Val : Cmd → Type) (X : Type)
  | outside (x : X)
  | waiting (x : X) (m : Mode) (p : Prog Cmd Val X)
  | inside (m : Mode) (p : Prog Cmd Val X)

/-- Threads `ι` that share a lock and the memory `σ` it protects. -/
structure Sections (ι W Mode Cmd : Type) (Val : Cmd → Type) (σ X : Type) where
  lock : LockWord W Mode
  /-- One access to the memory. -/
  access : (c : Cmd) → σ → Val c × σ
  /-- What a thread does next, from its own state. -/
  plan : ι → X → Plan Mode Cmd Val X

/-- The lock word, the memory and the threads. -/
structure SectionState (ι W Mode Cmd : Type) (Val : Cmd → Type) (σ X : Type) where
  word : W
  mem : σ
  thread : ι → SectionPc Mode Cmd Val X

/-- The memory and the own states of the threads. -/
structure SerialState (ι σ X : Type) where
  mem : σ
  own : ι → X

namespace Sections

variable {ι W Mode Cmd : Type} {Val : Cmd → Type} {σ X : Type} [DecidableEq ι]
  (S : Sections ι W Mode Cmd Val σ X)

/-! ## The two systems -/

/-- A step of a thread after an attempt to take the lock. -/
def enter (s : SectionState ι W Mode Cmd Val σ X) (t : ι) (m : Mode) (p : Prog Cmd Val X)
    (other : SectionPc Mode Cmd Val X) : SectionState ι W Mode Cmd Val σ X :=
  let r := S.lock.attempt m s.word
  { s with
    word := r.2
    thread := Function.update s.thread t (if r.1 then .inside m p else other) }

/-- One step of a thread: a call, one attempt of a loop, or one access. -/
def step (s : SectionState ι W Mode Cmd Val σ X) (t : ι) : SectionState ι W Mode Cmd Val σ X :=
  match s.thread t with
  | .outside x =>
      match S.plan t x with
      | .stop => s
      | .quiet x' => { s with thread := Function.update s.thread t (.outside x') }
      | .locked m p => { s with thread := Function.update s.thread t (.waiting x m p) }
      | .tryLocked m p x' => S.enter s t m p (.outside x')
  | .waiting x m p => S.enter s t m p (.waiting x m p)
  | .inside m (.vis c k) =>
      let r := S.access c s.mem
      { s with mem := r.2, thread := Function.update s.thread t (.inside m (k r.1)) }
  | .inside m (.ret x) =>
      let r := S.lock.release m s.word
      { s with
        word := r.2
        thread := Function.update s.thread t (if r.1 then .outside x else .inside m (.ret x)) }

/-- The threads take steps in the order of a schedule. -/
def run (s : SectionState ι W Mode Cmd Val σ X) (schedule : List ι) :
    SectionState ι W Mode Cmd Val σ X :=
  schedule.foldl S.step s

/-- The lock is free and all threads are outside. -/
def init (mem : σ) (own : ι → X) : SectionState ι W Mode Cmd Val σ X :=
  ⟨S.lock.free, mem, fun t => .outside (own t)⟩

/-- A thread runs a whole section. -/
def perform (a : SerialState ι σ X) (t : ι) (p : Prog Cmd Val X) : SerialState ι σ X :=
  let r := p.eval S.access a.mem
  ⟨r.2, Function.update a.own t r.1⟩

/-- One step of a thread: a whole section, or a step of its own.  The flag tells whether
it gets the lock where it tries only once. -/
def serialStep (a : SerialState ι σ X) (t : ι) (got : Bool) : SerialState ι σ X :=
  match S.plan t (a.own t) with
  | .stop => a
  | .quiet x => { a with own := Function.update a.own t x }
  | .locked _ p => S.perform a t p
  | .tryLocked _ p x =>
      if got then S.perform a t p else { a with own := Function.update a.own t x }

/-- The threads, one section at a time. -/
def serial : GuardedSystem (SerialState ι σ X) (ι × Bool) where
  legal _ _ := True
  exec a op := some (S.serialStep a op.1 op.2)

/-! ## The simulation -/

/-- A thread that is not in a section, with its own state. -/
def Waits (t : ι) (pc : SectionPc Mode Cmd Val X) (x : X) : Prop :=
  pc = .outside x ∨ ∃ m p, pc = .waiting x m p ∧ S.plan t x = .locked m p

/-- The two states agree.  The section of a thread that holds the lock counts as done:
the abstract memory is the one it will leave. -/
inductive Matches (s : SectionState ι W Mode Cmd Val σ X) (a : SerialState ι σ X) : Prop
  | free (hword : s.word = S.lock.free) (hmem : a.mem = s.mem)
      (hwaits : ∀ t, S.Waits t (s.thread t) (a.own t))
  | taken (t : ι) (m : Mode) (p : Prog Cmd Val X) (hword : s.word = S.lock.held m)
      (hthread : s.thread t = .inside m p)
      (hsection : (a.own t, a.mem) = p.eval S.access s.mem)
      (hwaits : ∀ u, u ≠ t → S.Waits u (s.thread u) (a.own u))

variable {S} {s : SectionState ι W Mode Cmd Val σ X} {a : SerialState ι σ X} {t : ι}

omit [DecidableEq ι] in
theorem Waits.ne_inside {pc : SectionPc Mode Cmd Val X} {x : X} (h : S.Waits t pc x) (m : Mode)
    (p : Prog Cmd Val X) : pc ≠ .inside m p := by
  rcases h with rfl | ⟨m', p', rfl, -⟩ <;> nofun

omit [DecidableEq ι] in
/-- The threads agree at the beginning. -/
theorem matches_init (mem : σ) (own : ι → X) : S.Matches (S.init mem own) ⟨mem, own⟩ :=
  .free rfl rfl fun _ => .inl rfl

omit [DecidableEq ι] in
/-- Only the thread that holds the lock is in a section. -/
theorem Matches.inside_unique (h : S.Matches s a) {u : ι} {m m' : Mode} {p p' : Prog Cmd Val X}
    (ht : s.thread t = .inside m p) (hu : s.thread u = .inside m' p') : t = u := by
  rcases h with ⟨-, -, hwaits⟩ | ⟨v, n, q, -, -, -, hwaits⟩
  · exact absurd ht ((hwaits t).ne_inside m p)
  · have htv : t = v := by
      by_contra hne
      exact (hwaits t hne).ne_inside m p ht
    have huv : u = v := by
      by_contra hne
      exact (hwaits u hne).ne_inside m' p' hu
    exact htv.trans huv.symm

omit [DecidableEq ι] in
/-- The word is that of a free lock exactly when no thread is in a section. -/
theorem Matches.word_eq_free_iff (h : S.Matches s a) :
    s.word = S.lock.free ↔ ∀ t m p, s.thread t ≠ .inside m p := by
  rcases h with ⟨hword, -, hwaits⟩ | ⟨t, m, p, hword, hthread, -, -⟩
  · exact ⟨fun _ t m p => (hwaits t).ne_inside m p, fun _ => hword⟩
  · constructor
    · intro hfree
      exact absurd (hword.symm.trans hfree) (S.lock.held_ne_free m)
    · intro hnone
      exact absurd hthread (hnone t m p)

omit [DecidableEq ι] in
/-- A thread that is not in a section waits. -/
theorem Matches.waits (h : S.Matches s a) (hout : ∀ m p, s.thread t ≠ .inside m p) :
    S.Waits t (s.thread t) (a.own t) := by
  rcases h with ⟨-, -, hwaits⟩ | ⟨v, m, p, -, hthread, -, hwaits⟩
  · exact hwaits t
  · refine hwaits t ?_
    rintro rfl
    exact hout m p hthread

theorem Waits.update {P : ι → Prop} {pc : SectionPc Mode Cmd Val X} {x : X}
    (hwaits : ∀ u, P u → S.Waits u (s.thread u) (a.own u)) (ht : S.Waits t pc x) (u : ι)
    (hu : P u ∨ u = t) :
    S.Waits u (Function.update s.thread t pc u) (Function.update a.own t x u) := by
  by_cases hut : u = t
  · subst hut
    simpa using ht
  · simpa [hut] using hwaits u (hu.resolve_right hut)

/-- A thread that is not in a section does something of its own. -/
theorem Matches.quiet (h : S.Matches s a) (hout : ∀ m p, s.thread t ≠ .inside m p)
    {pc : SectionPc Mode Cmd Val X} {x : X} (hpc : S.Waits t pc x) :
    S.Matches { s with thread := Function.update s.thread t pc }
      { a with own := Function.update a.own t x } := by
  rcases h with ⟨hword, hmem, hwaits⟩ | ⟨v, m, p, hword, hthread, hsection, hwaits⟩
  · refine .free hword hmem fun u => ?_
    exact Waits.update (P := fun _ => True) (fun u _ => hwaits u) hpc u (.inl trivial)
  · have hvt : v ≠ t := by
      rintro rfl
      exact hout m p hthread
    refine .taken v m p hword (by simpa [hvt] using hthread) (by simpa [hvt] using hsection) ?_
    intro u hu
    exact Waits.update hwaits hpc u (.inl hu)

/-- The same, without a trace in its own state. -/
theorem Matches.stutter (h : S.Matches s a) (hout : ∀ m p, s.thread t ≠ .inside m p)
    {pc : SectionPc Mode Cmd Val X} (hpc : S.Waits t pc (a.own t)) :
    S.Matches { s with thread := Function.update s.thread t pc } a := by
  have hquiet := h.quiet hout hpc
  rwa [Function.update_eq_self] at hquiet

/-- **Taking the lock.**  This is where the section happens. -/
theorem Matches.acquire (h : S.Matches s a) (hword : s.word = S.lock.free) (m : Mode)
    (p : Prog Cmd Val X) :
    S.Matches { s with
      word := S.lock.held m
      thread := Function.update s.thread t (.inside m p) } (S.perform a t p) := by
  have hout := h.word_eq_free_iff.mp hword
  have hmem : a.mem = s.mem := by
    rcases h with ⟨-, hmem, -⟩ | ⟨v, n, q, -, hthread, -, -⟩
    · exact hmem
    · exact absurd hthread (hout v n q)
  refine .taken t m p rfl (Function.update_self t _ _) ?_ ?_
  · simp [perform, hmem]
  · intro u hu
    simpa [perform, hu] using h.waits (hout u)

/-- An attempt on a free lock. -/
theorem enter_of_free (hword : s.word = S.lock.free) (m : Mode) (p : Prog Cmd Val X)
    (other : SectionPc Mode Cmd Val X) : S.enter s t m p other = { s with
      word := S.lock.held m
      thread := Function.update s.thread t (.inside m p) } := by
  simp [enter, hword, S.lock.attempt_free]

/-- An attempt on a lock that is taken. -/
theorem enter_of_ne (hword : s.word ≠ S.lock.free) (m : Mode) (p : Prog Cmd Val X)
    (other : SectionPc Mode Cmd Val X) :
    S.enter s t m p other = { s with thread := Function.update s.thread t other } := by
  simp [enter, S.lock.attempt_of_ne m s.word hword]

/-- A step of a thread that is outside. -/
theorem Matches.step_outside (h : S.Matches s a) {x : X} (hpc : s.thread t = .outside x) :
    S.Matches (S.step s t) a ∨ ∃ got, S.Matches (S.step s t) (S.serialStep a t got) := by
  have hout : ∀ m p, s.thread t ≠ .inside m p := by simp [hpc]
  have hoff : ∀ y, S.Waits t (.outside y) y := fun y => .inl rfl
  obtain rfl : a.own t = x := by
    rcases h.waits hout with heq | ⟨m, p, heq, -⟩
    · exact (SectionPc.outside.inj (hpc.symm.trans heq)).symm
    · cases hpc.symm.trans heq
  cases hplan : S.plan t (a.own t) with
  | stop =>
      left
      simpa [step, hpc, hplan] using h
  | quiet x =>
      refine .inr ⟨false, ?_⟩
      simpa [step, serialStep, hpc, hplan] using h.quiet hout (hoff x)
  | locked m p =>
      left
      simpa [step, hpc, hplan] using h.stutter hout (.inr ⟨m, p, rfl, hplan⟩)
  | tryLocked m p x =>
      by_cases hword : s.word = S.lock.free
      · refine .inr ⟨true, ?_⟩
        simpa [step, serialStep, hpc, hplan, enter_of_free hword] using h.acquire hword m p
      · refine .inr ⟨false, ?_⟩
        simpa [step, serialStep, hpc, hplan, enter_of_ne hword] using
          h.quiet hout (hoff x)

/-- One more attempt of a thread that waits for the lock. -/
theorem Matches.step_waiting (h : S.Matches s a) {x : X} {m : Mode} {p : Prog Cmd Val X}
    (hpc : s.thread t = .waiting x m p) :
    S.Matches (S.step s t) a ∨ ∃ got, S.Matches (S.step s t) (S.serialStep a t got) := by
  have hout : ∀ m p, s.thread t ≠ .inside m p := by simp [hpc]
  have hwaits := h.waits hout
  obtain ⟨rfl, hplan⟩ : a.own t = x ∧ S.plan t x = .locked m p := by
    rcases hwaits with heq | ⟨m', p', heq, hplan⟩
    · cases hpc.symm.trans heq
    · obtain ⟨rfl, rfl, rfl⟩ := SectionPc.waiting.inj (hpc.symm.trans heq)
      exact ⟨rfl, hplan⟩
  by_cases hword : s.word = S.lock.free
  · refine .inr ⟨true, ?_⟩
    simpa [step, serialStep, hpc, hplan, enter_of_free hword] using h.acquire hword m p
  · left
    simpa [step, hpc, enter_of_ne hword] using h.stutter hout (hpc ▸ hwaits)

/-- A step of the thread that holds the lock: an access, or the release. -/
theorem Matches.step_inside (h : S.Matches s a) {m : Mode} {p : Prog Cmd Val X}
    (hpc : s.thread t = .inside m p) : S.Matches (S.step s t) a := by
  rcases h with ⟨-, -, hwaits⟩ | ⟨v, n, q, hword, hthread, hsection, hwaits⟩
  · exact absurd hpc ((hwaits t).ne_inside m p)
  · have htv : t = v := by
      by_contra hne
      exact (hwaits t hne).ne_inside m p hpc
    subst htv
    obtain ⟨rfl, rfl⟩ := SectionPc.inside.inj (hpc.symm.trans hthread)
    cases p with
    | vis c k =>
        refine .taken t m (k (S.access c s.mem).1) ?_ ?_ ?_ ?_
        · simpa [step, hpc] using hword
        · simp [step, hpc]
        · simpa [step, hpc, Prog.eval] using hsection
        · intro u hu
          simpa [step, hpc, hu] using hwaits u hu
    | ret x =>
        obtain ⟨hown, hmem⟩ := Prod.mk.inj hsection
        have hstep : S.step s t = { s with
            word := S.lock.free
            thread := Function.update s.thread t (.outside x) } := by
          simp [step, hpc, hword, S.lock.release_held]
        rw [hstep]
        refine .free rfl hmem fun u => ?_
        by_cases hu : u = t
        · subst hu
          simpa [Waits] using hown.symm
        · simpa [hu] using hwaits u hu

/-- **One step.**  The abstract system follows with one step or none. -/
theorem Matches.step (h : S.Matches s a) (t : ι) :
    S.Matches (S.step s t) a ∨ ∃ got, S.Matches (S.step s t) (S.serialStep a t got) := by
  cases hpc : s.thread t with
  | outside x => exact h.step_outside hpc
  | waiting x m p => exact h.step_waiting hpc
  | inside m p => exact .inl (h.step_inside hpc)

/-- A whole schedule. -/
theorem Matches.run (h : S.Matches s a) (schedule : List ι) :
    ∃ order a', S.serial.Run a order a' ∧ S.Matches (S.run s schedule) a' := by
  induction schedule generalizing s a with
  | nil => exact ⟨[], a, .nil a, h⟩
  | cons t schedule ih =>
      rcases h.step t with hsame | ⟨got, hstep⟩
      · exact ih hsame
      · obtain ⟨order, a', hrun, hmatches⟩ := ih hstep
        exact ⟨(t, got) :: order, a', .cons trivial rfl hrun, hmatches⟩

/-! ## Serial runs -/

/-- **Sections are atomic.**  Under every schedule at most one thread is in a section and
the lock is free exactly when none is.  There is a serial run of the threads, one whole
section at a time, that the memory and the threads agree with whenever the lock is free. -/
theorem exists_serial (S : Sections ι W Mode Cmd Val σ X) (mem : σ) (own : ι → X)
    (schedule : List ι) :
    (∀ t u m m' p p', (S.run (S.init mem own) schedule).thread t = .inside m p →
      (S.run (S.init mem own) schedule).thread u = .inside m' p' → t = u) ∧
    ((S.run (S.init mem own) schedule).word = S.lock.free ↔
      ∀ t m p, (S.run (S.init mem own) schedule).thread t ≠ .inside m p) ∧
    ∃ order a, S.serial.Run ⟨mem, own⟩ order a ∧
      ((S.run (S.init mem own) schedule).word = S.lock.free →
        a.mem = (S.run (S.init mem own) schedule).mem ∧
        ∀ t, S.Waits t ((S.run (S.init mem own) schedule).thread t) (a.own t)) := by
  obtain ⟨order, a, hrun, hmatches⟩ := (S.matches_init mem own).run schedule
  refine ⟨fun t u m m' p p' ht hu => hmatches.inside_unique ht hu,
    hmatches.word_eq_free_iff, order, a, hrun, fun hword => ?_⟩
  have hout := hmatches.word_eq_free_iff.mp hword
  rcases hmatches with ⟨-, hmem, hwaits⟩ | ⟨t, m, p, -, hthread, -, -⟩
  · exact ⟨hmem, hwaits⟩
  · exact absurd hthread (hout t m p)

end Sections
