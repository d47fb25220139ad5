import GuitarTea.Lib.GuardedSystem
import Mathlib.Logic.Function.Basic

/-!
# Interleaved threads

Threads that share a state and take turns.  A thread is a program, that is, a tree
of commands: each command reads or changes the shared state in one indivisible
step and the program goes on with the value it gets.  Between two commands of one
thread the others may do any number of steps, so a property of a run is a property
of every schedule.

What the environment decides about a command (an address, an error, the bytes of a
message) is an answer that comes with the step.  A command may refuse an answer:
the answer is impossible in that state.

The second half is a rely–guarantee calculus.  A discipline consists of an
invariant of the shared state and a ghost state, and of what each thread may rely
on while the others run.  `Safe` follows one program alone, with interference after
every command, and `Sound.step` puts the threads together.

## Main definitions

* `Prog` — programs over commands, with their monad.
* `ThreadSystem`, `ThreadSystem.step`, `ThreadSystem.system` — the interleaving.
* `Discipline`, `Discipline.Safe`, `Discipline.Triple` — rely–guarantee reasoning.
* `Discipline.Sound` — the invariant of the interleaving that the triples give.
* `Prog.Reaches`, `Prog.Until` — the commands a program must come to.
* `Prog.Yields`, `ThreadSystem.observed` — what can be observed of a program, and of a
  thread along a run.
* `Prog.Along` — a program that runs without interference.
* `ThreadSystem.trace` — the commands that all threads have run, with their values.
* `ThreadSystem.recording` — the threads with the past of a run beside the state.
* `Prog.Obeys` — what every command of a program satisfies.
* `Prog.AtMost` — a bound on the commands of a program.
-/

/-! ## Programs -/

/-- A program over commands `Cmd`: a result, or a command and what to do with its value. -/
inductive Prog (Cmd : Type) (Val : Cmd → Type) (α : Type) : Type
  | ret (a : α) : Prog Cmd Val α
  | vis (c : Cmd) (k : Val c → Prog Cmd Val α) : Prog Cmd Val α

namespace Prog

variable {Cmd : Type} {Val : Cmd → Type} {α β : Type}

/-- Run a program and go on with its result. -/
def bind : Prog Cmd Val α → (α → Prog Cmd Val β) → Prog Cmd Val β
  | .ret a, f => f a
  | .vis c k, f => .vis c fun v => (k v).bind f

instance : Monad (Prog Cmd Val) where
  pure := .ret
  bind := bind

/-- The program of one command. -/
def perform (c : Cmd) : Prog Cmd Val (Val c) := .vis c .ret

/-- The next command of a program. -/
def next : Prog Cmd Val α → Option Cmd
  | .ret _ => none
  | .vis c _ => some c

/-- The program is at the end of a round and will start another one. -/
def done : Prog Cmd Val Bool → Bool
  | .ret b => b
  | .vis _ _ => false

theorem done_iff {p : Prog Cmd Val Bool} : p.done = true ↔ p = .ret true := by
  cases p <;> simp [done]

/-- Whatever its commands answer, the program comes to a command that satisfies `goal`
within `n` commands, and those before it satisfy `pass`. -/
def Reaches (pass goal : Cmd → Prop) : ℕ → Prog Cmd Val α → Prop
  | 0, _ => False
  | _ + 1, .ret _ => False
  | n + 1, .vis c k => goal c ∨ (pass c ∧ ∀ v, (k v).Reaches pass goal n)

variable {pass goal : Cmd → Prop} {n : ℕ}

theorem Reaches.bind {p : Prog Cmd Val α} (f : α → Prog Cmd Val β)
    (h : p.Reaches pass goal n) : (p >>= f).Reaches pass goal n := by
  induction n generalizing p with
  | zero => exact h.elim
  | succ n ih =>
      cases p with
      | ret a => exact h.elim
      | vis c k => exact h.imp_right fun hk => ⟨hk.1, fun v => ih (hk.2 v)⟩

/-- As long as the values are allowed, every command satisfies `ok` until one of them gets
a value that is a `trigger`, and from there the program reaches `goal`. -/
def Until (allow trigger : (c : Cmd) → Val c → Prop) (ok pass goal : Cmd → Prop) (n : ℕ) :
    Prog Cmd Val α → Prop
  | .ret _ => True
  | .vis c k => ok c ∧ ∀ v, allow c v → (trigger c v → (k v).Reaches pass goal n) ∧
      (¬ trigger c v → (k v).Until allow trigger ok pass goal n)

variable {allow trigger : (c : Cmd) → Val c → Prop} {ok : Cmd → Prop}

@[simp] theorem until_pure (a : α) :
    (pure a : Prog Cmd Val α).Until allow trigger ok pass goal n := trivial

theorem until_perform_bind {c : Cmd} {f : Val c → Prog Cmd Val β} (hc : ok c)
    (hf : ∀ v, allow c v → (trigger c v → (f v).Reaches pass goal n) ∧
      (¬ trigger c v → (f v).Until allow trigger ok pass goal n)) :
    (perform c >>= f).Until allow trigger ok pass goal n :=
  ⟨hc, hf⟩

/-- A program and what follows it. -/
theorem Until.bind {p : Prog Cmd Val α} {f : α → Prog Cmd Val β}
    (hp : p.Until allow trigger ok pass goal n)
    (hf : ∀ a, (f a).Until allow trigger ok pass goal n) :
    (p >>= f).Until allow trigger ok pass goal n := by
  induction p with
  | ret a => exact hf a
  | vis c k ih =>
      refine ⟨hp.1, fun v hv => ?_⟩
      obtain ⟨hreach, hrest⟩ := hp.2 v hv
      exact ⟨fun ht => (hreach ht).bind f, fun ht => ih v (hrest ht)⟩

/-- A loop over a list. -/
theorem until_forM {γ : Type} {f : γ → Prog Cmd Val PUnit}
    (hf : ∀ x, (f x).Until allow trigger ok pass goal n) (xs : List γ) :
    (xs.forM f).Until allow trigger ok pass goal n := by
  induction xs with
  | nil => exact until_pure _
  | cons x xs ih => exact (hf x).bind fun _ => ih

/-! ### Complete paths -/

/-- Along every complete path of the program whose values are possible, the observations of
its commands are this list. -/
def Yields {ω : Type} (possible : (c : Cmd) → Val c → Prop) (obs : Cmd → Option ω) :
    Prog Cmd Val α → List ω → Prop
  | .ret _, l => l = []
  | .vis c k, l => ∀ v, possible c v →
      ∃ l', l = (obs c).toList ++ l' ∧ (k v).Yields possible obs l'

/-- Every result of the program satisfies `P`. -/
def Ends (P : α → Prop) : Prog Cmd Val α → Prop
  | .ret a => P a
  | .vis _ k => ∀ v, (k v).Ends P

section Yields

variable {ω : Type} {possible : (c : Cmd) → Val c → Prop} {obs : Cmd → Option ω} {l l' : List ω}

theorem yields_pure (a : α) : (pure a : Prog Cmd Val α).Yields possible obs [] := rfl

/-- A command, and what follows it. -/
theorem yields_perform_bind {c : Cmd} {f : Val c → Prog Cmd Val β} (hl : (obs c).toList ++ l = l')
    (hf : ∀ v, possible c v → (f v).Yields possible obs l) :
    (perform c >>= f).Yields possible obs l' :=
  fun v hv => ⟨l, hl.symm, hf v hv⟩

/-- A program, and what follows it. -/
theorem Yields.bind {p : Prog Cmd Val α} {f : α → Prog Cmd Val β} (hp : p.Yields possible obs l)
    (hf : ∀ a, (f a).Yields possible obs l') : (p >>= f).Yields possible obs (l ++ l') := by
  induction p generalizing l with
  | ret a =>
      obtain rfl : l = [] := hp
      exact hf a
  | vis c k ih =>
      intro v hv
      obtain ⟨m, rfl, hk⟩ := hp v hv
      exact ⟨m ++ l', List.append_assoc _ m l', ih v hk⟩

/-- A loop over a list. -/
theorem yields_forM {γ : Type} {f : γ → Prog Cmd Val PUnit} {g : γ → List ω}
    (hf : ∀ x, (f x).Yields possible obs (g x)) (xs : List γ) :
    (xs.forM f).Yields possible obs (xs.flatMap g) := by
  induction xs with
  | nil => exact yields_pure _
  | cons x xs ih => exact (hf x).bind fun _ => ih

end Yields

theorem ends_bind {P : β → Prop} (p : Prog Cmd Val α) {f : α → Prog Cmd Val β}
    (hf : ∀ a, (f a).Ends P) : (p >>= f).Ends P := by
  induction p with
  | ret a => exact hf a
  | vis c k ih => exact fun v => ih v

/-! ### The commands of a program -/

/-- As long as the values are allowed, every command satisfies `ok`. -/
def Obeys (allow : (c : Cmd) → Val c → Prop) (ok : Cmd → Prop) : Prog Cmd Val α → Prop
  | .ret _ => True
  | .vis c k => ok c ∧ ∀ v, allow c v → (k v).Obeys allow ok

section Obeys

variable {allow : (c : Cmd) → Val c → Prop} {ok : Cmd → Prop}

theorem obeys_pure (a : α) : (pure a : Prog Cmd Val α).Obeys allow ok := trivial

/-- A command, and what follows it. -/
theorem obeys_perform_bind {c : Cmd} {f : Val c → Prog Cmd Val β} (hc : ok c)
    (hf : ∀ v, allow c v → (f v).Obeys allow ok) : (perform c >>= f).Obeys allow ok :=
  ⟨hc, hf⟩

/-- A program, and what follows it. -/
theorem Obeys.bind {p : Prog Cmd Val α} {f : α → Prog Cmd Val β} (hp : p.Obeys allow ok)
    (hf : ∀ a, (f a).Obeys allow ok) : (p >>= f).Obeys allow ok := by
  induction p with
  | ret a => exact hf a
  | vis c k ih => exact ⟨hp.1, fun v hv => ih v (hp.2 v hv)⟩

/-- A loop over a list. -/
theorem obeys_forM {γ : Type} {f : γ → Prog Cmd Val PUnit} (hf : ∀ x, (f x).Obeys allow ok)
    (xs : List γ) : (xs.forM f).Obeys allow ok := by
  induction xs with
  | nil => exact obeys_pure _
  | cons x xs ih => exact (hf x).bind fun _ => ih

end Obeys

/-! ### The length of a program -/

/-- Whatever its commands answer, the program ends after at most `n` of them. -/
def AtMost : ℕ → Prog Cmd Val α → Prop
  | _, .ret _ => True
  | 0, .vis _ _ => False
  | n + 1, .vis _ k => ∀ v, (k v).AtMost n

section AtMost

variable {m n : ℕ} {p : Prog Cmd Val α} {f : α → Prog Cmd Val β}

theorem atMost_pure (a : α) (n : ℕ) : (pure a : Prog Cmd Val α).AtMost n := by
  cases n <;> trivial

theorem AtMost.mono (hp : p.AtMost m) (h : m ≤ n) : p.AtMost n := by
  induction m generalizing n p with
  | zero =>
      cases p with
      | ret a => exact atMost_pure a n
      | vis c k => exact hp.elim
  | succ m ih =>
      cases p with
      | ret a => exact atMost_pure a n
      | vis c k =>
          obtain ⟨n, rfl⟩ : ∃ n', n = n' + 1 := ⟨n - 1, by omega⟩
          exact fun v => ih (hp v) (by omega)

/-- A command, and what follows it. -/
theorem atMost_perform_bind {c : Cmd} {f : Val c → Prog Cmd Val β} (hf : ∀ v, (f v).AtMost n) :
    (perform c >>= f).AtMost (n + 1) :=
  hf

/-- A program, and what follows it. -/
theorem AtMost.bind (hp : p.AtMost m) (hf : ∀ a, (f a).AtMost n) : (p >>= f).AtMost (m + n) := by
  induction m generalizing p with
  | zero =>
      cases p with
      | ret a => exact (hf a).mono (by omega)
      | vis c k => exact hp.elim
  | succ m ih =>
      cases p with
      | ret a => exact (hf a).mono (by omega)
      | vis c k =>
          rw [Nat.add_right_comm]
          exact fun v => ih (hp v)

/-- A loop over a list. -/
theorem atMost_forM {γ : Type} {f : γ → Prog Cmd Val PUnit} (hf : ∀ x, (f x).AtMost n)
    (xs : List γ) : (xs.forM f).AtMost (n * xs.length) := by
  induction xs with
  | nil => exact atMost_pure _ _
  | cons x xs ih =>
      have hbind := (hf x).bind fun _ => ih
      rw [List.length_cons, Nat.mul_succ, Nat.add_comm]
      exact hbind

end AtMost

/-! ### A program alone -/

section Along

variable {A σ : Type} {respond : (c : Cmd) → A → σ → Option (Val c × σ)} {check : Cmd → σ → Prop}

/-- The program is followed from a state without interference: every command passes its
check and has an answer, and with any answer it gets the rest goes on; the results satisfy
`Q`. -/
def Along (respond : (c : Cmd) → A → σ → Option (Val c × σ)) (check : Cmd → σ → Prop)
    (Q : α → σ → Prop) : Prog Cmd Val α → σ → Prop
  | .ret a, s => Q a s
  | .vis c k, s => check c s ∧ (∃ a v s', respond c a s = some (v, s')) ∧
      ∀ a v s', respond c a s = some (v, s') → (k v).Along respond check Q s'

/-- One command. -/
theorem along_perform {c : Cmd} {Q : Val c → σ → Prop} {s : σ} (hcheck : check c s)
    (hanswer : ∃ a v s', respond c a s = some (v, s'))
    (hQ : ∀ a v s', respond c a s = some (v, s') → Q v s') :
    (perform c).Along respond check Q s :=
  ⟨hcheck, hanswer, hQ⟩

/-- One command that leaves nothing to the environment. -/
theorem along_perform_of_eq [Nonempty A] {c : Cmd} {Q : Val c → σ → Prop} {s s' : σ} {v : Val c}
    (hcheck : check c s) (hresp : ∀ a, respond c a s = some (v, s')) (hQ : Q v s') :
    (perform c).Along respond check Q s := by
  refine along_perform hcheck ⟨Classical.arbitrary A, v, s', hresp _⟩ ?_
  intro a v' s'' h
  obtain ⟨rfl, rfl⟩ := Prod.mk.inj (Option.some.inj ((hresp a).symm.trans h))
  exact hQ

/-- A program, and what follows it. -/
theorem Along.bind {p : Prog Cmd Val α} {f : α → Prog Cmd Val β} {R : α → σ → Prop}
    {Q : β → σ → Prop} {s : σ} (hp : p.Along respond check R s)
    (hf : ∀ a s, R a s → (f a).Along respond check Q s) :
    (p >>= f).Along respond check Q s := by
  induction p generalizing s with
  | ret a => exact hf a s hp
  | vis c k ih =>
      obtain ⟨hcheck, hanswer, hrest⟩ := hp
      refine ⟨hcheck, hanswer, ?_⟩
      intro a v s' hresp
      exact ih v (hrest a v s' hresp)

/-- Consequence, for the results. -/
theorem Along.mono {p : Prog Cmd Val α} {R Q : α → σ → Prop} {s : σ}
    (hp : p.Along respond check R s) (h : ∀ a s, R a s → Q a s) :
    p.Along respond check Q s := by
  induction p generalizing s with
  | ret a => exact h a s hp
  | vis c k ih =>
      obtain ⟨hcheck, hanswer, hrest⟩ := hp
      refine ⟨hcheck, hanswer, ?_⟩
      intro a v s' hresp
      exact ih v (hrest a v s' hresp)

end Along

end Prog

/-! ## The interleaving -/

/-- Threads `T` over a shared state `σ`, with answers `A` from the environment.  The
body of a thread is run again and again until it returns `false`. -/
structure ThreadSystem (T Cmd : Type) (Val : Cmd → Type) (A σ : Type) where
  /-- The value and the effect of a command; `none` is an answer that is impossible. -/
  respond : (c : Cmd) → A → σ → Option (Val c × σ)
  /-- What a thread repeats. -/
  body : T → Prog Cmd Val Bool

/-- The shared state, and what is left of the body of every thread. -/
structure ThreadConfig (T Cmd : Type) (Val : Cmd → Type) (σ : Type) where
  shared : σ
  code : T → Prog Cmd Val Bool

namespace ThreadSystem

variable {T Cmd : Type} {Val : Cmd → Type} {A σ : Type} [DecidableEq T]

/-- One step of a thread: its next command, or the start of its next round. -/
def step (S : ThreadSystem T Cmd Val A σ) (c : ThreadConfig T Cmd Val σ) (t : T) (a : A) :
    Option (ThreadConfig T Cmd Val σ) :=
  match c.code t with
  | .ret true => some { c with code := Function.update c.code t (S.body t) }
  | .ret false => none
  | .vis cmd k => (S.respond cmd a c.shared).map fun r =>
      ⟨r.2, Function.update c.code t (k r.1)⟩

/-- All interleavings: an action names the thread that moves, and the answer it gets. -/
def system (S : ThreadSystem T Cmd Val A σ) :
    GuardedSystem (ThreadConfig T Cmd Val σ) (T × A) where
  legal c op := (S.step c op.1 op.2).isSome
  exec c op := S.step c op.1 op.2

instance (S : ThreadSystem T Cmd Val A σ) (c : ThreadConfig T Cmd Val σ) (op : T × A) :
    Decidable (S.system.legal c op) :=
  inferInstanceAs (Decidable ((S.step c op.1 op.2).isSome = true))

variable {S : ThreadSystem T Cmd Val A σ} {c c' : ThreadConfig T Cmd Val σ} {t : T} {a : A}

/-- **What a step is.**  Either the thread starts its body again and the shared state
stays, or its next command is answered. -/
theorem step_cases (h : S.step c t a = some c') :
    (c.code t = .ret true ∧ c' = { c with code := Function.update c.code t (S.body t) }) ∨
    ∃ cmd k v s', c.code t = .vis cmd k ∧ S.respond cmd a c.shared = some (v, s') ∧
      c' = ⟨s', Function.update c.code t (k v)⟩ := by
  unfold step at h
  split at h
  · rename_i hcode
    exact .inl ⟨hcode, (Option.some.inj h).symm⟩
  · cases h
  · rename_i cmd k hcode
    obtain ⟨⟨v, s'⟩, hresp, hc'⟩ := Option.map_eq_some_iff.mp h
    exact .inr ⟨cmd, k, v, s', hcode, hresp, hc'.symm⟩

/-- The next command of a thread is answered. -/
theorem step_of_respond {cmd : Cmd} {k : Val cmd → Prog Cmd Val Bool} {v : Val cmd} {s' : σ}
    (hcode : c.code t = .vis cmd k) (hresp : S.respond cmd a c.shared = some (v, s')) :
    S.step c t a = some ⟨s', Function.update c.code t (k v)⟩ := by
  simp [step, hcode, hresp]

/-- A run begins with a step. -/
theorem run_cons {ops : List (T × A)} {c'' : ThreadConfig T Cmd Val σ}
    (hstep : S.step c t a = some c') (hrun : S.system.Run c' ops c'') :
    S.system.Run c ((t, a) :: ops) c'' := by
  have hlegal : S.system.legal c (t, a) := by simp [system, hstep]
  exact .cons hlegal hstep hrun

/-- A thread alone can follow its program to the goal, when the commands before it always
have an answer. -/
theorem exists_run_of_reaches {pass goal : Cmd → Prop}
    (hpass : ∀ cmd s, pass cmd → ∃ a v s', S.respond cmd a s = some (v, s')) {n : ℕ}
    (h : (c.code t).Reaches pass goal n) :
    ∃ ops c', S.system.Run c ops c' ∧ ∃ cmd, (c'.code t).next = some cmd ∧ goal cmd := by
  induction n generalizing c with
  | zero => exact h.elim
  | succ n ih =>
      cases hcode : c.code t with
      | ret b =>
          rw [hcode] at h
          exact h.elim
      | vis cmd k =>
          rw [hcode] at h
          rcases h with hgoal | ⟨hcmd, hrest⟩
          · exact ⟨[], c, .nil c, cmd, by rw [hcode]; rfl, hgoal⟩
          · obtain ⟨a, v, s', hresp⟩ := hpass cmd c.shared hcmd
            obtain ⟨ops, c', hrun, hc'⟩ := ih (c := ⟨s', Function.update c.code t (k v)⟩)
              (by simpa using hrest v)
            exact ⟨(t, a) :: ops, c', run_cons (step_of_respond hcode hresp) hrun, hc'⟩

/-! ### Observations -/

section Observed

variable {ω : Type} {obs : Cmd → Option ω} {ops : List (T × A)} {l : List ω}

/-- What is observed of the commands of one thread along a run. -/
def observed (S : ThreadSystem T Cmd Val A σ) (obs : Cmd → Option ω) (t : T) :
    ThreadConfig T Cmd Val σ → List (T × A) → List ω
  | _, [] => []
  | c, (u, a) :: ops =>
      (if u = t then ((c.code t).next.bind obs).toList else []) ++
        ((S.step c u a).map fun c' => S.observed obs t c' ops).getD []

theorem observed_cons {u : T} (hstep : S.step c u a = some c') :
    S.observed obs t c ((u, a) :: ops) =
      (if u = t then ((c.code t).next.bind obs).toList else []) ++ S.observed obs t c' ops := by
  rw [observed, hstep]
  rfl

/-- The answers that are possible in some state. -/
def Possible (S : ThreadSystem T Cmd Val A σ) (cmd : Cmd) (v : Val cmd) : Prop :=
  ∃ a s s', S.respond cmd a s = some (v, s')

/-- **What a thread shows until the end of its round**, whatever the others do. -/
theorem observed_of_yields (hrun : S.system.Run c ops c')
    (hy : (c.code t).Yields S.Possible obs l) (hend : c'.code t = .ret true) :
    l <+: S.observed obs t c ops := by
  induction hrun generalizing l with
  | nil c =>
      rw [hend] at hy
      obtain rfl : l = [] := hy
      exact List.nil_prefix
  | @cons c c₁ c' op ops _ hstep _ ih =>
      obtain ⟨u, a⟩ := op
      rw [observed_cons hstep]
      rcases step_cases hstep with ⟨hcode, hc₁⟩ | ⟨cmd, k, v, s', hcode, hresp, hc₁⟩
      · by_cases hu : u = t
        · subst hu
          rw [hcode] at hy
          obtain rfl : l = [] := hy
          exact List.nil_prefix
        · rw [if_neg hu]
          refine ih ?_ hend
          simpa [hc₁, Ne.symm hu] using hy
      · by_cases hu : u = t
        · subst hu
          rw [hcode] at hy
          obtain ⟨l', rfl, hk⟩ := hy v ⟨a, c.shared, s', hresp⟩
          rw [if_pos rfl, hcode]
          refine (List.prefix_append_right_inj _).mpr (ih ?_ hend)
          simpa [hc₁] using hk
        · rw [if_neg hu]
          refine ih ?_ hend
          simpa [hc₁, Ne.symm hu] using hy

/-- A thread alone can finish its round, when its commands always have an answer, and then
it has shown what its program yields. -/
theorem exists_finish {I : ThreadConfig T Cmd Val σ → Prop}
    (hI : ∀ c a c', I c → S.step c t a = some c' → I c')
    (hanswer : ∀ c cmd, I c → (c.code t).next = some cmd →
      ∃ a v s', S.respond cmd a c.shared = some (v, s'))
    (hc : I c) (hends : (c.code t).Ends (· = true)) :
    ∃ ops c', S.system.Run c ops c' ∧ c'.code t = .ret true ∧
      ∀ l, (c.code t).Yields S.Possible obs l → S.observed obs t c ops = l := by
  generalize hp : c.code t = p at hends
  induction p generalizing c with
  | ret b =>
      obtain rfl : b = true := hends
      exact ⟨[], c, .nil c, hp, fun l hl => hl.symm⟩
  | vis cmd k ih =>
      obtain ⟨a, v, s', hresp⟩ := hanswer c cmd hc (by rw [hp]; rfl)
      have hstep := step_of_respond hp hresp
      obtain ⟨ops, c', hrun, hend, hobs⟩ := ih v (c := ⟨s', Function.update c.code t (k v)⟩)
        (hI c a _ hc hstep) (by simp) (hends v)
      refine ⟨(t, a) :: ops, c', run_cons hstep hrun, hend, ?_⟩
      intro l hl
      obtain ⟨l', rfl, hk⟩ := hl v ⟨a, c.shared, s', hresp⟩
      rw [observed_cons hstep, if_pos rfl, hp, hobs l' hk]
      rfl

end Observed

/-! ### Own steps -/

/-- **A bound on own steps.**  A thread that has not come to the end of its program has
taken fewer steps than the program is long, however many the others have taken. -/
theorem countP_lt_of_atMost {ops : List (T × A)} {n : ℕ} (hrun : S.system.Run c ops c')
    (hp : (c.code t).AtMost n)
    (hbusy : ∀ as c₁, as <+: ops → S.system.Run c as c₁ → ∀ b, c₁.code t ≠ .ret b) :
    ops.countP (fun op => decide (op.1 = t)) < n := by
  induction hrun generalizing n with
  | nil c =>
      cases hcode : c.code t with
      | ret b => exact absurd hcode (hbusy [] c List.nil_prefix (.nil c) b)
      | vis cmd k =>
          rw [hcode] at hp
          cases n with
          | zero => exact hp.elim
          | succ n => exact Nat.succ_pos n
  | @cons c c₁ c' op ops hlegal hstep hrun ih =>
      obtain ⟨u, a⟩ := op
      have hbusy₁ : ∀ as c₂, as <+: ops → S.system.Run c₁ as c₂ → ∀ b, c₂.code t ≠ .ret b := by
        intro as c₂ has hrun₂
        exact hbusy ((u, a) :: as) c₂ ((List.prefix_cons_inj _).mpr has)
          (.cons hlegal hstep hrun₂)
      have hnow := hbusy [] c List.nil_prefix (.nil c)
      rw [List.countP_cons]
      by_cases hu : u = t
      · subst hu
        rcases step_cases hstep with ⟨hcode, -⟩ | ⟨cmd, k, v, s', hcode, -, rfl⟩
        · exact absurd hcode (hnow true)
        · rw [hcode] at hp
          cases n with
          | zero => exact hp.elim
          | succ n =>
              have hrest := ih (n := n) (by simpa using hp v) hbusy₁
              simpa using hrest
      · have hsame : c₁.code t = c.code t := by
          rcases step_cases hstep with ⟨-, rfl⟩ | ⟨cmd, k, v, s', -, -, rfl⟩ <;> simp [Ne.symm hu]
        have hrest := ih (n := n) (by rwa [hsame]) hbusy₁
        simpa [hu] using hrest

/-! ### The trace of all threads -/

section Trace

/-- The command that a thread runs in a step, and the value it gets. -/
def executed (S : ThreadSystem T Cmd Val A σ) (c : ThreadConfig T Cmd Val σ) (t : T) (a : A) :
    Option ((cmd : Cmd) × Val cmd) :=
  match c.code t with
  | .ret _ => none
  | .vis cmd _ => (S.respond cmd a c.shared).map fun r => ⟨cmd, r.1⟩

/-- The commands of a run and their values, in the order in which they ran. -/
def trace (S : ThreadSystem T Cmd Val A σ) :
    ThreadConfig T Cmd Val σ → List (T × A) → List ((cmd : Cmd) × Val cmd)
  | _, [] => []
  | c, (t, a) :: ops =>
      (S.executed c t a).toList ++ ((S.step c t a).map fun c' => S.trace c' ops).getD []

variable {ops : List (T × A)} {m : σ → ℕ} {gain loss : (cmd : Cmd) × Val cmd → Bool}

theorem trace_cons (hstep : S.step c t a = some c') :
    S.trace c ((t, a) :: ops) = (S.executed c t a).toList ++ S.trace c' ops := by
  rw [trace, hstep]
  rfl

/-- **Accounting along a run.**  A quantity of the shared state that each command changes
by what it gains and loses is balanced by the gains and losses of the whole run. -/
theorem add_countP_trace {I : ThreadConfig T Cmd Val σ → Prop}
    (hI : ∀ c t a c', I c → S.step c t a = some c' → I c')
    (hm : ∀ c t cmd a v s', I c → (c.code t).next = some cmd →
      S.respond cmd a c.shared = some (v, s') →
      m c.shared + (if gain ⟨cmd, v⟩ then 1 else 0) = m s' + if loss ⟨cmd, v⟩ then 1 else 0)
    (hrun : S.system.Run c ops c') (hc : I c) :
    m c.shared + (S.trace c ops).countP gain = m c'.shared + (S.trace c ops).countP loss := by
  induction hrun with
  | nil c => rfl
  | @cons c c₁ c' op ops _ hstep _ ih =>
      obtain ⟨t, a⟩ := op
      change S.step c t a = some c₁ at hstep
      have hrest := ih (hI c t a c₁ hc hstep)
      rw [trace_cons hstep, List.countP_append, List.countP_append]
      rcases step_cases hstep with ⟨hcode, rfl⟩ | ⟨cmd, k, v, s', hcode, hresp, rfl⟩
      · simpa [executed, hcode] using hrest
      · have hone := hm c t cmd a v s' hc (by rw [hcode]; rfl) hresp
        have hexec : S.executed c t a = some ⟨cmd, v⟩ := by simp [executed, hcode, hresp]
        rw [hexec, Option.toList_some, List.countP_singleton, List.countP_singleton]
        dsimp only at hrest
        omega

/-- **Every command that runs is as the programs say.**  The values are as the programs
expect them as long as an invariant of the shared state holds, and commands that are as
the programs say keep it. -/
theorem obeys_run {allow : (cmd : Cmd) → Val cmd → Prop} {ok : Cmd → Prop} {inv : σ → Prop}
    {legal : A → Prop} (hbody : ∀ t, (S.body t).Obeys allow ok)
    (hresp : ∀ cmd a s v s', inv s → ok cmd → legal a → S.respond cmd a s = some (v, s') →
      allow cmd v ∧ inv s')
    (hrun : S.system.Run c ops c') (hcode : ∀ t, (c.code t).Obeys allow ok) (hinv : inv c.shared)
    (hlegal : ∀ op ∈ ops, legal op.2) : inv c'.shared ∧ ∀ e ∈ S.trace c ops, ok e.1 := by
  induction hrun with
  | nil c =>
      refine ⟨hinv, fun e he => ?_⟩
      simp [trace] at he
  | @cons c c₁ c' op ops _ hstep _ ih =>
      obtain ⟨t, a⟩ := op
      change S.step c t a = some c₁ at hstep
      have hlater := fun op hop => hlegal op (List.mem_cons_of_mem _ hop)
      have hupdate : ∀ {p : Prog Cmd Val Bool}, p.Obeys allow ok →
          ∀ u, (Function.update c.code t p u).Obeys allow ok := by
        intro p hp u
        by_cases hu : u = t
        · simpa [hu] using hp
        · simpa [hu] using hcode u
      rw [trace_cons hstep]
      rcases step_cases hstep with ⟨hret, rfl⟩ | ⟨cmd, k, v, s', hvis, hdone, rfl⟩
      · simpa [executed, hret] using ih (hupdate (hbody t)) hinv hlater
      · have hexec : S.executed c t a = some ⟨cmd, v⟩ := by simp [executed, hvis, hdone]
        obtain ⟨hok, hrest⟩ : (Prog.vis cmd k).Obeys allow ok := hvis ▸ hcode t
        obtain ⟨hv, hinv'⟩ :=
          hresp cmd a c.shared v s' hinv hok (hlegal (t, a) List.mem_cons_self) hdone
        obtain ⟨hend, htrace⟩ := ih (hupdate (hrest v hv)) hinv' hlater
        refine ⟨hend, fun e he => ?_⟩
        rcases List.mem_append.mp he with he | he
        · obtain rfl : e = ⟨cmd, v⟩ := by simpa [hexec] using he
          exact hok
        · exact htrace e he

end Trace

/-! ### The past beside the state -/

section Recording

/-- The same threads, with the commands run so far and their values beside the shared
state. -/
def recording (S : ThreadSystem T Cmd Val A σ) :
    ThreadSystem T Cmd Val A (σ × List ((cmd : Cmd) × Val cmd)) where
  respond cmd a s := (S.respond cmd a s.1).map fun r => (r.1, r.2, s.2 ++ [⟨cmd, r.1⟩])
  body := S.body

/-- **Recording changes nothing.**  Every run is a run that is recorded, and what is
recorded is its trace. -/
theorem run_recording {ops : List (T × A)} (hrun : S.system.Run c ops c')
    (past : List ((cmd : Cmd) × Val cmd)) :
    S.recording.system.Run ⟨(c.shared, past), c.code⟩ ops
      ⟨(c'.shared, past ++ S.trace c ops), c'.code⟩ := by
  induction hrun generalizing past with
  | nil c =>
      rw [trace, List.append_nil]
      exact .nil _
  | @cons c c₁ c' op ops _ hstep _ ih =>
      obtain ⟨t, a⟩ := op
      change S.step c t a = some c₁ at hstep
      rw [trace_cons hstep, ← List.append_assoc]
      rcases step_cases hstep with ⟨hcode, rfl⟩ | ⟨cmd, k, v, s', hcode, hresp, rfl⟩
      · have hstep' : S.recording.step ⟨(c.shared, past), c.code⟩ t a =
            some ⟨(c.shared, past), Function.update c.code t (S.body t)⟩ := by
          simp [step, hcode, recording]
        refine run_cons hstep' ?_
        simpa [executed, hcode] using ih past
      · have hresp' : S.recording.respond cmd a (c.shared, past) =
            some (v, s', past ++ [⟨cmd, v⟩]) := by
          simp [recording, hresp]
        have hexec : S.executed c t a = some ⟨cmd, v⟩ := by simp [executed, hcode, hresp]
        rw [hexec]
        exact run_cons (step_of_respond hcode hresp') (ih (past ++ [⟨cmd, v⟩]))

end Recording

end ThreadSystem

/-! ## Rely and guarantee -/

/-- A discipline for threads: what holds of the shared state and the ghost state
between any two steps, what a thread relies on while the others run, and what has to
be checked before each of its commands. -/
structure Discipline (T Cmd : Type) (Val : Cmd → Type) (A σ Γ : Type) where
  respond : (c : Cmd) → A → σ → Option (Val c × σ)
  inv : Γ → σ → Prop
  rely : T → Γ → σ → Γ → σ → Prop
  check : T → Cmd → σ → Prop
  rely_refl : ∀ t g s, rely t g s g s
  rely_trans : ∀ {t g s g' s' g'' s''}, rely t g s g' s' → rely t g' s' g'' s'' → rely t g s g'' s''

namespace Discipline

variable {T Cmd : Type} {Val : Cmd → Type} {A σ Γ : Type} (D : Discipline T Cmd Val A σ Γ)

/-- The program `p` of thread `t` can go on: every command passes its check, keeps the
invariant and what the other threads rely on, and after any interference the rest can
go on; the results satisfy `Q`. -/
def Safe {α : Type} (t : T) (Q : α → Γ → σ → Prop) : Prog Cmd Val α → Γ → σ → Prop
  | .ret a, g, s => Q a g s
  | .vis c k, g, s => D.check t c s ∧ ∀ a v s', D.respond c a s = some (v, s') →
      ∃ g', D.inv g' s' ∧ (∀ u, u ≠ t → D.rely u g s g' s') ∧
        ∀ g'' s'', D.inv g'' s'' → D.rely t g' s' g'' s'' → Safe t Q (k v) g'' s''

/-- From every state of `P` the program is safe and ends in `Q`. -/
def Triple {α : Type} (t : T) (P : Γ → σ → Prop) (p : Prog Cmd Val α)
    (Q : α → Γ → σ → Prop) : Prop :=
  ∀ g s, D.inv g s → P g s → D.Safe t Q p g s

/-- What the other threads cannot invalidate. -/
def Stable (t : T) (P : Γ → σ → Prop) : Prop :=
  ∀ g s g' s', P g s → D.inv g' s' → D.rely t g s g' s' → P g' s'

variable {D} {t : T} {α β : Type} {P P' : Γ → σ → Prop}

theorem Stable.and (h : D.Stable t P) (h' : D.Stable t P') :
    D.Stable t fun g s => P g s ∧ P' g s :=
  fun g s g' s' hp hinv hr => ⟨h g s g' s' hp.1 hinv hr, h' g s g' s' hp.2 hinv hr⟩

theorem Safe.bind {p : Prog Cmd Val α} {f : α → Prog Cmd Val β} {R : α → Γ → σ → Prop}
    {Q : β → Γ → σ → Prop} {g : Γ} {s : σ} (hinv : D.inv g s) (hp : D.Safe t R p g s)
    (hf : ∀ a, D.Triple t (R a) (f a) Q) : D.Safe t Q (p >>= f) g s := by
  induction p generalizing g s with
  | ret a => exact hf a g s hinv hp
  | vis c k ih =>
      refine ⟨hp.1, ?_⟩
      intro a v s' hresp
      obtain ⟨g', hinv', hguar, hrest⟩ := hp.2 a v s' hresp
      refine ⟨g', hinv', hguar, ?_⟩
      intro g'' s'' hinv'' hrely
      exact ih v hinv'' (hrest g'' s'' hinv'' hrely)

/-- Consequence, for the results. -/
theorem Safe.mono {p : Prog Cmd Val α} {R R' : α → Γ → σ → Prop} {g : Γ} {s : σ}
    (hinv : D.inv g s) (hp : D.Safe t R p g s)
    (h : ∀ a g s, D.inv g s → R a g s → R' a g s) : D.Safe t R' p g s := by
  induction p generalizing g s with
  | ret a => exact h a g s hinv hp
  | vis c k ih =>
      refine ⟨hp.1, ?_⟩
      intro a v s' hresp
      obtain ⟨g', hinv', hguar, hrest⟩ := hp.2 a v s' hresp
      refine ⟨g', hinv', hguar, ?_⟩
      intro g'' s'' hinv'' hrely
      exact ih v hinv'' (hrest g'' s'' hinv'' hrely)

namespace Triple

variable {p : Prog Cmd Val α} {f : α → Prog Cmd Val β} {R : α → Γ → σ → Prop}
  {Q : β → Γ → σ → Prop}

theorem ret {a : α} (h : ∀ g s, D.inv g s → P g s → R a g s) : D.Triple t P (pure a) R := h

/-- Sequencing. -/
theorem bind (hp : D.Triple t P p R) (hf : ∀ a, D.Triple t (R a) (f a) Q) :
    D.Triple t P (p >>= f) Q :=
  fun g s hinv hP => Safe.bind hinv (hp g s hinv hP) hf

/-- Consequence, for the precondition. -/
theorem pre (hp : D.Triple t P' p R) (h : ∀ g s, D.inv g s → P g s → P' g s) :
    D.Triple t P p R :=
  fun g s hinv hP => hp g s hinv (h g s hinv hP)

/-- Consequence, for the results. -/
theorem post {R' : α → Γ → σ → Prop} (hp : D.Triple t P p R)
    (h : ∀ a g s, D.inv g s → R a g s → R' a g s) : D.Triple t P p R' :=
  fun g s hinv hP => Safe.mono hinv (hp g s hinv hP) h

/-- A fact that does not mention the state moves in front of the triple. -/
theorem of_imp {φ : Prop} (h : φ → D.Triple t P p R) :
    D.Triple t (fun g s => φ ∧ P g s) p R :=
  fun g s hinv hP => h hP.1 g s hinv hP.2

/-- So does what exists. -/
theorem of_exists {ι : Type} {P : ι → Γ → σ → Prop} (h : ∀ i, D.Triple t (P i) p R) :
    D.Triple t (fun g s => ∃ i, P i g s) p R := by
  rintro g s hinv ⟨i, hP⟩
  exact h i g s hinv hP

/-- One command. -/
theorem perform {c : Cmd} {R : Val c → Γ → σ → Prop} (hstable : ∀ v, D.Stable t (R v))
    (hcheck : ∀ g s, D.inv g s → P g s → D.check t c s)
    (hstep : ∀ g s a v s', D.inv g s → P g s → D.respond c a s = some (v, s') →
      ∃ g', D.inv g' s' ∧ (∀ u, u ≠ t → D.rely u g s g' s') ∧ R v g' s') :
    D.Triple t P (Prog.perform c) R := by
  intro g s hinv hP
  refine ⟨hcheck g s hinv hP, ?_⟩
  intro a v s' hresp
  obtain ⟨g', hinv', hguar, hR⟩ := hstep g s a v s' hinv hP hresp
  exact ⟨g', hinv', hguar, fun g'' s'' hinv'' hrely => hstable v g' s' g'' s'' hR hinv'' hrely⟩

/-- A command that no thread can tell from interference, its own included: what the
thread knows stays true. -/
theorem frame {c : Cmd} {φ : Val c → Γ → σ → Prop} (hP : D.Stable t P)
    (hφ : ∀ v, D.Stable t (φ v)) (hcheck : ∀ g s, D.inv g s → P g s → D.check t c s)
    (hstep : ∀ g s a v s', D.inv g s → P g s → D.respond c a s = some (v, s') →
      ∃ g', D.inv g' s' ∧ (∀ u, D.rely u g s g' s') ∧ φ v g' s') :
    D.Triple t P (Prog.perform c) fun v g s => φ v g s ∧ P g s := by
  refine perform (fun v => (hφ v).and hP) hcheck ?_
  intro g s a v s' hinv hp hresp
  obtain ⟨g', hinv', hguar, hv⟩ := hstep g s a v s' hinv hp hresp
  exact ⟨g', hinv', fun u _ => hguar u, hv, hP g s g' s' hp hinv' (hguar t)⟩

/-- A command that only looks. -/
theorem look {c : Cmd} {R : Val c → Γ → σ → Prop} (hstable : ∀ v, D.Stable t (R v))
    (hcheck : ∀ g s, D.inv g s → P g s → D.check t c s)
    (hval : ∀ g s a v s', D.inv g s → P g s → D.respond c a s = some (v, s') →
      s' = s ∧ R v g s) : D.Triple t P (Prog.perform c) R := by
  refine perform hstable hcheck ?_
  intro g s a v s' hinv hP hresp
  obtain ⟨rfl, hR⟩ := hval g s a v s' hinv hP hresp
  exact ⟨g, hinv, fun u _ => D.rely_refl u g s', hR⟩

/-- A loop over a list, with an assertion about what is left of the list. -/
theorem forM {γ : Type} {I : List γ → Γ → σ → Prop} {f : γ → Prog Cmd Val PUnit}
    (h : ∀ x xs, D.Triple t (I (x :: xs)) (f x) fun _ => I xs) (xs : List γ) :
    D.Triple t (I xs) (xs.forM f) fun _ => I [] := by
  induction xs with
  | nil => exact ret fun _ _ _ hI => hI
  | cons x xs ih => exact (h x xs).bind fun _ => ih

end Triple

/-! ## Putting the threads together -/

section Sound

variable [DecidableEq T] (D) (body : T → Prog Cmd Val Bool) (loop : T → Γ → σ → Prop)

/-- The system of threads with these bodies. -/
def threads : ThreadSystem T Cmd Val A σ := ⟨D.respond, body⟩

/-- In some ghost state the invariant holds, and what is left of every thread can go on
after any interference; at the end of a round `loop` holds. -/
def Sound (c : ThreadConfig T Cmd Val σ) : Prop :=
  ∃ g, D.inv g c.shared ∧ ∀ t g' s', D.inv g' s' → D.rely t g c.shared g' s' →
    D.Safe t (fun b g s => b = true → loop t g s) (c.code t) g' s'

variable {D body loop} {c c' : ThreadConfig T Cmd Val σ} {a : A}

omit [DecidableEq T] in
/-- The next command of a thread passes its check. -/
theorem Sound.check (h : D.Sound loop c) {cmd : Cmd} (hnext : (c.code t).next = some cmd) :
    D.check t cmd c.shared := by
  obtain ⟨g, hinv, hsafe⟩ := h
  have hsafe := hsafe t g c.shared hinv (D.rely_refl t g c.shared)
  cases hcode : c.code t with
  | ret b => simp [hcode, Prog.next] at hnext
  | vis cmd' k =>
      rw [hcode] at hsafe hnext
      obtain rfl : cmd' = cmd := Option.some.inj hnext
      exact hsafe.1

omit [DecidableEq T] in
/-- In one ghost state the next command of every thread passes its check, also after
anything the thread may rely on. -/
theorem Sound.exists_check (h : D.Sound loop c) :
    ∃ g, D.inv g c.shared ∧ ∀ t cmd g' s', (c.code t).next = some cmd → D.inv g' s' →
      D.rely t g c.shared g' s' → D.check t cmd s' := by
  obtain ⟨g, hinv, hsafe⟩ := h
  refine ⟨g, hinv, ?_⟩
  intro t cmd g' s' hnext hinv' hrely
  have hsafe := hsafe t g' s' hinv' hrely
  cases hcode : c.code t with
  | ret b => simp [hcode, Prog.next] at hnext
  | vis cmd' k =>
      rw [hcode] at hsafe hnext
      obtain rfl : cmd' = cmd := Option.some.inj hnext
      exact hsafe.1

/-- **Every step keeps the threads together.**  The thread that moves follows its own
triple, and the others survive because the step is one they rely on. -/
theorem Sound.step (hloop : ∀ t, D.Stable t (loop t))
    (hbody : ∀ t, D.Triple t (loop t) (body t) fun b g s => b = true → loop t g s)
    (h : D.Sound loop c) (hstep : (D.threads body).step c t a = some c') : D.Sound loop c' := by
  obtain ⟨g, hinv, hsafe⟩ := h
  have hnow := hsafe t g c.shared hinv (D.rely_refl t g c.shared)
  rcases ThreadSystem.step_cases hstep with ⟨hcode, rfl⟩ | ⟨cmd, k, v, s', hcode, hresp, rfl⟩
  · rw [hcode] at hnow
    have hat : loop t g c.shared := hnow rfl
    refine ⟨g, hinv, ?_⟩
    intro u g' s' hinv' hrely
    by_cases hu : u = t
    · subst hu
      have hbegin := hbody u g' s' hinv' (hloop u g c.shared g' s' hat hinv' hrely)
      simpa [threads] using hbegin
    · simpa [hu] using hsafe u g' s' hinv' hrely
  · rw [hcode] at hnow
    obtain ⟨g', hinv', hguar, hrest⟩ := hnow.2 a v s' hresp
    refine ⟨g', hinv', ?_⟩
    intro u g'' s'' hinv'' hrely
    by_cases hu : u = t
    · subst hu
      simpa using hrest g'' s'' hinv'' hrely
    · simpa [hu] using hsafe u g'' s'' hinv'' (D.rely_trans (hguar u hu) hrely)

/-- The same along a run of any length. -/
theorem Sound.run (hloop : ∀ t, D.Stable t (loop t))
    (hbody : ∀ t, D.Triple t (loop t) (body t) fun b g s => b = true → loop t g s)
    {ops : List (T × A)} (h : D.Sound loop c)
    (hrun : (D.threads body).system.Run c ops c') : D.Sound loop c' :=
  hrun.invariant (fun _ _ _ hs _ he => hs.step hloop hbody he) h

end Sound

end Discipline
