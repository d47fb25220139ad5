import Mathlib.Data.List.Basic

/-!
# Guarded transition systems and their runs

A guarded system separates what the environment is allowed to ask for (`legal`)
from what the program does when it is asked (`exec`).  An action that is not
legal ends the discussion: nothing is claimed about it.  An action that is legal
must be executed, so `none` from `exec` is a fault of the program and never a
disabled transition.

The two predicates on runs are `Always`, which follows the program along a list
of actions and demands that every legal one succeeds and satisfies a
postcondition, and `Meets`, which only asks that every legal action is taken in a
state that satisfies a condition.  The rules below relate the two through an
invariant: `always_of_meets` is the ordinary induction along a run, and
`always_iff_meets` adds that the condition cannot be dropped.

## Main definitions

* `GuardedSystem σ α` — legality and execution of actions `α` on states `σ`.
* `GuardedSystem.Run` — the legal runs, with their end state.
* `GuardedSystem.Always`, `GuardedSystem.Meets` — properties of a whole run.
* `GuardedSystem.always_of_meets`, `GuardedSystem.always_iff_meets` — the rules.
* `GuardedSystem.execAll` — runs of a system whose legality is decidable.
-/

/-- Legality and execution of actions on states. -/
structure GuardedSystem (σ α : Type) where
  /-- The actions the environment may take in a state. -/
  legal : σ → α → Prop
  /-- The effect of an action; `none` is a fault. -/
  exec : σ → α → Option σ

namespace GuardedSystem

variable {σ α : Type} (S : GuardedSystem σ α)

/-- The legal runs that do not fault, with the state they end in. -/
inductive Run : σ → List α → σ → Prop
  | nil (s : σ) : Run s [] s
  | cons {s s' s'' : σ} {a : α} {as : List α} :
      S.legal s a → S.exec s a = some s' → Run s' as s'' → Run s (a :: as) s''

/-- Along the run, every legal action succeeds and establishes `Q`. -/
def Always (Q : σ → α → σ → Prop) : σ → List α → Prop
  | _, [] => True
  | s, a :: as => S.legal s a → ∃ s', S.exec s a = some s' ∧ Q s a s' ∧ Always Q s' as

/-- Along the run, every legal action is taken in a state that satisfies `C`. -/
def Meets (C : σ → α → Prop) : σ → List α → Prop
  | _, [] => True
  | s, a :: as => S.legal s a → C s a ∧ ∀ s', S.exec s a = some s' → Meets C s' as

variable {S} {Q : σ → α → σ → Prop} {C : σ → α → Prop} {I : σ → Prop}

/-- A legal action that succeeds moves `Meets` to the next state. -/
theorem meets_cons_iff {s s' : σ} {a : α} {as : List α} (hl : S.legal s a)
    (he : S.exec s a = some s') : S.Meets C s (a :: as) ↔ C s a ∧ S.Meets C s' as := by
  simp only [Meets, hl, true_implies, he, Option.some.injEq, forall_eq']

/-- A legal action that succeeds moves `Always` to the next state. -/
theorem always_cons_iff {s s' : σ} {a : α} {as : List α} (hl : S.legal s a)
    (he : S.exec s a = some s') : S.Always Q s (a :: as) ↔ Q s a s' ∧ S.Always Q s' as := by
  simp only [Always, hl, true_implies, he, Option.some.injEq, exists_eq_left']

/-- A condition that holds of the actions in any state. -/
theorem meets_of_forall {as : List α} (h : ∀ a ∈ as, ∀ s, C s a) : ∀ s, S.Meets C s as := by
  induction as with
  | nil => exact fun _ => trivial
  | cons a as ih =>
      intro s _
      refine ⟨h a List.mem_cons_self s, fun s' _ => ?_⟩
      exact ih (fun b hb => h b (List.mem_cons_of_mem a hb)) s'

/-- **Induction along a run.**  An invariant that carries the postcondition over
every step whose condition is met carries it over the whole run. -/
theorem always_of_meets
    (hstep : ∀ s a, I s → S.legal s a → C s a →
      ∃ s', S.exec s a = some s' ∧ Q s a s' ∧ I s') :
    ∀ (as : List α) (s : σ), I s → S.Meets C s as → S.Always Q s as := by
  intro as
  induction as with
  | nil => intro s _ _; trivial
  | cons a as ih =>
      intro s hs hm hl
      obtain ⟨hc, hrest⟩ := hm hl
      obtain ⟨s', he, hq, hs'⟩ := hstep s a hs hl hc
      exact ⟨s', he, hq, ih s' hs' (hrest s' he)⟩

/-- **The condition is exact.**  When moreover every step that misses the
condition misses the postcondition, the runs that keep the postcondition are the
runs that keep the condition. -/
theorem always_iff_meets
    (hstep : ∀ s a, I s → S.legal s a → C s a →
      ∃ s', S.exec s a = some s' ∧ Q s a s' ∧ I s')
    (hbad : ∀ s a s', I s → S.legal s a → ¬ C s a → S.exec s a = some s' → ¬ Q s a s') :
    ∀ (as : List α) (s : σ), I s → (S.Always Q s as ↔ S.Meets C s as) := by
  intro as s hs
  refine ⟨?_, always_of_meets hstep as s hs⟩
  induction as generalizing s with
  | nil => intro _; trivial
  | cons a as ih =>
      intro h hl
      obtain ⟨s', he, hq, hrest⟩ := h hl
      have hc : C s a := by
        by_contra hc
        exact hbad s a s' hs hl hc he hq
      obtain ⟨t, ht, _, hs'⟩ := hstep s a hs hl hc
      obtain rfl : s' = t := Option.some.inj (he.symm.trans ht)
      refine ⟨hc, ?_⟩
      intro u hu
      obtain rfl : s' = u := Option.some.inj (he.symm.trans hu)
      exact ih s' hs' hrest

/-- One run after another. -/
theorem Run.append {s s' s'' : σ} {as bs : List α} (h : S.Run s as s') (h' : S.Run s' bs s'') :
    S.Run s (as ++ bs) s'' := by
  induction h with
  | nil => exact h'
  | cons hl he _ ih => exact .cons hl he (ih h')

/-- A condition along one run after another. -/
theorem Run.meets_append {s s' : σ} {as bs : List α} (h : S.Run s as s') :
    S.Meets C s as → S.Meets C s' bs → S.Meets C s (as ++ bs) := by
  induction h with
  | nil => exact fun _ hbs => hbs
  | cons hl he _ ih =>
      intro has hbs
      obtain ⟨hc, hrest⟩ := (meets_cons_iff hl he).mp has
      exact (meets_cons_iff hl he).mpr ⟨hc, ih hrest hbs⟩

/-- What `Always` says about a run it says about the rest of the run. -/
theorem Run.always_append {s s' : σ} {as : List α} (h : S.Run s as s') (bs : List α) :
    S.Always Q s (as ++ bs) → S.Always Q s' bs := by
  induction h with
  | nil => exact id
  | cons hl he _ ih =>
      intro ha
      exact ih ((always_cons_iff hl he).mp ha).2

/-- A property that every legal step preserves holds at the end of every run. -/
theorem Run.invariant (hstep : ∀ s a s', I s → S.legal s a → S.exec s a = some s' → I s')
    {s s' : σ} {as : List α} (h : S.Run s as s') : I s → I s' := by
  induction h with
  | nil => exact id
  | cons hl he _ ih => exact fun hs => ih (hstep _ _ _ hs hl he)

/-- The same along a run whose steps meet a condition. -/
theorem Run.invariant_of_meets
    (hstep : ∀ s a s', I s → S.legal s a → C s a → S.exec s a = some s' → I s')
    {s s' : σ} {as : List α} (h : S.Run s as s') : S.Meets C s as → I s → I s' := by
  induction h with
  | nil => exact fun _ hs => hs
  | cons hl he _ ih =>
      intro hm hs
      obtain ⟨hc, hrest⟩ := hm hl
      exact ih (hrest _ he) (hstep _ _ _ hs hl hc he)

section Execute

variable (S) [∀ s a, Decidable (S.legal s a)]

/-- Follow a list of actions, as long as they are legal and do not fault. -/
def execAll : σ → List α → Option σ
  | s, [] => some s
  | s, a :: as => if S.legal s a then (S.exec s a).bind fun s' => execAll s' as else none

variable {S}

/-- What `execAll` computes is a run. -/
theorem run_of_execAll {as : List α} :
    ∀ {s s' : σ}, S.execAll s as = some s' → S.Run s as s' := by
  induction as with
  | nil =>
      intro s s' h
      obtain rfl := Option.some.inj h
      exact .nil s
  | cons a as ih =>
      intro s s' h
      rw [execAll] at h
      split at h
      · rename_i hl
        obtain ⟨t, ht, hrest⟩ := Option.bind_eq_some_iff.mp h
        exact .cons hl ht (ih hrest)
      · cases h

/-- It finds every run. -/
theorem execAll_of_run {s s' : σ} {as : List α} (h : S.Run s as s') :
    S.execAll s as = some s' := by
  induction h with
  | nil => rfl
  | cons hl he _ ih => rw [execAll, if_pos hl, he, Option.bind_some, ih]

theorem execAll_append (as bs : List α) (s : σ) :
    S.execAll s (as ++ bs) = (S.execAll s as).bind fun s' => S.execAll s' bs := by
  induction as generalizing s with
  | nil => rfl
  | cons a as ih =>
      rw [List.cons_append, execAll, execAll]
      split
      · rw [Option.bind_assoc]
        exact congrArg _ (funext ih)
      · rfl

/-- A run is found by following the actions: what is checked of the state they lead to may
be used for what is claimed about it. -/
theorem exists_run_of_execAll (P : σ → Prop) [DecidablePred P] {s : σ} {as : List α}
    (h : ((S.execAll s as).any fun s' => decide (P s')) = true)
    (hI : ∀ s', S.Run s as s' → P s' → I s') : ∃ s', S.Run s as s' ∧ I s' := by
  cases he : S.execAll s as with
  | none => simp [he] at h
  | some s' =>
      have hrun : S.Run s as s' := run_of_execAll he
      have hP : P s' := by simpa [he] using h
      exact ⟨s', hrun, hI s' hrun hP⟩

/-- `Meets` can be checked by following the run. -/
instance decidableMeets [∀ s a, Decidable (C s a)] :
    ∀ (as : List α) (s : σ), Decidable (S.Meets C s as)
  | [], _ => .isTrue trivial
  | a :: as, s =>
      if hl : S.legal s a then
        match he : S.exec s a with
        | none => decidable_of_iff (C s a) (by simp [Meets, hl, he])
        | some s' =>
            have := decidableMeets as s'
            decidable_of_iff (C s a ∧ S.Meets C s' as) (meets_cons_iff hl he).symm
      else .isTrue fun h => absurd h hl

end Execute

end GuardedSystem
