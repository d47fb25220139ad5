import Mathlib.Tactic.Common

/-!
# Calls whose return codes are checked

C code that runs one call after the other and leaves with an error code at the
first one that does not return the code for success.  A call works on a state and
returns a code; `none` is undefined behaviour.

`Spec` describes such a call: from a good state it returns, it succeeds exactly
when a condition on the answers of the outside world holds, and after a success
the state satisfies a postcondition.  Specifications of calls in a row are put
together with `Spec.checked`.

## Main definitions

* `checked` — a call, what is done when it fails, and what comes after it.
* `Spec` — what a call does.
-/

namespace CheckedCall

variable {C σ : Type*} (ok : C)

/-- Run a call; when it fails, `fail` turns its code into the code returned, and
otherwise the rest runs. -/
def checked [DecidableEq C] (f : σ → Option (C × σ)) (fail : C → σ → C × σ)
    (rest : σ → Option (C × σ)) (s : σ) : Option (C × σ) :=
  match f s with
  | none => none
  | some (ret, s') => if ok ≠ ret then some (fail ret s') else rest s'

/-- From a state with `P` the call returns; it succeeds exactly when `c` holds, and then
leaves a state with `Q`. -/
def Spec (P : σ → Prop) (f : σ → Option (C × σ)) (c : Prop) (Q : σ → Prop) : Prop :=
  ∀ s, P s → ∃ ret s', f s = some (ret, s') ∧ (ret = ok ↔ c) ∧ (ret = ok → Q s')

variable {ok}

/-- What `Spec` asks of a run that fails. -/
theorem exists_failed {f : σ → Option (C × σ)} {c : Prop} {Q : σ → Prop} {s s' : σ} {ret : C}
    (hrun : f s = some (ret, s')) (hret : ret ≠ ok) (hc : ¬ c) :
    ∃ ret s', f s = some (ret, s') ∧ (ret = ok ↔ c) ∧ (ret = ok → Q s') :=
  ⟨ret, s', hrun, iff_of_false hret hc, fun h => absurd h hret⟩

/-- A call that only returns a code. -/
theorem Spec.code (P : σ → Prop) (ret : C) : Spec ok P (fun s => some (ret, s)) (ret = ok) P := by
  intro s hs
  exact ⟨ret, s, rfl, Iff.rfl, fun _ => hs⟩

/-- The end of a function that succeeds. -/
theorem Spec.done (P : σ → Prop) : Spec ok P (fun s => some (ok, s)) True P := by
  intro s hs
  exact ⟨ok, s, rfl, iff_of_true rfl trivial, fun _ => hs⟩

/-- **Two calls in a row** succeed exactly when both do. -/
theorem Spec.checked [DecidableEq C] {P Q R : σ → Prop} {c d : Prop} {f rest : σ → Option (C × σ)}
    {fail : C → σ → C × σ} (hf : Spec ok P f c Q) (hrest : Spec ok Q rest d R)
    (hfail : ∀ ret s, ret ≠ ok → (fail ret s).1 ≠ ok) :
    Spec ok P (checked ok f fail rest) (c ∧ d) R := by
  intro s hs
  obtain ⟨ret, s₁, hrun, hiff, hQ⟩ := hf s hs
  by_cases hret : ret = ok
  · obtain ⟨ret₂, s₂, hrun₂, hiff₂, hR⟩ := hrest s₁ (hQ hret)
    refine ⟨ret₂, s₂, ?_, ?_, hR⟩
    · rw [CheckedCall.checked, hrun]
      simp only [hret, ne_eq, not_true_eq_false, if_false, hrun₂]
    · rw [hiff₂]
      exact ⟨fun hd => ⟨hiff.mp hret, hd⟩, fun h => h.2⟩
  · have hcode := hfail ret s₁ hret
    refine ⟨(fail ret s₁).1, (fail ret s₁).2, ?_, ?_, fun h => absurd h hcode⟩
    · rw [CheckedCall.checked, hrun]
      simp only [ne_eq, Ne.symm hret, not_false_eq_true, if_true]
    · exact iff_of_false hcode (fun h => hret (hiff.mpr h.1))

/-- Strengthen the precondition, and restate the condition. -/
theorem Spec.of_iff {P P' Q : σ → Prop} {c c' : Prop} {f : σ → Option (C × σ)}
    (h : Spec ok P f c Q) (hP : ∀ s, P' s → P s) (hc : c ↔ c') : Spec ok P' f c' Q := by
  intro s hs
  obtain ⟨ret, s', hrun, hiff, hQ⟩ := h s (hP s hs)
  exact ⟨ret, s', hrun, hiff.trans hc, hQ⟩

end CheckedCall
