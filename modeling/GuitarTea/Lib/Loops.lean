import GuitarTea.Lib.Ring

/-!
# Loops over doubly linked cells

Two `for` loops that follow a pointer from cell to cell until they are back at the head,
with a body that may change the heap.  `loop` reads the pointer of the current cell
after the body, `loopSafe` has read it before.

The rule for `loopSafe` goes by an invariant about the cells that are still to come, and
allows the body to do anything to the current cell.  There is no such rule for `loop`:
if the body takes the current cell away, the loop may never end.

## Main definitions

* `LinkHeap.loop`, `LinkHeap.loopSafe` — the loops, with fuel.
* `LinkHeap.turns` — where a loop is after some turns.

## Main results

* `loopSafe_of_chain` — a loop that ends.
* `loop_eq_none`, `walk_eq_none` — a loop that never ends.
-/

namespace LinkHeap

variable {α : Type} [DecidableEq α]

section Loops

variable (follow : LinkHeap α → α → Option α) (body : α → LinkHeap α → Option (LinkHeap α))
  (head : α)

/-- The loop from `pos`: the cells visited and the heap at the end. -/
def loop : ℕ → α → LinkHeap α → Option (List α × LinkHeap α)
  | 0, _, _ => none
  | fuel + 1, pos, h =>
      if pos = head then some ([], h)
      else (body pos h).bind fun h => (follow h pos).bind fun next =>
        (loop fuel next h).map fun r => (pos :: r.1, r.2)

/-- One turn of the loop: the body, and the cell that comes next. -/
def turn (pos : α) (h : LinkHeap α) : Option (α × LinkHeap α) :=
  (body pos h).bind fun h => (follow h pos).map fun next => (next, h)

/-- Some turns. -/
def turns : ℕ → α → LinkHeap α → Option (α × LinkHeap α)
  | 0, pos, h => some (pos, h)
  | n + 1, pos, h => (turn follow body pos h).bind fun r => turns n r.1 r.2

/-- The loop from `pos`, with the cell that comes next in `n`. -/
def loopSafe : ℕ → α → α → LinkHeap α → Option (List α × LinkHeap α)
  | 0, _, _, _ => none
  | fuel + 1, pos, n, h =>
      if pos = head then some ([], h)
      else (body pos h).bind fun h => (follow h n).bind fun next =>
        (loopSafe fuel n next h).map fun r => (pos :: r.1, r.2)

end Loops

variable {follow : LinkHeap α → α → Option α} {body : α → LinkHeap α → Option (LinkHeap α)}
  {head : α} {I : List α → LinkHeap α → Prop}

omit [DecidableEq α] in
theorem turn_eq_some_iff {pos next : α} {h h' : LinkHeap α} :
    turn follow body pos h = some (next, h') ↔
      body pos h = some h' ∧ follow h' pos = some next := by
  constructor
  · intro hturn
    obtain ⟨h₁, hbody, hmap⟩ := Option.bind_eq_some_iff.mp hturn
    obtain ⟨next', hnext, heq⟩ := Option.map_eq_some_iff.mp hmap
    cases heq
    exact ⟨hbody, hnext⟩
  · rintro ⟨hbody, hnext⟩
    simp [turn, hbody, hnext]

/-- The loop takes its turns until it is at the head. -/
theorem loop_succ_of_ne {pos : α} (hne : pos ≠ head) (h : LinkHeap α) (fuel : ℕ) :
    loop follow body head (fuel + 1) pos h = (turn follow body pos h).bind fun r =>
      (loop follow body head fuel r.1 r.2).map fun q => (pos :: q.1, q.2) := by
  rw [loop, if_neg hne, turn, Option.bind_assoc]
  refine congrArg _ (funext fun h' => ?_)
  rw [Option.bind_map]
  rfl

omit [DecidableEq α] in
/-- A cell to which a turn leads back without a change: the loop stays there. -/
theorem turns_of_turn_eq {pos : α} {h : LinkHeap α} (hturn : turn follow body pos h = some (pos, h))
    (n : ℕ) : turns follow body n pos h = some (pos, h) := by
  induction n with
  | zero => rfl
  | succ n ih => rw [turns, hturn, Option.bind_some, ih]

omit [DecidableEq α] in
/-- The first cell of what is left, or the head if nothing is left. -/
theorem exists_head?_append (l : List α) (a : α) : ∃ n, (l ++ [a]).head? = some n := by
  cases l with
  | nil => exact ⟨a, rfl⟩
  | cons x l => exact ⟨x, rfl⟩

omit [DecidableEq α] in
/-- The pointer of the first of the cells to come leads to the second. -/
theorem follow_eq_of_isChain {step : α → Option α} {x n : α} {rest : List α}
    (hc : List.IsChain (fun x y => step x = some y) (x :: rest ++ [head]))
    (hn : (rest ++ [head]).head? = some n) : step x = some n := by
  cases hl : rest ++ [head] with
  | nil => simp at hl
  | cons y ys =>
      rw [List.cons_append, hl, List.isChain_cons_cons] at hc
      rw [hl] at hn
      obtain rfl : y = n := Option.some.inj hn
      exact hc.1

/-- **A loop that saves the next cell.**  The body may do what it likes to the current cell,
as long as the cells to come are still linked. -/
theorem loopSafe_of_chain
    (hchain : ∀ rest h, I rest h →
      List.IsChain (fun x y => follow h x = some y) (rest ++ [head]))
    (hhead : ∀ h, I [] h → follow h head ≠ none)
    (hbody : ∀ x rest h, I (x :: rest) h → ∃ h', body x h = some h' ∧ I rest h') {l : List α}
    (hmem : head ∉ l) {h : LinkHeap α} (hI : I l h) {pos n : α}
    (hpos : (l ++ [head]).head? = some pos) (hn : follow h pos = some n) {fuel : ℕ}
    (hfuel : l.length < fuel) :
    ∃ h', loopSafe follow body head fuel pos n h = some (l, h') ∧ I [] h' := by
  induction l generalizing h pos n fuel with
  | nil =>
      obtain rfl : head = pos := Option.some.inj hpos
      obtain ⟨fuel, rfl⟩ : ∃ k, fuel = k + 1 := ⟨fuel - 1, by omega⟩
      exact ⟨h, by simp [loopSafe], hI⟩
  | cons x l ih =>
      obtain rfl : x = pos := Option.some.inj hpos
      obtain ⟨hne, hmem⟩ : head ≠ x ∧ head ∉ l := by simpa using hmem
      rw [List.length_cons] at hfuel
      obtain ⟨fuel, rfl⟩ : ∃ k, fuel = k + 1 := ⟨fuel - 1, by omega⟩
      obtain ⟨m, hm⟩ := exists_head?_append l head
      obtain rfl : m = n :=
        Option.some.inj ((follow_eq_of_isChain (hchain _ h hI) hm).symm.trans hn)
      obtain ⟨h₁, he, hI₁⟩ := hbody x l h hI
      -- the pointer of the saved cell is read in the heap that the body has left
      obtain ⟨next, hnext⟩ : ∃ next, follow h₁ m = some next := by
        cases l with
        | nil =>
            obtain rfl : head = m := Option.some.inj hm
            exact Option.ne_none_iff_exists'.mp (hhead h₁ hI₁)
        | cons y l =>
            obtain rfl : y = m := Option.some.inj hm
            obtain ⟨k, hk⟩ := exists_head?_append l head
            exact ⟨k, follow_eq_of_isChain (hchain _ h₁ hI₁) hk⟩
      obtain ⟨h', hrun, hend⟩ := ih hmem hI₁ hm hnext (by omega : l.length < fuel)
      exact ⟨h', by simp [loopSafe, hne.symm, he, hnext, hrun], hend⟩

/-- **A loop that never ends.**  From a cell of `J` the body fails, or the pointer leads
nowhere, or it leads to a cell of `J` again. -/
theorem loop_eq_none {J : α → LinkHeap α → Prop} (hne : ∀ pos h, J pos h → pos ≠ head)
    (hbody : ∀ pos h h', J pos h → body pos h = some h' →
      ∀ next, follow h' pos = some next → J next h')
    {pos : α} {h : LinkHeap α} (hJ : J pos h) (fuel : ℕ) :
    loop follow body head fuel pos h = none := by
  induction fuel generalizing pos h with
  | zero => rfl
  | succ fuel ih =>
      rw [loop_succ_of_ne (hne pos h hJ)]
      cases hturn : turn follow body pos h with
      | none => rfl
      | some r =>
          obtain ⟨next, h'⟩ := r
          obtain ⟨he, hnext⟩ := turn_eq_some_iff.mp hturn
          rw [Option.bind_some, ih (hbody pos h h' hJ he next hnext), Option.map_none]

/-- A walk that never ends.  From a cell of `J` it only comes to cells of `J`. -/
theorem walk_eq_none {step : α → Option α} {J : α → Prop} (hne : ∀ pos, J pos → pos ≠ head)
    (hstep : ∀ pos next, J pos → step pos = some next → J next) {pos : α} (hJ : J pos)
    (fuel : ℕ) : walk step head fuel pos = none := by
  induction fuel generalizing pos with
  | zero => rfl
  | succ fuel ih =>
      cases hs : step pos with
      | none => simp [walk, hne pos hJ, hs]
      | some next =>
          rw [walk_succ_of_ne (hne pos hJ) hs, ih (hstep pos next hJ hs), Option.map_none]

end LinkHeap
