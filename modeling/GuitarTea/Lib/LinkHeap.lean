import Mathlib.Data.List.Nodup
import Mathlib.Logic.Function.Basic

/-!
# Heaps of doubly linked cells

A `LinkHeap α` maps addresses to cells that hold two pointers.  It is a partial
map: an address without a cell was never allocated, or was freed, and every
access to it is `none`.  A program that keeps succeeding therefore never follows
a dangling pointer.

`walk` follows one of the two pointers from a position until it is back at the
head, and returns the addresses in between.  It takes fuel, since nothing forces
the pointers to lead back; `walk_mono` says that more fuel changes nothing once
the walk has ended.

## Main definitions

* `Link α`, `LinkHeap α` — cells and heaps.
* `LinkHeap.next?`, `LinkHeap.setNext` and their `prev` counterparts — accesses.
* `LinkHeap.walk` — the addresses from a position up to the head.
-/

/-- A cell with two pointers. -/
structure Link (α : Type) where
  next : α
  prev : α
  deriving DecidableEq, Repr

/-- A partial map from addresses to cells. -/
abbrev LinkHeap (α : Type) := α → Option (Link α)

namespace LinkHeap

variable {α : Type} [DecidableEq α]

/-- Read the pointer to the next cell. -/
def next? (h : LinkHeap α) (a : α) : Option α := (h a).map Link.next

/-- Read the pointer to the previous cell. -/
def prev? (h : LinkHeap α) (a : α) : Option α := (h a).map Link.prev

/-- Write the pointer to the next cell. -/
def setNext (h : LinkHeap α) (a v : α) : Option (LinkHeap α) :=
  (h a).map fun l => Function.update h a (some { l with next := v })

/-- Write the pointer to the previous cell. -/
def setPrev (h : LinkHeap α) (a v : α) : Option (LinkHeap α) :=
  (h a).map fun l => Function.update h a (some { l with prev := v })

omit [DecidableEq α] in
theorem next?_of_eq {h : LinkHeap α} {a : α} {l : Link α} (ha : h a = some l) :
    h.next? a = some l.next := by
  simp [next?, ha]

omit [DecidableEq α] in
theorem prev?_of_eq {h : LinkHeap α} {a : α} {l : Link α} (ha : h a = some l) :
    h.prev? a = some l.prev := by
  simp [prev?, ha]

theorem setNext_of_eq {h : LinkHeap α} {a : α} {l : Link α} (ha : h a = some l) (v : α) :
    h.setNext a v = some (Function.update h a (some { l with next := v })) := by
  simp [setNext, ha]

theorem setPrev_of_eq {h : LinkHeap α} {a : α} {l : Link α} (ha : h a = some l) (v : α) :
    h.setPrev a v = some (Function.update h a (some { l with prev := v })) := by
  simp [setPrev, ha]

/-! ## Traversal -/

/-- The addresses visited from `pos` until `head`, following `step`; `none` when
the fuel runs out or a cell is missing. -/
def walk (step : α → Option α) (head : α) : ℕ → α → Option (List α)
  | 0, _ => none
  | fuel + 1, pos =>
      if pos = head then some []
      else (step pos).bind fun next => (walk step head fuel next).map (pos :: ·)

theorem walk_succ_of_ne {step : α → Option α} {head pos next : α} {fuel : ℕ} (hne : pos ≠ head)
    (hs : step pos = some next) :
    walk step head (fuel + 1) pos = (walk step head fuel next).map (pos :: ·) := by
  simp [walk, hne, hs]

/-- More fuel does not change a walk that has ended. -/
theorem walk_mono {step : α → Option α} {head : α} {fuel fuel' : ℕ} {pos : α} {xs : List α}
    (h : walk step head fuel pos = some xs) (hle : fuel ≤ fuel') :
    walk step head fuel' pos = some xs := by
  induction fuel generalizing fuel' pos xs with
  | zero => simp [walk] at h
  | succ fuel ih =>
      obtain ⟨k, rfl⟩ : ∃ k, fuel' = k + 1 := ⟨fuel' - 1, by omega⟩
      by_cases hp : pos = head
      · simpa [walk, hp] using h
      · cases hs : step pos with
        | none => simp [walk, hp, hs] at h
        | some next =>
            rw [walk_succ_of_ne hp hs, Option.map_eq_some_iff] at h
            obtain ⟨ys, hys, rfl⟩ := h
            rw [walk_succ_of_ne hp hs, ih hys (by omega)]
            rfl

/-- Two walks from one position that have both ended visited the same addresses. -/
theorem walk_unique {step : α → Option α} {head : α} {fuel fuel' : ℕ} {pos : α} {xs ys : List α}
    (hx : walk step head fuel pos = some xs) (hy : walk step head fuel' pos = some ys) :
    xs = ys := by
  have hx' := walk_mono hx (Nat.le_max_left fuel fuel')
  have hy' := walk_mono hy (Nat.le_max_right fuel fuel')
  exact Option.some.inj (hx'.symm.trans hy')

end LinkHeap
