import GuitarTea.Lib.LinkHeap
import Mathlib.Data.List.Chain

/-!
# Rings of doubly linked cells

A ring is a list of addresses whose cells point to one another in a circle: the
`next` of each leads to the one behind it, whose `prev` leads back, and behind the
last comes the first.  Where the list begins does not matter.

The rules for changing a ring are about chains, that is about rings that were cut
open.  A chain is not touched by writes to the `next` of its last cell and the `prev`
of its first, whatever else these cells belong to, so that two such writes close it
(`ring_of_unlinked`), and four splice another chain in (`ring_of_spliced`).

## Main definitions

* `LinkHeap.Linked` — two cells that point to each other.
* `LinkHeap.Ring` — a ring.
* `LinkHeap.Ring.walk_next`, `LinkHeap.Ring.walk_prev` — its two traversals.
-/

namespace LinkHeap

variable {α : Type} {h h' : LinkHeap α}

/-! ## Cells -/

theorem next?_ne_none_iff {a : α} : h.next? a ≠ none ↔ h a ≠ none := by
  simp [next?]

/-- A cell is its two pointers. -/
theorem eq_of_pointers {a : α} (hnext : h'.next? a = h.next? a) (hprev : h'.prev? a = h.prev? a) :
    h' a = h a := by
  cases ha : h a with
  | none =>
      cases ha' : h' a with
      | none => rfl
      | some l' => simp [next?, ha, ha'] at hnext
  | some l =>
      cases ha' : h' a with
      | none => simp [next?, ha, ha'] at hnext
      | some l' =>
          obtain ⟨next, prev⟩ := l
          obtain ⟨next', prev'⟩ := l'
          simp only [next?, prev?, ha, ha', Option.map_some, Option.some.injEq] at hnext hprev
          rw [hnext, hprev]

/-- The heaps have the same cells and differ at most in the `next` of some and in the
`prev` of others. -/
structure OnlyAt (nexts prevs : List α) (h h' : LinkHeap α) : Prop where
  next : ∀ a ∉ nexts, h'.next? a = h.next? a
  prev : ∀ a ∉ prevs, h'.prev? a = h.prev? a
  cells : ∀ a, h' a ≠ none ↔ h a ≠ none

theorem OnlyAt.mono {nexts prevs nexts' prevs' : List α} (ho : OnlyAt nexts prevs h h')
    (hnexts : nexts ⊆ nexts') (hprevs : prevs ⊆ prevs') : OnlyAt nexts' prevs' h h' where
  next a ha := ho.next a fun hmem => ha (hnexts hmem)
  prev a ha := ho.prev a fun hmem => ha (hprevs hmem)
  cells := ho.cells

theorem OnlyAt.trans {nexts prevs nexts' prevs' : List α} {h'' : LinkHeap α}
    (h₁ : OnlyAt nexts prevs h h') (h₂ : OnlyAt nexts' prevs' h' h'') :
    OnlyAt (nexts ++ nexts') (prevs ++ prevs') h h'' where
  next a ha := by
    rw [List.mem_append, not_or] at ha
    rw [h₂.next a ha.2, h₁.next a ha.1]
  prev a ha := by
    rw [List.mem_append, not_or] at ha
    rw [h₂.prev a ha.2, h₁.prev a ha.1]
  cells a := (h₂.cells a).trans (h₁.cells a)

/-- A cell neither of whose pointers was written. -/
theorem OnlyAt.eq {nexts prevs : List α} (ho : OnlyAt nexts prevs h h') {a : α}
    (hnext : a ∉ nexts) (hprev : a ∉ prevs) : h' a = h a :=
  eq_of_pointers (ho.next a hnext) (ho.prev a hprev)

section Write

variable [DecidableEq α]

/-- A write to the `next` of a cell that is there. -/
theorem exists_setNext {a : α} (ha : h a ≠ none) (v : α) :
    ∃ h', h.setNext a v = some h' ∧ OnlyAt [a] [] h h' ∧ h'.next? a = some v := by
  obtain ⟨l, hl⟩ := Option.ne_none_iff_exists'.mp ha
  refine ⟨_, setNext_of_eq hl v, ⟨?_, ?_, ?_⟩, by simp [next?]⟩
  · intro b hb
    have hne : b ≠ a := by simpa using hb
    simp [next?, hne]
  · intro b _
    by_cases hb : b = a <;> simp [prev?, hb, hl]
  · intro b
    by_cases hb : b = a <;> simp [hb, hl]

/-- A write to the `prev` of a cell that is there. -/
theorem exists_setPrev {a : α} (ha : h a ≠ none) (v : α) :
    ∃ h', h.setPrev a v = some h' ∧ OnlyAt [] [a] h h' ∧ h'.prev? a = some v := by
  obtain ⟨l, hl⟩ := Option.ne_none_iff_exists'.mp ha
  refine ⟨_, setPrev_of_eq hl v, ⟨?_, ?_, ?_⟩, by simp [prev?]⟩
  · intro b _
    by_cases hb : b = a <;> simp [next?, hb, hl]
  · intro b hb
    have hne : b ≠ a := by simpa using hb
    simp [prev?, hne]
  · intro b
    by_cases hb : b = a <;> simp [hb, hl]

end Write

/-! ## Chains and rings -/

/-- Two cells point to each other. -/
def Linked (h : LinkHeap α) (x y : α) : Prop := h.next? x = some y ∧ h.prev? y = some x

/-- The cells of a list are linked, and the last one to the first. -/
def Ring (h : LinkHeap α) (c : List α) : Prop :=
  List.IsChain h.Linked c ∧ ∀ p ∈ c.getLast?, ∀ n ∈ c.head?, h.Linked p n

/-- A ring of two parts: each is a chain, and they are linked both ways. -/
theorem ring_append_cons_iff {x y : α} {s t : List α} : h.Ring (x :: s ++ y :: t) ↔
    (List.IsChain h.Linked (x :: s) ∧ ∀ p ∈ (x :: s).getLast?, h.Linked p y) ∧
      List.IsChain h.Linked (y :: t) ∧ ∀ p ∈ (y :: t).getLast?, h.Linked p x := by
  have hlast : (x :: s ++ y :: t).getLast? = (y :: t).getLast? :=
    List.getLast?_append_of_ne_nil _ (List.cons_ne_nil y t)
  rw [Ring, List.isChain_append, hlast]
  simp only [List.head?_cons, List.cons_append, Option.mem_some_iff, forall_eq']
  tauto

/-- A ring may begin anywhere. -/
theorem Ring.rotate {s t : List α} (hr : h.Ring (s ++ t)) : h.Ring (t ++ s) := by
  cases s with
  | nil => simpa using hr
  | cons x s =>
      cases t with
      | nil => simpa using hr
      | cons y t => exact ring_append_cons_iff.mpr (ring_append_cons_iff.mp hr).symm

/-- A chain depends only on the `next` of all its cells but the last, and on the `prev`
of all but the first. -/
theorem isChain_congr {c : List α} (hc : List.IsChain h.Linked c)
    (hnext : ∀ x ∈ c.dropLast, h'.next? x = h.next? x)
    (hprev : ∀ x ∈ c.tail, h'.prev? x = h.prev? x) : List.IsChain h'.Linked c := by
  induction c with
  | nil => exact .nil
  | cons x c ih =>
      cases c with
      | nil => exact .singleton x
      | cons y c =>
          obtain ⟨hxy, hrest⟩ := List.isChain_cons_cons.mp hc
          refine List.isChain_cons_cons.mpr ⟨⟨?_, ?_⟩, ih hrest ?_ ?_⟩
          · rw [hnext x (by simp), hxy.1]
          · rw [hprev y (by simp), hxy.2]
          · intro z hz
            exact hnext z (by simp [hz])
          · intro z hz
            exact hprev z (by simp [List.mem_of_mem_tail hz])

/-- A ring depends only on its own cells. -/
theorem Ring.congr {c : List α} (hr : h.Ring c) (hsame : ∀ x ∈ c, h' x = h x) : h'.Ring c := by
  have hnext : ∀ x ∈ c, h'.next? x = h.next? x := by
    intro x hx
    rw [next?, next?, hsame x hx]
  have hprev : ∀ x ∈ c, h'.prev? x = h.prev? x := by
    intro x hx
    rw [prev?, prev?, hsame x hx]
  refine ⟨isChain_congr hr.1 ?_ ?_, ?_⟩
  · intro x hx
    exact hnext x (List.dropLast_subset c hx)
  · intro x hx
    exact hprev x (List.mem_of_mem_tail hx)
  · intro p hp n hn
    obtain ⟨hpn, hnp⟩ := hr.2 p hp n hn
    refine ⟨?_, ?_⟩
    · rw [hnext p (List.mem_of_getLast? hp), hpn]
    · rw [hprev n (List.mem_of_head? hn), hnp]

/-- The first cell of a ring, with the rest behind it. -/
theorem ring_cons_iff {a : α} {l : List α} :
    h.Ring (a :: l) ↔ List.IsChain h.Linked (a :: l ++ [a]) := by
  rw [Ring, List.isChain_append]
  simp

/-- The cells of a ring are there. -/
theorem Ring.ne_none {c : List α} (hr : h.Ring c) {x : α} (hx : x ∈ c) : h x ≠ none := by
  obtain ⟨s, t, rfl⟩ := List.append_of_mem hx
  have hring : h.Ring (x :: (t ++ s)) := Ring.rotate hr
  rw [← next?_ne_none_iff]
  cases hts : t ++ s with
  | nil =>
      rw [hts] at hring
      obtain ⟨hself, -⟩ := hring.2 x rfl x rfl
      simp [hself]
  | cons y rest =>
      rw [hts] at hring
      obtain ⟨hxy, -⟩ := List.isChain_cons_cons.mp hring.1
      simp [hxy.1]

/-- The neighbours of a cell, with the ring cut open there. -/
theorem Ring.neighbours {x p n : α} {c : List α} (hr : h.Ring (x :: c)) (hn : c.head? = some n)
    (hp : c.getLast? = some p) :
    h.next? x = some n ∧ h.prev? x = some p ∧ List.IsChain h.Linked c := by
  cases c with
  | nil => cases hn
  | cons y c =>
      obtain rfl : y = n := Option.some.inj hn
      obtain ⟨hxy, hchain⟩ := List.isChain_cons_cons.mp hr.1
      have hlast : (x :: y :: c).getLast? = some p := by
        rw [List.getLast?_cons_cons, hp]
      exact ⟨hxy.1, (hr.2 p hlast x rfl).2, hchain⟩

/-- Behind a cell comes the rest of the ring, and then the cell itself. -/
theorem Ring.next?_eq {a n : α} {l : List α} (hr : h.Ring (a :: l))
    (hn : (l ++ [a]).head? = some n) : h.next? a = some n := by
  have hchain := ring_cons_iff.mp hr
  cases hl : l ++ [a] with
  | nil => simp at hl
  | cons y rest =>
      rw [List.cons_append, hl, List.isChain_cons_cons] at hchain
      rw [hl] at hn
      obtain rfl : y = n := Option.some.inj hn
      exact hchain.1.1

/-- A ring of one cell. -/
theorem ring_singleton_iff {x : α} : h.Ring [x] ↔ h.next? x = some x ∧ h.prev? x = some x := by
  simp [Ring, Linked]

/-! ## Closing chains -/

section Close

variable {c : List α} (hnodup : c.Nodup)
include hnodup

/-- The last of a list without duplicates is not among the others. -/
theorem ne_of_mem_dropLast {p x : α} (hp : c.getLast? = some p) (hx : x ∈ c.dropLast) : x ≠ p := by
  rintro rfl
  rw [← List.dropLast_append_getLast? x hp, List.nodup_append] at hnodup
  exact hnodup.2.2 x hx x (List.mem_singleton_self x) rfl

/-- Nor is the first. -/
theorem ne_of_mem_tail {n x : α} (hn : c.head? = some n) (hx : x ∈ c.tail) : x ≠ n := by
  rintro rfl
  cases c with
  | nil => cases hn
  | cons y c =>
      obtain rfl : y = x := Option.some.inj hn
      exact (List.nodup_cons.mp hnodup).1 hx

/-- A chain withstands writes to the `next` of its last cell and the `prev` of its
first. -/
theorem isChain_of_ends {p n : α} (hc : List.IsChain h.Linked c) (hn : c.head? = some n)
    (hp : c.getLast? = some p) (hnext : ∀ x ∈ c, x ≠ p → h'.next? x = h.next? x)
    (hprev : ∀ x ∈ c, x ≠ n → h'.prev? x = h.prev? x) : List.IsChain h'.Linked c := by
  refine isChain_congr hc ?_ ?_
  · intro x hx
    exact hnext x (List.dropLast_subset c hx) (ne_of_mem_dropLast hnodup hp hx)
  · intro x hx
    exact hprev x (List.mem_of_mem_tail hx) (ne_of_mem_tail hnodup hn hx)

/-- **Closing a chain.** -/
theorem ring_of_unlinked {p n : α} (hc : List.IsChain h.Linked c) (hn : c.head? = some n)
    (hp : c.getLast? = some p) (hlink : h'.Linked p n) (ho : OnlyAt [p] [n] h h') :
    h'.Ring c := by
  refine ⟨isChain_of_ends hnodup hc hn hp ?_ ?_, ?_⟩
  · intro x _ hne
    exact ho.next x (by simpa using hne)
  · intro x _ hne
    exact ho.prev x (by simpa using hne)
  · intro p' hp' n' hn'
    rw [hp, Option.mem_some_iff] at hp'
    rw [hn, Option.mem_some_iff] at hn'
    rwa [← hp', ← hn']

end Close

/-- **Splicing a chain into another.** -/
theorem ring_of_spliced {s c : List α} (hnodup : (s ++ c).Nodup) {first last p n : α}
    (hs : List.IsChain h.Linked s) (hfirst : s.head? = some first) (hlast : s.getLast? = some last)
    (hc : List.IsChain h.Linked c) (hn : c.head? = some n) (hp : c.getLast? = some p)
    (hbefore : h'.Linked p first) (hbehind : h'.Linked last n)
    (ho : OnlyAt [p, last] [first, n] h h') : h'.Ring (s ++ c) := by
  obtain ⟨hsnodup, hcnodup, hdisj⟩ := List.nodup_append.mp hnodup
  have hfirst' := List.mem_of_head? hfirst
  have hlast' := List.mem_of_getLast? hlast
  have hn' := List.mem_of_head? hn
  have hp' := List.mem_of_getLast? hp
  have hs' : List.IsChain h'.Linked s := by
    refine isChain_of_ends hsnodup hs hfirst hlast ?_ ?_
    · intro x hx hne
      exact ho.next x (by simp [hne, hdisj x hx p hp'])
    · intro x hx hne
      exact ho.prev x (by simp [hne, hdisj x hx n hn'])
  have hc' : List.IsChain h'.Linked c := by
    refine isChain_of_ends hcnodup hc hn hp ?_ ?_
    · intro x hx hne
      exact ho.next x (by simp [hne, (hdisj last hlast' x hx).symm])
    · intro x hx hne
      exact ho.prev x (by simp [hne, (hdisj first hfirst' x hx).symm])
  refine ⟨List.isChain_append.mpr ⟨hs', hc', ?_⟩, ?_⟩
  · intro q hq m hm
    rw [hlast, Option.mem_some_iff] at hq
    rw [hn, Option.mem_some_iff] at hm
    rwa [← hq, ← hm]
  · intro q hq m hm
    rw [List.getLast?_append_of_ne_nil s (List.ne_nil_of_mem hp'), hp, Option.mem_some_iff] at hq
    rw [List.head?_append_of_ne_nil s (List.ne_nil_of_mem hfirst'), hfirst,
      Option.mem_some_iff] at hm
    rwa [← hq, ← hm]

/-! ## Traversal -/

section Walk

variable [DecidableEq α]

/-- A walk along a chain of pointers that ends at the head. -/
theorem walk_of_isChain {step : α → Option α} {head n : α} {l : List α} (hhead : head ∉ l)
    (hc : List.IsChain (fun x y => step x = some y) (l ++ [head]))
    (hn : (l ++ [head]).head? = some n) : walk step head (l.length + 1) n = some l := by
  induction l generalizing n with
  | nil =>
      obtain rfl : head = n := Option.some.inj hn
      simp [walk]
  | cons x l ih =>
      obtain rfl : x = n := Option.some.inj hn
      obtain ⟨hne, hrest⟩ : head ≠ x ∧ head ∉ l := by simpa using hhead
      cases hl : l ++ [head] with
      | nil => simp at hl
      | cons y rest =>
          rw [List.cons_append, hl, List.isChain_cons_cons] at hc
          rw [List.length_cons, walk_succ_of_ne (Ne.symm hne) hc.1,
            ih hrest (hl ▸ hc.2) (by rw [hl]; rfl)]
          rfl

/-- A walk from the head around a circle of pointers. -/
theorem walk_of_circle {step : α → Option α} {a : α} {l : List α} (ha : a ∉ l)
    (hc : List.IsChain (fun x y => step x = some y) (a :: l ++ [a])) {fuel : ℕ}
    (hfuel : l.length < fuel) : (step a).bind (walk step a fuel) = some l := by
  cases hl : l ++ [a] with
  | nil => simp at hl
  | cons n rest =>
      rw [List.cons_append, hl, List.isChain_cons_cons] at hc
      rw [hc.1, Option.bind_some]
      exact walk_mono (walk_of_isChain ha (hl ▸ hc.2) (by rw [hl]; rfl)) hfuel

variable {a : α} {l : List α} (hr : h.Ring (a :: l)) (hnodup : (a :: l).Nodup) {fuel : ℕ}
  (hfuel : l.length < fuel)
include hr hnodup hfuel

/-- **The traversal** of a ring from one of its cells. -/
theorem Ring.walk_next : (h.next? a).bind (walk h.next? a fuel) = some l := by
  refine walk_of_circle (List.nodup_cons.mp hnodup).1 ?_ hfuel
  exact (ring_cons_iff.mp hr).imp fun _ _ hlink => hlink.1

/-- **The traversal in the other direction.** -/
theorem Ring.walk_prev : (h.prev? a).bind (walk h.prev? a fuel) = some l.reverse := by
  have hmem : a ∉ l.reverse := by simpa using (List.nodup_cons.mp hnodup).1
  refine walk_of_circle hmem ?_ (by rwa [List.length_reverse])
  have hreverse : a :: l.reverse ++ [a] = (a :: l ++ [a]).reverse := by simp
  rw [hreverse, List.isChain_reverse]
  exact (ring_cons_iff.mp hr).imp fun _ _ hlink => hlink.2

end Walk

end LinkHeap
