import GuitarTea.ListLoops

/-!
# Splicing without initialising

`list_splice` and `list_splice_tail` move the entries of a list and leave its head as it
was, with two pointers into a ring that the head is not in any more.  The other list is
what it should be, but a loop over the old head does not come to an end, and the head has
to be initialised before it is a list again.

## Main definitions

* `listSplice`, `listSpliceTail` — the two functions.

## Main results

* `splice_leaves_stale_head` — what they leave behind.
-/

namespace GuitarTea

open LinkHeap

variable {α : Type} [DecidableEq α]

/-- `list_splice`: put the entries of `list` at the front of `head`. -/
def listSplice (list head : α) (h : LinkHeap α) : Option (LinkHeap α) := do
  let empty ← listEmpty list h
  if empty then some h
  else
    let next ← h.next? head
    rawListSplice list head next h

/-- `list_splice_tail`: put the entries of `list` at the end of `head`. -/
def listSpliceTail (list head : α) (h : LinkHeap α) : Option (LinkHeap α) := do
  let empty ← listEmpty list h
  if empty then some h
  else
    let prev ← h.prev? head
    rawListSplice list prev head h

section Rings

variable {h : LinkHeap α} {a b x y : α} {c : List α}

omit [DecidableEq α] in
/-- The pointers of a ring do not lead out of it. -/
theorem mem_of_next? (hr : h.Ring c) (hx : x ∈ c) (hy : h.next? x = some y) : y ∈ c := by
  obtain ⟨s, t, rfl⟩ := List.append_of_mem hx
  have hring : h.Ring (x :: (t ++ s)) := Ring.rotate hr
  obtain ⟨n, hn⟩ := exists_head?_append (t ++ s) x
  obtain rfl : n = y := Option.some.inj ((hring.next?_eq hn).symm.trans hy)
  have hmem := List.mem_of_head? hn
  simp only [List.mem_append, List.mem_cons] at hmem ⊢
  tauto

omit [DecidableEq α] in
theorem mem_of_prev? (hr : h.Ring c) (hx : x ∈ c) (hy : h.prev? x = some y) : y ∈ c := by
  obtain ⟨s, t, rfl⟩ := List.append_of_mem hx
  have hring : h.Ring (x :: (t ++ s)) := Ring.rotate hr
  obtain ⟨p, hp⟩ : ∃ p, (x :: (t ++ s)).getLast? = some p :=
    ⟨_, List.getLast?_eq_some_getLast (List.cons_ne_nil x _)⟩
  obtain rfl : p = y := Option.some.inj ((hring.2 p hp x rfl).2.symm.trans hy)
  have hmem := List.mem_of_getLast? hp
  simp only [List.mem_append, List.mem_cons] at hmem ⊢
  tauto

/-- A head whose pointers lead into a ring that it is not in. -/
theorem traversals_eq_none (hr : h.Ring c) (ha : a ∉ c) (hnext : h.next? a = some x)
    (hprev : h.prev? a = some y) (hx : x ∈ c) (hy : y ∈ c) (fuel : ℕ) :
    listForEach a h fuel = none ∧ listForEachPrev a h fuel = none := by
  have hne : ∀ pos, pos ∈ c → pos ≠ a := by
    rintro pos hpos rfl
    exact ha hpos
  constructor
  · rw [listForEach, hnext, Option.bind_some]
    exact walk_eq_none hne (fun _ _ hpos hs => mem_of_next? hr hpos hs) hx fuel
  · rw [listForEachPrev, hprev, Option.bind_some]
    exact walk_eq_none hne (fun _ _ hpos hs => mem_of_prev? hr hpos hs) hy fuel

/-- A head that is alone is initialised already. -/
theorem initListHead_eq_self (hself : h.Ring [a]) : initListHead a h = some h := by
  obtain ⟨hnext, hprev⟩ := ring_singleton_iff.mp hself
  have hcell : h a = some ⟨a, a⟩ := by
    cases hl : h a with
    | none => simp [next?, hl] at hnext
    | some l =>
        obtain ⟨next, prev⟩ := l
        simp_all [next?, prev?]
  have hsame : Function.update h a (some ⟨a, a⟩) = h := by
    rw [← hcell, Function.update_eq_self]
  simp [initListHead, setNext, setPrev, hcell, hsame]

/-- `__list_splice` writes to the two ends of the entries and to the two places between
which they go. -/
theorem apply_rawListSplice {h₁ : LinkHeap α} {list p n first last : α}
    (he : rawListSplice list p n h = some h₁) (hfirst : h.next? list = some first)
    (hlast : h.prev? list = some last) (hx : x ∉ [first, last, p, n]) : h₁ x = h x := by
  simp only [List.mem_cons, List.not_mem_nil, or_false, not_or] at hx
  obtain ⟨hxf, hxl, hxp, hxn⟩ := hx
  simp only [rawListSplice, hfirst, hlast, Option.bind_eq_bind, Option.bind_some,
    Option.bind_eq_some_iff, setNext, setPrev, Option.map_eq_some_iff] at he
  obtain ⟨-, ⟨-, -, rfl⟩, -, ⟨-, -, rfl⟩, -, ⟨-, -, rfl⟩, -, -, rfl⟩ := he
  simp [hxf, hxl, hxp, hxn]

end Rings

section Splice

variable {h h₁ h₂ : LinkHeap α} {F F' : ListFamily α} {list head : α} {s l' m : List α}

/-- The heap before a head is initialised again. -/
theorem Refines.before_init (hr : Refines h₂ F') (hlist : F' list = some [])
    (hinit : initListHead list h₁ = some h₂) : Refines h₁ (Function.update F' list none) := by
  have hdrop : Refines h₂ (Function.update F' list none) :=
    (hr.drop (List.mem_singleton_self list)).refines
  have hcell : h₁ list ≠ none := by
    intro hnone
    simp [initListHead, setNext, hnone] at hinit
  obtain ⟨h₂', hinit', -, ho⟩ := exists_initListHead hcell
  obtain rfl : h₂ = h₂' := Option.some.inj (hinit.symm.trans hinit')
  refine ⟨hdrop.separate, fun b k hb => (hdrop.ring b k hb).congr fun x hx => ?_⟩
  have hne : x ≠ list := by
    rintro rfl
    exact ListFamily.loose_drop (hr.separate.outside hlist List.mem_cons_self) b k hb hx
  exact (ho.eq (by simpa using hne) (by simpa using hne)).symm

/-- What both functions leave behind when there was something to move. -/
theorem Refines.stale (hr : Refines h F) (hs : F list = some s) (hsne : s ≠ [])
    (hr₂ : Refines h₂ F') (hlist : F' list = some []) (hhead : F' head = some l') (hsub : s ⊆ l')
    (hne : list ≠ head) (hinit : initListHead list h₁ = some h₂) (hsame : h₁ list = h list)
    (fuel : ℕ) : listForEach list h₁ fuel = none ∧ listForEachPrev list h₁ fuel = none := by
  obtain ⟨first, last, hfirst, hlast, hfmem, hlmem⟩ := exists_ends hsne
  obtain ⟨hnext, hprev, -⟩ := (hr.ring list s hs).neighbours hfirst hlast
  have hring : h₁.Ring (head :: l') :=
    (hr₂.before_init hlist hinit).ring head l' (by rw [Function.update_of_ne hne.symm, hhead])
  refine traversals_eq_none (x := first) (y := last) hring ?_ ?_ ?_ ?_ ?_ fuel
  · intro hmem
    exact hr₂.separate.disjoint list head [] l' hlist hhead hne list List.mem_cons_self hmem
  · rw [next?, hsame]
    exact hnext
  · rw [prev?, hsame]
    exact hprev
  · exact List.mem_cons_of_mem head (hsub hfmem)
  · exact List.mem_cons_of_mem head (hsub hlmem)

variable (hr : Refines h F) (hne : list ≠ head) (hs : F list = some s) (hm : F head = some m)
include hr hne hs hm

/-- What `list_splice` and `list_splice_tail` have in common, when there is something to
move: `hinit` says what the functions do that also initialise the head. -/
theorem Refines.exists_unfinished {p n : α} (hsne : s ≠ []) (hp : p ∈ head :: m)
    (hn : n ∈ head :: m) (hinit : (rawListSplice list p n h).bind (initListHead list) = some h₂)
    (hr₂ : Refines h₂ (Function.update (Function.update F list (some [])) head (some l')))
    (hsub : s ⊆ l') :
    ∃ h₁, rawListSplice list p n h = some h₁ ∧
      Refines h₁ (Function.update (Function.update F list none) head (some l')) ∧
      (∀ fuel, listForEach list h₁ fuel = none ∧ listForEachPrev list h₁ fuel = none) ∧
      initListHead list h₁ = some h₂ := by
  obtain ⟨h₁, he, hinit⟩ := Option.bind_eq_some_iff.mp hinit
  obtain ⟨first, last, hfirst, hlast, hfmem, hlmem⟩ := exists_ends hsne
  obtain ⟨hnext, hprev, -⟩ := (hr.ring list s hs).neighbours hfirst hlast
  have hlist : ∀ x ∈ list :: s, ∀ y ∈ head :: m, x ≠ y := by
    rintro x hx y hy rfl
    exact hr.separate.disjoint list head s m hs hm hne x hx hy
  have hself : ∀ x ∈ s, list ≠ x := by
    rintro x hx rfl
    exact (List.nodup_cons.mp (hr.separate.nodup list s hs)).1 hx
  have hsame : h₁ list = h list := by
    refine apply_rawListSplice he hnext hprev ?_
    simp [hself first hfmem, hself last hlmem, hlist list List.mem_cons_self p hp,
      hlist list List.mem_cons_self n hn]
  have hempty : Function.update (Function.update F list (some [])) head (some l') list =
      some [] := by
    simp [hne]
  refine ⟨h₁, he, ?_, ?_, hinit⟩
  · have hbefore := hr₂.before_init hempty hinit
    rwa [Function.update_comm hne.symm, Function.update_idem] at hbefore
  · exact hr.stale hs hsne hr₂ hempty (by simp) hsub hne hinit hsame

/-- A list without entries is left as it is. -/
theorem Refines.empty_unfinished (hempty : s = []) : listEmpty list h = some true ∧
    Refines h (Function.update (Function.update F list none) head (some m)) ∧
    initListHead list h = some h := by
  subst hempty
  obtain ⟨hself, -⟩ := ring_singleton_iff.mp (hr.ring list [] hs)
  refine ⟨by simp [listEmpty, hself], ?_, initListHead_eq_self (hr.ring list [] hs)⟩
  have hsame : Function.update (Function.update F list none) head (some m) =
      Function.update F list none := by
    rw [Function.update_eq_self_iff, Function.update_of_ne hne.symm, hm]
  rw [hsame]
  exact (hr.drop (List.mem_singleton_self list)).refines

/-- **Splicing without initialising.**  The target of `list_splice` and `list_splice_tail`
is as after the functions that initialise, but if anything was moved, no traversal from
the old head comes to an end.  `INIT_LIST_HEAD` on it makes up for the difference. -/
theorem splice_leaves_stale_head :
    (∃ h', listSplice list head h = some h' ∧
      Refines h' (Function.update (Function.update F list none) head (some (s ++ m))) ∧
      (s ≠ [] → ∀ fuel, listForEach list h' fuel = none ∧ listForEachPrev list h' fuel = none) ∧
      initListHead list h' = listSpliceInit list head h) ∧
    ∃ h', listSpliceTail list head h = some h' ∧
      Refines h' (Function.update (Function.update F list none) head (some (m ++ s))) ∧
      (s ≠ [] → ∀ fuel, listForEach list h' fuel = none ∧ listForEachPrev list h' fuel = none) ∧
      initListHead list h' = listSpliceTailInit list head h := by
  by_cases hsne : s = []
  · obtain ⟨hempty, hr', hinit⟩ := hr.empty_unfinished hne hs hm hsne
    constructor
    · exact ⟨h, by simp [listSplice, hempty], by simpa [hsne] using hr', fun hc => absurd hsne hc,
        by simp [listSpliceInit, hempty, hinit]⟩
    · exact ⟨h, by simp [listSpliceTail, hempty], by simpa [hsne] using hr',
        fun hc => absurd hsne hc, by simp [listSpliceTailInit, hempty, hinit]⟩
  · have hempty := hr.listEmpty_eq_false hs hsne
    have hlmem : list ∈ [list, head] := List.mem_cons_self
    have hhmem : head ∈ [list, head] := by simp
    have hring := hr.ring head m hm
    constructor
    · obtain ⟨h₂, he, hstep⟩ := hr.exists_listSpliceInit hne hs hm hlmem hhmem
      obtain ⟨n, hn⟩ := exists_head?_append m head
      have hnmem : n ∈ head :: m := by
        simpa [or_comm] using List.mem_of_head? hn
      have hnext := hring.next?_eq hn
      have hinit : (rawListSplice list head n h).bind (initListHead list) = some h₂ := by
        simpa [listSpliceInit, hempty, hnext] using he
      obtain ⟨h₁, he₁, hr₁, hstale, hinit₁⟩ := hr.exists_unfinished hne hs hm hsne
        List.mem_cons_self hnmem hinit hstep.refines (List.subset_append_left s m)
      exact ⟨h₁, by simp [listSplice, hempty, hnext, he₁], hr₁, fun _ => hstale,
        hinit₁.trans he.symm⟩
    · obtain ⟨h₂, he, hstep⟩ := hr.exists_listSpliceTailInit hne hs hm hlmem hhmem
      obtain ⟨-, p, -, hp, -, hpmem⟩ := exists_ends (List.cons_ne_nil head m)
      have hprev : h.prev? head = some p := (hring.2 p hp head rfl).2
      have hinit : (rawListSplice list p head h).bind (initListHead list) = some h₂ := by
        simpa [listSpliceTailInit, hempty, hprev] using he
      obtain ⟨h₁, he₁, hr₁, hstale, hinit₁⟩ := hr.exists_unfinished hne hs hm hsne
        hpmem List.mem_cons_self hinit hstep.refines (List.subset_append_right m s)
      exact ⟨h₁, by simp [listSpliceTail, hempty, hprev, he₁], hr₁, fun _ => hstale,
        hinit₁.trans he.symm⟩

end Splice

theorem splice_leaves_stale_head_three :
    (∃ h', listSplice 0 4 twoRings = some h' ∧
      Refines h' (Function.update (Function.update twoLists 0 none) 4 (some [1, 2, 3])) ∧
      ([1, 2, 3] ≠ [] → ∀ fuel, listForEach 0 h' fuel = none ∧ listForEachPrev 0 h' fuel = none) ∧
      initListHead 0 h' = listSpliceInit 0 4 twoRings) ∧
    ∃ h', listSpliceTail 0 4 twoRings = some h' ∧
      Refines h' (Function.update (Function.update twoLists 0 none) 4 (some [1, 2, 3])) ∧
      ([1, 2, 3] ≠ [] → ∀ fuel, listForEach 0 h' fuel = none ∧ listForEachPrev 0 h' fuel = none) ∧
      initListHead 0 h' = listSpliceTailInit 0 4 twoRings :=
  splice_leaves_stale_head (s := [1, 2, 3]) (m := []) refines_twoRings (Nat.zero_ne_add_one 3)
    rfl rfl

end GuitarTea
