import GuitarTea.List
import GuitarTea.Lib.Ring

/-!
# The intrusive list on rings

What the functions of `gt_list.h` do to a ring of cells, whatever else is on the heap.
The ring is cut open where the function works: `__list_add` and `__list_splice` put a
chain between the last cell and the first, `__list_del` closes the chain that is left
without the entry, and `list_replace` puts another cell at the place of the cut.

Each lemma says that the function succeeds, which ring it leaves, and to which cells
it may have written.

## Main results

* `exists_initListHead`, `exists_insert`, `exists_unlinkEntry`, `exists_listReplace`,
  `exists_rawListSplice`.
-/

namespace GuitarTea

open LinkHeap

variable {α : Type} [DecidableEq α] {h : LinkHeap α}

/-! ## Pointers -/

/-- `__list_add`: the new cell is linked to both neighbours, which may coincide. -/
theorem exists_rawListAdd {x p n : α} (hx : h x ≠ none) (hp : h p ≠ none) (hn : h n ≠ none)
    (hxp : x ≠ p) (hxn : x ≠ n) :
    ∃ h', rawListAdd x p n h = some h' ∧ h'.Linked p x ∧ h'.Linked x n ∧
      OnlyAt [p, x] [x, n] h h' := by
  obtain ⟨h₁, he₁, ho₁, hv₁⟩ := exists_setPrev hn x
  obtain ⟨h₂, he₂, ho₂, hv₂⟩ := exists_setNext ((ho₁.cells x).mpr hx) n
  have ho₁₂ := ho₁.trans ho₂
  obtain ⟨h₃, he₃, ho₃, hv₃⟩ := exists_setPrev ((ho₁₂.cells x).mpr hx) p
  have ho₁₃ := ho₁₂.trans ho₃
  obtain ⟨h₄, he₄, ho₄, hv₄⟩ := exists_setNext ((ho₁₃.cells p).mpr hp) x
  refine ⟨h₄, by simp [rawListAdd, he₁, he₂, he₃, he₄], ⟨hv₄, ?_⟩, ⟨?_, ?_⟩, ?_⟩
  · rw [ho₄.prev x (by simp), hv₃]
  · rw [ho₄.next x (by simp [hxp]), ho₃.next x (by simp), hv₂]
  · rw [ho₄.prev n (by simp), ho₃.prev n (by simp [hxn.symm]), ho₂.prev n (by simp), hv₁]
  · exact (ho₁₃.trans ho₄).mono (by simp) (by simp)

/-- `__list_del`: the two cells are linked. -/
theorem exists_rawListDel {p n : α} (hp : h p ≠ none) (hn : h n ≠ none) :
    ∃ h', rawListDel p n h = some h' ∧ h'.Linked p n ∧ OnlyAt [p] [n] h h' := by
  obtain ⟨h₁, he₁, ho₁, hv₁⟩ := exists_setPrev hn p
  obtain ⟨h₂, he₂, ho₂, hv₂⟩ := exists_setNext ((ho₁.cells p).mpr hp) n
  refine ⟨h₂, by simp [rawListDel, he₁, he₂], ⟨hv₂, ?_⟩, ho₁.trans ho₂⟩
  rw [ho₂.prev n (by simp), hv₁]

/-- `__list_splice`: the entries of `list` are linked at both ends. -/
theorem exists_spliced {list first last p n : α} (hfirst : h.next? list = some first)
    (hlast : h.prev? list = some last) (hcells : ∀ x ∈ [first, p, last, n], h x ≠ none)
    (hpl : p ≠ last) (hfn : first ≠ n) :
    ∃ h', rawListSplice list p n h = some h' ∧ h'.Linked p first ∧ h'.Linked last n ∧
      OnlyAt [p, last] [first, n] h h' := by
  obtain ⟨h₁, he₁, ho₁, hv₁⟩ := exists_setPrev (hcells first (by simp)) p
  obtain ⟨h₂, he₂, ho₂, hv₂⟩ := exists_setNext ((ho₁.cells p).mpr (hcells p (by simp))) first
  have ho₁₂ := ho₁.trans ho₂
  obtain ⟨h₃, he₃, ho₃, hv₃⟩ := exists_setNext ((ho₁₂.cells last).mpr (hcells last (by simp))) n
  have ho₁₃ := ho₁₂.trans ho₃
  obtain ⟨h₄, he₄, ho₄, hv₄⟩ := exists_setPrev ((ho₁₃.cells n).mpr (hcells n (by simp))) last
  refine ⟨h₄, by simp [rawListSplice, hfirst, hlast, he₁, he₂, he₃, he₄], ⟨?_, ?_⟩, ⟨?_, hv₄⟩, ?_⟩
  · rw [ho₄.next p (by simp), ho₃.next p (by simp [hpl]), hv₂]
  · rw [ho₄.prev first (by simp [hfn]), ho₃.prev first (by simp), ho₂.prev first (by simp), hv₁]
  · rw [ho₄.next last (by simp), hv₃]
  · exact (ho₁₃.trans ho₄).mono (by simp) (by simp)

/-- `list_replace`, when `old` is not alone: the new cell is linked to the neighbours. -/
theorem exists_replaced {old x p n : α} (hn : h.next? old = some n) (hp : h.prev? old = some p)
    (hcells : ∀ y ∈ [x, p, n], h y ≠ none) (hxp : x ≠ p) (hxn : x ≠ n) (hno : n ≠ old) :
    ∃ h', listReplace old x h = some h' ∧ h'.Linked p x ∧ h'.Linked x n ∧
      OnlyAt [p, x] [x, n] h h' := by
  obtain ⟨h₁, he₁, ho₁, hv₁⟩ := exists_setNext (hcells x (by simp)) n
  obtain ⟨h₂, he₂, ho₂, hv₂⟩ := exists_setPrev ((ho₁.cells n).mpr (hcells n (by simp))) x
  have ho₁₂ := ho₁.trans ho₂
  have hp₂ : h₂.prev? old = some p := by
    rw [ho₂.prev old (by simp [hno.symm]), ho₁.prev old (by simp), hp]
  obtain ⟨h₃, he₃, ho₃, hv₃⟩ := exists_setPrev ((ho₁₂.cells x).mpr (hcells x (by simp))) p
  have ho₁₃ := ho₁₂.trans ho₃
  obtain ⟨h₄, he₄, ho₄, hv₄⟩ := exists_setNext ((ho₁₃.cells p).mpr (hcells p (by simp))) x
  refine ⟨h₄, by simp [listReplace, hn, he₁, hv₁, he₂, hp₂, he₃, hv₃, he₄], ⟨hv₄, ?_⟩, ⟨?_, ?_⟩, ?_⟩
  · rw [ho₄.prev x (by simp), hv₃]
  · rw [ho₄.next x (by simp [hxp]), ho₃.next x (by simp), ho₂.next x (by simp), hv₁]
  · rw [ho₄.prev n (by simp), ho₃.prev n (by simp [hxn.symm]), hv₂]
  · exact (ho₁₃.trans ho₄).mono (by simp) (by simp)

/-- `list_replace`, when `old` is alone: its `prev` leads to the new cell by the time it is
read, so that the new cell ends up alone. -/
theorem exists_replaced_alone {old x : α} (hn : h.next? old = some old)
    (hx : h x ≠ none) (hold : h old ≠ none) :
    ∃ h', listReplace old x h = some h' ∧ h'.Linked x x ∧ OnlyAt [x] [x, old] h h' := by
  obtain ⟨h₁, he₁, ho₁, hv₁⟩ := exists_setNext hx old
  obtain ⟨h₂, he₂, ho₂, hv₂⟩ := exists_setPrev ((ho₁.cells old).mpr hold) x
  have ho₁₂ := ho₁.trans ho₂
  obtain ⟨h₃, he₃, ho₃, hv₃⟩ := exists_setPrev ((ho₁₂.cells x).mpr hx) x
  have ho₁₃ := ho₁₂.trans ho₃
  obtain ⟨h₄, he₄, ho₄, hv₄⟩ := exists_setNext ((ho₁₃.cells x).mpr hx) x
  refine ⟨h₄, by simp [listReplace, hn, he₁, hv₁, he₂, hv₂, he₃, hv₃, he₄], ⟨hv₄, ?_⟩, ?_⟩
  · rw [ho₄.prev x (by simp), hv₃]
  · exact (ho₁₃.trans ho₄).mono (by simp) (by simp)

/-! ## Rings -/

omit [DecidableEq α] in
/-- The two ends of a chain. -/
theorem exists_ends {c : List α} (hc : c ≠ []) :
    ∃ n p, c.head? = some n ∧ c.getLast? = some p ∧ n ∈ c ∧ p ∈ c :=
  ⟨c.head hc, c.getLast hc, List.head?_eq_some_head hc, List.getLast?_eq_some_getLast hc,
    List.head_mem hc, List.getLast_mem hc⟩

/-- `INIT_LIST_HEAD` makes a ring of one cell. -/
theorem exists_initListHead {a : α} (ha : h a ≠ none) :
    ∃ h', initListHead a h = some h' ∧ h'.Ring [a] ∧ OnlyAt [a] [a] h h' := by
  obtain ⟨h₁, he₁, ho₁, hv₁⟩ := exists_setNext ha a
  obtain ⟨h₂, he₂, ho₂, hv₂⟩ := exists_setPrev ((ho₁.cells a).mpr ha) a
  refine ⟨h₂, by simp [initListHead, he₁, he₂], ring_singleton_iff.mpr ⟨?_, hv₂⟩, ho₁.trans ho₂⟩
  rw [ho₂.next a (by simp), hv₁]

/-- `__list_add` puts a cell at the cut. -/
theorem exists_insert {c : List α} {x p n : α} (hr : h.Ring c) (hnodup : (x :: c).Nodup)
    (hx : h x ≠ none) (hn : c.head? = some n) (hp : c.getLast? = some p) :
    ∃ h', rawListAdd x p n h = some h' ∧ h'.Ring (x :: c) ∧ OnlyAt (x :: c) (x :: c) h h' := by
  have hnmem := List.mem_of_head? hn
  have hpmem := List.mem_of_getLast? hp
  have hxc : ∀ y ∈ c, x ≠ y := fun y hy heq => (List.nodup_cons.mp hnodup).1 (heq ▸ hy)
  obtain ⟨h', he, hpx, hxn, ho⟩ := exists_rawListAdd hx (hr.ne_none hpmem) (hr.ne_none hnmem)
    (hxc p hpmem) (hxc n hnmem)
  refine ⟨h', he, ?_, ho.mono (by simp [hpmem]) (by simp [hnmem])⟩
  exact ring_of_spliced (s := [x]) hnodup (.singleton x) rfl rfl hr.1 hn hp hpx hxn ho

/-- `__list_del(entry->prev, entry->next)` closes the ring without the entry. -/
theorem exists_unlinkEntry {c : List α} {e : α} (hr : h.Ring (e :: c)) (hnodup : (e :: c).Nodup)
    (hc : c ≠ []) : ∃ h', unlinkEntry e h = some h' ∧ h'.Ring c ∧ OnlyAt c c h h' := by
  obtain ⟨n, p, hn, hp, hnmem, hpmem⟩ := exists_ends hc
  obtain ⟨hnext, hprev, hchain⟩ := hr.neighbours hn hp
  obtain ⟨h', he, hlink, ho⟩ := exists_rawListDel (hr.ne_none (List.mem_cons_of_mem e hpmem))
    (hr.ne_none (List.mem_cons_of_mem e hnmem))
  refine ⟨h', by simp [unlinkEntry, hnext, hprev, he], ?_, ho.mono (by simp [hpmem])
    (by simp [hnmem])⟩
  exact ring_of_unlinked (List.nodup_cons.mp hnodup).2 hchain hn hp hlink ho

/-- `list_replace` puts a cell at the place of another. -/
theorem exists_listReplace {c : List α} {old x : α} (hr : h.Ring (old :: c))
    (hnodup : (x :: old :: c).Nodup) (hx : h x ≠ none) :
    ∃ h', listReplace old x h = some h' ∧ h'.Ring (x :: c) ∧
      OnlyAt (x :: old :: c) (x :: old :: c) h h' := by
  obtain ⟨hxmem, hold⟩ := List.nodup_cons.mp hnodup
  have hxc : ∀ y ∈ old :: c, x ≠ y := fun y hy heq => hxmem (heq ▸ hy)
  by_cases hc : c = []
  · subst hc
    obtain ⟨hself, -⟩ := ring_singleton_iff.mp hr
    obtain ⟨h', he, hlink, ho⟩ := exists_replaced_alone hself hx (hr.ne_none List.mem_cons_self)
    exact ⟨h', he, ring_singleton_iff.mpr hlink, ho.mono (by simp) (by simp)⟩
  · obtain ⟨n, p, hn, hp, hnmem, hpmem⟩ := exists_ends hc
    obtain ⟨hnext, hprev, hchain⟩ := hr.neighbours hn hp
    have hcells : ∀ y ∈ [x, p, n], h y ≠ none := by
      simp only [List.forall_mem_cons]
      exact ⟨hx, hr.ne_none (by simp [hpmem]), hr.ne_none (by simp [hnmem]), by simp⟩
    have hno : n ≠ old := fun heq => (List.nodup_cons.mp hold).1 (heq ▸ hnmem)
    obtain ⟨h', he, hpx, hxn, ho⟩ := exists_replaced hnext hprev hcells
      (hxc p (by simp [hpmem])) (hxc n (by simp [hnmem])) hno
    refine ⟨h', he, ?_, ho.mono (by simp [hpmem]) (by simp [hnmem])⟩
    have hnodup' : ([x] ++ c).Nodup :=
      hnodup.sublist ((List.sublist_cons_self old c).cons_cons x)
    exact ring_of_spliced hnodup' (.singleton x) rfl rfl hchain hn hp hpx hxn ho

/-- `__list_splice` puts the entries of a list at the cut. -/
theorem exists_rawListSplice {s c : List α} {list p n : α} (hs : h.Ring (list :: s)) (hne : s ≠ [])
    (hr : h.Ring c) (hnodup : (s ++ c).Nodup) (hn : c.head? = some n) (hp : c.getLast? = some p) :
    ∃ h', rawListSplice list p n h = some h' ∧ h'.Ring (s ++ c) ∧
      OnlyAt (s ++ c) (s ++ c) h h' := by
  obtain ⟨first, last, hfirst, hlast, hfmem, hlmem⟩ := exists_ends hne
  have hnmem := List.mem_of_head? hn
  have hpmem := List.mem_of_getLast? hp
  have hdisj := (List.nodup_append.mp hnodup).2.2
  obtain ⟨hnext, hprev, hchain⟩ := hs.neighbours hfirst hlast
  have hcells : ∀ x ∈ [first, p, last, n], h x ≠ none := by
    simp only [List.forall_mem_cons]
    exact ⟨hs.ne_none (by simp [hfmem]), hr.ne_none hpmem, hs.ne_none (by simp [hlmem]),
      hr.ne_none hnmem, by simp⟩
  obtain ⟨h', he, hpf, hln, ho⟩ := exists_spliced hnext hprev hcells
    (hdisj last hlmem p hpmem).symm (hdisj first hfmem n hnmem)
  refine ⟨h', he, ?_, ho.mono (by simp [hpmem, hlmem]) (by simp [hfmem, hnmem])⟩
  exact ring_of_spliced hnodup hchain hfirst hlast hr.1 hn hp hpf hln ho

end GuitarTea
