import GuitarTea.Lib.GuardedSystem
import GuitarTea.ListFamily
import GuitarTea.ListRings

/-!
# The intrusive list refines a family of disjoint lists

A heap refines a family when each list of it is a ring on the heap that begins with
the head.  The rings have no cell in common, so a call that writes to the cells of one
ring, and to cells of none, leaves all others as they were.

Every call is put together from four kinds of steps: a node stops being a head, a list
is changed together with its ring, a node that is in no ring is written to, and a node
becomes the head of an empty list.

## Main definitions

* `Refines` — the heap has a ring for each list.
* `ListStep` — what a call does to a heap and to the family it refines.
* `listExec`, `listFamilySystem` — the calls, on the heap and on the family.

## Main results

* `exists_listStep` — one call.
* `list_calls_refine` — every sequence of calls.
-/

namespace GuitarTea

open LinkHeap

variable {α : Type}

/-! ## Refinement -/

/-- Each list of the family is a ring on the heap. -/
structure Refines (h : LinkHeap α) (F : ListFamily α) : Prop where
  separate : F.Separate
  ring : ∀ a l, F a = some l → h.Ring (a :: l)

/-- The lists none of whose nodes is named are as they were, down to their cells. -/
def Unaffected (names : List α) (h h' : LinkHeap α) (F F' : ListFamily α) : Prop :=
  ∀ b m, F b = some m → (∀ x ∈ b :: m, x ∉ names) → F' b = some m ∧ ∀ x ∈ b :: m, h' x = h x

/-- What a call that names some nodes does. -/
structure ListStep (names : List α) (h h' : LinkHeap α) (F F' : ListFamily α) : Prop where
  refines : Refines h' F'
  unaffected : Unaffected names h h' F F'
  cells : ∀ a, h' a ≠ none ↔ h a ≠ none

variable {names : List α} {h h' h'' : LinkHeap α} {F F' F'' : ListFamily α}

theorem Refines.refl (hr : Refines h F) : ListStep names h h F F :=
  ⟨hr, fun _ _ hb _ => ⟨hb, fun _ _ => rfl⟩, fun _ => Iff.rfl⟩

theorem ListStep.trans (h₁ : ListStep names h h' F F') (h₂ : ListStep names h' h'' F' F'') :
    ListStep names h h'' F F'' where
  refines := h₂.refines
  unaffected b m hb hfree := by
    obtain ⟨hb', hsame⟩ := h₁.unaffected b m hb hfree
    obtain ⟨hb'', hsame'⟩ := h₂.unaffected b m hb' hfree
    refine ⟨hb'', ?_⟩
    intro x hx
    rw [hsame' x hx, hsame x hx]
  cells a := (h₂.cells a).trans (h₁.cells a)

/-- A write to nodes that are in no ring. -/
theorem Refines.write {touched : List α} (hr : Refines h F) (ho : OnlyAt touched touched h h')
    (hloose : ∀ y ∈ touched, F.Loose y) : ListStep names h h' F F := by
  have hsame : ∀ b m, F b = some m → ∀ x ∈ b :: m, h' x = h x := by
    intro b m hb x hx
    have hx' : x ∉ touched := fun hmem => hloose x hmem b m hb hx
    exact ho.eq hx' hx'
  refine ⟨⟨hr.separate, ?_⟩, ?_, ho.cells⟩
  · intro b m hb
    exact (hr.ring b m hb).congr (hsame b m hb)
  · intro b m hb _
    exact ⟨hb, hsame b m hb⟩

/-- The cell of a node that is on a list is there. -/
theorem Refines.ne_none (hr : Refines h F) {x : α} (hplace : F.On x ∨ F x ≠ none) :
    h x ≠ none := by
  obtain ⟨a, l, ha, hmem⟩ | hhead := hplace
  · exact (hr.ring a l ha).ne_none (List.mem_cons_of_mem a hmem)
  · obtain ⟨l, hl⟩ := Option.ne_none_iff_exists'.mp hhead
    exact (hr.ring x l hl).ne_none List.mem_cons_self

section Family

variable [DecidableEq α]

/-- A node that is named stops being a head. -/
theorem Refines.drop (hr : Refines h F) {x : α} (hx : x ∈ names) :
    ListStep names h h F (Function.update F x none) := by
  refine ⟨⟨hr.separate.drop x, ?_⟩, ?_, fun _ => Iff.rfl⟩
  · intro b m hb
    by_cases hbx : b = x
    · simp [hbx] at hb
    · rw [Function.update_of_ne hbx] at hb
      exact hr.ring b m hb
  · intro b m hb hfree
    have hbx : b ≠ x := fun heq => hfree b List.mem_cons_self (heq ▸ hx)
    exact ⟨by rw [Function.update_of_ne hbx, hb], fun _ _ => rfl⟩

/-- A list is changed, together with its ring. -/
theorem Refines.update {touched l : List α} {a : α} (hr : Refines h F)
    (ho : OnlyAt touched touched h h') (hout : ∀ y ∈ touched, F.Outside a y)
    (hsub : a :: l ⊆ touched) (hnodup : (a :: l).Nodup) (hring : h'.Ring (a :: l))
    (hname : ∀ m, F a = some m → ∃ x ∈ a :: m, x ∈ names) :
    ListStep names h h' F (Function.update F a (some l)) := by
  have hsame : ∀ b m, F b = some m → b ≠ a → ∀ x ∈ b :: m, h' x = h x := by
    intro b m hb hba x hx
    have hx' : x ∉ touched := fun hmem => hout x hmem b m hb hba hx
    exact ho.eq hx' hx'
  refine ⟨⟨hr.separate.update hnodup fun x hx => hout x (hsub hx), ?_⟩, ?_, ho.cells⟩
  · intro b m hb
    by_cases hba : b = a
    · subst hba
      obtain rfl : l = m := by simpa using hb
      exact hring
    · rw [Function.update_of_ne hba] at hb
      exact (hr.ring b m hb).congr (hsame b m hb hba)
  · intro b m hb hfree
    have hba : b ≠ a := by
      rintro rfl
      obtain ⟨x, hx, hmem⟩ := hname m hb
      exact hfree x hx hmem
    exact ⟨by rw [Function.update_of_ne hba, hb], hsame b m hb hba⟩

/-! ## Parts of the calls -/

/-- A node that is no element becomes the head of an empty list. -/
theorem Refines.exists_init (hr : Refines h F) {a : α} (ha : h a ≠ none) (hon : ¬ F.On a)
    (hname : a ∈ names) :
    ∃ h', initListHead a h = some h' ∧ ListStep names h h' F (Function.update F a (some [])) := by
  obtain ⟨h', he, hring, ho⟩ := exists_initListHead ha
  refine ⟨h', he, hr.update ho ?_ (List.Subset.refl _) (List.nodup_singleton a) hring ?_⟩
  · intro y hy
    obtain rfl := List.mem_singleton.mp hy
    exact ListFamily.outside_of_not_on hon
  · intro m _
    exact ⟨a, List.mem_cons_self, hname⟩

section Insert

variable (hr : Refines h F) {x a : α} {l : List α} (hx : h x ≠ none) (hloose : F.Loose x)
  (ha : F a = some l) (hname : a ∈ names)
include hr hx hloose ha hname

/-- What the two ways to insert a node have in common: the ring is cut open somewhere. -/
theorem Refines.exists_insert {c l' : List α} {p n : α} (hc : h.Ring c) (hperm : c.Perm (a :: l))
    (hn : c.head? = some n) (hp : c.getLast? = some p)
    (hring : ∀ h' : LinkHeap α, h'.Ring (x :: c) → h'.Ring (a :: l'))
    (hperm' : (a :: l').Perm (x :: c)) :
    ∃ h', rawListAdd x p n h = some h' ∧
      ListStep names h h' F (Function.update F a (some l')) := by
  have hnodup : (x :: c).Nodup := by
    rw [List.nodup_cons, hperm.mem_iff, hperm.nodup_iff]
    exact ⟨hloose a l ha, hr.separate.nodup a l ha⟩
  obtain ⟨h', he, hring', ho⟩ := GuitarTea.exists_insert hc hnodup hx hn hp
  refine ⟨h', he, hr.update ho ?_ hperm'.subset (hperm'.nodup_iff.mpr hnodup) (hring h' hring') ?_⟩
  · intro y hy
    obtain rfl | hy := List.mem_cons.mp hy
    · exact hloose.outside
    · exact hr.separate.outside ha (hperm.mem_iff.mp hy)
  · intro m _
    exact ⟨a, List.mem_cons_self, hname⟩

/-- `list_add` pushes to the front. -/
theorem Refines.exists_listAdd : ∃ h', listAdd x a h = some h' ∧
    ListStep names h h' F (Function.update F a (some (x :: l))) := by
  have hring := hr.ring a l ha
  have hperm : (l ++ [a]).Perm (a :: l) := List.perm_append_singleton a l
  have hlast : (l ++ [a]).getLast? = some a := by simp
  obtain ⟨n, -, hn, -⟩ := exists_ends (List.ne_nil_of_mem (List.mem_of_getLast? hlast))
  have hclose : ∀ h' : LinkHeap α, h'.Ring (x :: (l ++ [a])) → h'.Ring (a :: x :: l) := by
    intro h' hring'
    exact Ring.rotate (s := x :: l) (t := [a]) hring'
  obtain ⟨h', he, hstep⟩ := hr.exists_insert hx hloose ha hname (Ring.rotate (s := [a]) hring)
    hperm hn hlast hclose ((List.Perm.swap x a l).trans (hperm.symm.cons x))
  exact ⟨h', by simp [listAdd, hring.next?_eq hn, he], hstep⟩

/-- `list_add_tail` pushes to the end. -/
theorem Refines.exists_listAddTail : ∃ h', listAddTail x a h = some h' ∧
    ListStep names h h' F (Function.update F a (some (l ++ [x]))) := by
  have hring := hr.ring a l ha
  obtain ⟨-, p, -, hp, -⟩ := exists_ends (List.cons_ne_nil a l)
  have hprev : h.prev? a = some p := (hring.2 p hp a rfl).2
  have hclose : ∀ h' : LinkHeap α, h'.Ring (x :: a :: l) → h'.Ring (a :: (l ++ [x])) := by
    intro h' hring'
    exact Ring.rotate (s := [x]) (t := a :: l) hring'
  obtain ⟨h', he, hstep⟩ := hr.exists_insert hx hloose ha hname hring (List.Perm.refl _) rfl hp
    hclose (List.perm_append_singleton x (a :: l))
  exact ⟨h', by simp [listAddTail, hprev, he], hstep⟩

end Insert

/-- `__list_del(entry->prev, entry->next)` erases. -/
theorem Refines.exists_unlink (hr : Refines h F) {e a : α} {l : List α} (ha : F a = some l)
    (he : e ∈ l) (hname : e ∈ names) :
    ∃ h', unlinkEntry e h = some h' ∧ ListStep names h h' F (F.erase e) := by
  obtain ⟨s, t, rfl⟩ := List.append_of_mem he
  have hring : h.Ring (e :: (t ++ a :: s)) :=
    Ring.rotate (s := a :: s) (t := e :: t) (hr.ring a _ ha)
  have hperm : (e :: t ++ a :: s).Perm (a :: s ++ e :: t) := List.perm_append_comm
  have hnodup : (e :: (t ++ a :: s)).Nodup := hperm.nodup_iff.mpr (hr.separate.nodup a _ ha)
  obtain ⟨h', hexec, hring', ho⟩ := exists_unlinkEntry hring hnodup (by simp)
  have herase : (s ++ e :: t).erase e = s ++ t := by
    have hes : e ∉ s := by
      intro hmem
      exact (List.nodup_cons.mp hnodup).1 (by simp [hmem])
    rw [List.erase_append_right _ hes, List.erase_cons_head]
  have hperm' : (a :: s ++ t).Perm (t ++ a :: s) := List.perm_append_comm
  refine ⟨h', hexec, ?_⟩
  rw [hr.separate.erase_eq_update ha he, herase]
  refine hr.update ho ?_ hperm'.subset (hperm'.nodup_iff.mpr (List.nodup_cons.mp hnodup).2)
    (Ring.rotate (s := t) (t := a :: s) hring') ?_
  · intro y hy
    exact hr.separate.outside ha (hperm.mem_iff.mp (List.mem_cons_of_mem e hy))
  · intro m hm
    obtain rfl := Option.some.inj (ha.symm.trans hm)
    exact ⟨e, by simp, hname⟩

section Replace

variable (hr : Refines h F) {old x : α} (hx : h x ≠ none) (hoff : F.Off x) (hne : x ≠ old)
  (hold : old ∈ names) (hxname : x ∈ names)
include hr hx hoff hne

include hold hxname

/-- `list_replace` of a head: the new node is the head of the list. -/
theorem Refines.exists_replace_head {l : List α} (ha : F old = some l) :
    ∃ h', listReplace old x h = some h' ∧ ListStep names h h' F (F.substitute old x) := by
  have hxout : F.Outside x x := ListFamily.outside_of_not_on hoff.not_on
  have hnodup : (x :: old :: l).Nodup :=
    List.nodup_cons.mpr ⟨hxout old l ha hne.symm, hr.separate.nodup old l ha⟩
  obtain ⟨h', he, hring, ho⟩ := exists_listReplace (hr.ring old l ha) hnodup hx
  have hsubst : F.substitute old x =
      Function.update (Function.update F old none) x (some l) := by
    simp [ListFamily.substitute, ha]
  have hdrop : ListStep names h h F (Function.update F old none) := hr.drop hold
  refine ⟨h', he, hsubst ▸ hdrop.trans (hdrop.refines.update ho ?_ ?_ ?_ hring ?_)⟩
  · intro y hy
    obtain rfl | hy := List.mem_cons.mp hy
    · intro b m hb hby
      by_cases hbo : b = old
      · simp [hbo] at hb
      · rw [Function.update_of_ne hbo] at hb
        exact hxout b m hb hby
    · exact (ListFamily.loose_drop (hr.separate.outside ha hy)).outside
  · exact List.cons_subset_cons x (List.subset_cons_self old l)
  · exact hnodup.sublist ((List.sublist_cons_self old l).cons_cons x)
  · intro m _
    exact ⟨x, List.mem_cons_self, hxname⟩

/-- `list_replace` of an element: the new node is at its place. -/
theorem Refines.exists_replace_elem {a : α} {l : List α} (ha : F a = some l) (hmem : old ∈ l) :
    ∃ h', listReplace old x h = some h' ∧ ListStep names h h' F (F.substitute old x) := by
  obtain ⟨s, t, rfl⟩ := List.append_of_mem hmem
  have hxa : x ≠ a := by
    rintro rfl
    simpa using hoff.own _ ha
  have hperm : (old :: t ++ a :: s).Perm (a :: s ++ old :: t) := List.perm_append_comm
  have hloose : ListFamily.Loose (Function.update F x none) x :=
    ListFamily.loose_drop (ListFamily.outside_of_not_on hoff.not_on)
  have hdrop : ListStep names h h F (Function.update F x none) := hr.drop hxname
  have ha' : Function.update F x none a = some (s ++ old :: t) := by
    rw [Function.update_of_ne hxa.symm, ha]
  have hnodup : (x :: old :: (t ++ a :: s)).Nodup := by
    refine List.nodup_cons.mpr ⟨?_, hperm.nodup_iff.mpr (hr.separate.nodup a _ ha)⟩
    exact fun hmem' => hloose a _ ha' (hperm.mem_iff.mp hmem')
  obtain ⟨h', he, hring, ho⟩ := exists_listReplace
    (Ring.rotate (s := a :: s) (t := old :: t) (hr.ring a _ ha)) hnodup hx
  have hperm' : (a :: s ++ x :: t).Perm (x :: t ++ a :: s) := List.perm_append_comm
  have hsub := (List.sublist_cons_self old (t ++ a :: s)).cons_cons x
  refine ⟨h', he, ?_⟩
  rw [hr.separate.substitute_eq_update ha hxa]
  refine hdrop.trans (hdrop.refines.update ho ?_ ?_ ?_
    (Ring.rotate (s := x :: t) (t := a :: s) hring) ?_)
  · intro y hy
    obtain rfl | hy := List.mem_cons.mp hy
    · exact hloose.outside
    · exact hdrop.refines.separate.outside ha' (hperm.mem_iff.mp hy)
  · exact List.Subset.trans hperm'.subset hsub.subset
  · exact hperm'.nodup_iff.mpr (hnodup.sublist hsub)
  · intro m hm
    obtain rfl := Option.some.inj (ha'.symm.trans hm)
    exact ⟨old, by simp, hold⟩

end Replace

/-- A list without entries is not moved. -/
theorem Refines.empty_splice (hr : Refines h F) {list head : α} {m : List α}
    (hs : F list = some []) (hm : F head = some m) : listEmpty list h = some true ∧
    ListStep names h h F (Function.update (Function.update F list (some [])) head (some m)) := by
  have hself := (ring_singleton_iff.mp (hr.ring list [] hs)).1
  have hsame : Function.update (Function.update F list (some [])) head (some m) = F := by
    rw [← hs, Function.update_eq_self, ← hm, Function.update_eq_self]
  exact ⟨by simp [listEmpty, hself], hsame.symm ▸ hr.refl⟩

/-- Any other is. -/
theorem Refines.listEmpty_eq_false (hr : Refines h F) {list : α} {s : List α}
    (hs : F list = some s) (hsne : s ≠ []) : listEmpty list h = some false := by
  obtain ⟨first, last, hfirst, hlast, hmem, -⟩ := exists_ends hsne
  have hnext := ((hr.ring list s hs).neighbours hfirst hlast).1
  have hfne : first ≠ list := fun heq =>
    (List.nodup_cons.mp (hr.separate.nodup list s hs)).1 (heq ▸ hmem)
  simp [listEmpty, hnext, hfne]

section Splice

variable (hr : Refines h F) {list head : α} {s m : List α} (hne : list ≠ head)
  (hs : F list = some s) (hm : F head = some m) (hlist : list ∈ names) (hhead : head ∈ names)
include hr hne hs hm hlist hhead

/-- What the two ways to join lists have in common, when there is something to move. -/
theorem Refines.exists_splice {c l' : List α} {p n : α} (hsne : s ≠ []) (hc : h.Ring c)
    (hperm : c.Perm (head :: m)) (hn : c.head? = some n) (hp : c.getLast? = some p)
    (hclose : ∀ h' : LinkHeap α, h'.Ring (s ++ c) → h'.Ring (head :: l'))
    (hperm' : (head :: l').Perm (s ++ c)) :
    ∃ h', (rawListSplice list p n h).bind (initListHead list) = some h' ∧
      ListStep names h h' F
        (Function.update (Function.update F list (some [])) head (some l')) := by
  have hlist' := List.nodup_cons.mp (hr.separate.nodup list s hs)
  have hdisj := hr.separate.disjoint list head s m hs hm hne
  have hnodup : (s ++ c).Nodup := by
    refine List.nodup_append.mpr ⟨hlist'.2, ?_, ?_⟩
    · exact hperm.nodup_iff.mpr (hr.separate.nodup head m hm)
    · rintro x hx y hy rfl
      exact hdisj x (List.mem_cons_of_mem list hx) (hperm.mem_iff.mp hy)
  have hdrop : ListStep names h h F (Function.update F list none) := hr.drop hlist
  have hm' : Function.update F list none head = some m := by
    rw [Function.update_of_ne hne.symm, hm]
  have hloose : ∀ y ∈ list :: s, ListFamily.Loose (Function.update F list none) y :=
    fun y hy => ListFamily.loose_drop (hr.separate.outside hs hy)
  obtain ⟨h₁, he₁, hring, ho⟩ := exists_rawListSplice (hr.ring list s hs) hsne hc hnodup hn hp
  have hjoin : ListStep names h h₁ F
      (Function.update (Function.update F list none) head (some l')) := by
    refine hdrop.trans (hdrop.refines.update ho ?_ hperm'.subset (hperm'.nodup_iff.mpr hnodup)
      (hclose h₁ hring) ?_)
    · intro y hy
      obtain hy | hy := List.mem_append.mp hy
      · exact (hloose y (List.mem_cons_of_mem list hy)).outside
      · exact hdrop.refines.separate.outside hm' (hperm.mem_iff.mp hy)
    · intro k _
      exact ⟨head, List.mem_cons_self, hhead⟩
  have hon : ¬ ListFamily.On (Function.update (Function.update F list none) head (some l'))
      list := by
    intro ⟨b, k, hb, hmem⟩
    by_cases hbh : b = head
    · subst hbh
      obtain rfl : l' = k := by simpa using hb
      obtain hmem | hmem := List.mem_append.mp (hperm'.subset (List.mem_cons_of_mem b hmem))
      · exact hlist'.1 hmem
      · exact hdisj list List.mem_cons_self (hperm.mem_iff.mp hmem)
    · rw [Function.update_of_ne hbh] at hb
      exact hloose list List.mem_cons_self b k hb (List.mem_cons_of_mem b hmem)
  have hcell : h₁ list ≠ none :=
    (hjoin.cells list).mpr ((hr.ring list s hs).ne_none List.mem_cons_self)
  obtain ⟨h', he, hinit⟩ := hjoin.refines.exists_init hcell hon hlist
  refine ⟨h', by simp [he₁, he], ?_⟩
  have hcomm : Function.update (Function.update F list (some [])) head (some l') =
      Function.update (Function.update (Function.update F list none) head (some l')) list
        (some []) := by
    rw [Function.update_comm hne.symm, Function.update_idem]
  rw [hcomm]
  exact hjoin.trans hinit

/-- `list_splice_init` puts a list in front of another. -/
theorem Refines.exists_listSpliceInit : ∃ h', listSpliceInit list head h = some h' ∧
    ListStep names h h' F
      (Function.update (Function.update F list (some [])) head (some (s ++ m))) := by
  by_cases hsne : s = []
  · subst hsne
    obtain ⟨hempty, hstep⟩ := hr.empty_splice hs hm
    exact ⟨h, by simp [listSpliceInit, hempty], by simpa using hstep⟩
  · have hempty := hr.listEmpty_eq_false hs hsne
    have hring := hr.ring head m hm
    have hperm : (m ++ [head]).Perm (head :: m) := List.perm_append_singleton head m
    have hlast : (m ++ [head]).getLast? = some head := by simp
    obtain ⟨n, -, hn, -⟩ := exists_ends (List.ne_nil_of_mem (List.mem_of_getLast? hlast))
    have hclose : ∀ h' : LinkHeap α, h'.Ring (s ++ (m ++ [head])) → h'.Ring (head :: (s ++ m)) := by
      intro h' hring'
      rw [← List.append_assoc] at hring'
      exact Ring.rotate hring'
    have hperm' : (head :: (s ++ m)).Perm (s ++ (m ++ [head])) := by
      rw [← List.append_assoc]
      exact (List.perm_append_singleton head (s ++ m)).symm
    obtain ⟨h', he, hstep⟩ := hr.exists_splice hne hs hm hlist hhead hsne
      (Ring.rotate (s := [head]) hring) hperm hn hlast hclose hperm'
    exact ⟨h', by simpa [listSpliceInit, hempty, hring.next?_eq hn] using he, hstep⟩

/-- `list_splice_tail_init` puts a list behind another. -/
theorem Refines.exists_listSpliceTailInit : ∃ h', listSpliceTailInit list head h = some h' ∧
    ListStep names h h' F
      (Function.update (Function.update F list (some [])) head (some (m ++ s))) := by
  by_cases hsne : s = []
  · subst hsne
    obtain ⟨hempty, hstep⟩ := hr.empty_splice hs hm
    exact ⟨h, by simp [listSpliceTailInit, hempty], by simpa using hstep⟩
  · have hempty := hr.listEmpty_eq_false hs hsne
    have hring := hr.ring head m hm
    obtain ⟨-, p, -, hp, -⟩ := exists_ends (List.cons_ne_nil head m)
    have hprev : h.prev? head = some p := (hring.2 p hp head rfl).2
    have hclose : ∀ h' : LinkHeap α, h'.Ring (s ++ head :: m) → h'.Ring (head :: (m ++ s)) :=
      fun h' hring' => Ring.rotate (s := s) (t := head :: m) hring'
    have hperm : (head :: m ++ s).Perm (s ++ head :: m) := List.perm_append_comm
    obtain ⟨h', he, hstep⟩ := hr.exists_splice hne hs hm hlist hhead hsne hring (List.Perm.refl _)
      rfl hp hclose hperm
    exact ⟨h', by simpa [listSpliceTailInit, hempty, hprev] using he, hstep⟩

end Splice

/-! ## Calls -/

/-- What a call does to the heap. -/
def listExec (listPoison1 listPoison2 : α) : ListCall α → LinkHeap α → Option (LinkHeap α)
  | .init list => initListHead list
  | .add xnew head => listAdd xnew head
  | .addTail xnew head => listAddTail xnew head
  | .del entry => listDel listPoison1 listPoison2 entry
  | .delInit entry => listDelInit entry
  | .move list head => listMove list head
  | .moveTail list head => listMoveTail list head
  | .replace old xnew => listReplace old xnew
  | .replaceInit old xnew => listReplaceInit old xnew
  | .spliceInit list head => listSpliceInit list head
  | .spliceTailInit list head => listSpliceTailInit list head

variable (p₁ p₂ : α)

/-- A node that is inserted and was the head of an empty list stops being one. -/
theorem Refines.exists_fresh (hr : Refines h F) {x a : α} (hoff : F.Off x) (hne : x ≠ a)
    (ha : F a ≠ none) (hname : x ∈ names) :
    ∃ l, F a = some l ∧ ListStep names h h F (Function.update F x none) ∧
      ListFamily.Loose (Function.update F x none) x ∧ Function.update F x none a = some l := by
  obtain ⟨l, hl⟩ := Option.ne_none_iff_exists'.mp ha
  refine ⟨l, hl, hr.drop hname, ?_, ?_⟩
  · exact ListFamily.loose_drop (ListFamily.outside_of_not_on hoff.not_on)
  · rw [Function.update_of_ne hne.symm, hl]

/-- `list_replace`, whatever is replaced. -/
theorem Refines.exists_replace (hr : Refines h F) {old x : α} (hx : h x ≠ none) (hoff : F.Off x)
    (hne : x ≠ old) (hplace : F.On old ∨ F old ≠ none) (hold : old ∈ names) (hxname : x ∈ names) :
    ∃ h', listReplace old x h = some h' ∧ ListStep names h h' F (F.substitute old x) := by
  obtain ⟨a, l, ha, hmem⟩ | hhead := hplace
  · exact hr.exists_replace_elem hx hoff hne hold hxname ha hmem
  · obtain ⟨l, hl⟩ := Option.ne_none_iff_exists'.mp hhead
    exact hr.exists_replace_head hx hoff hne hold hxname hl

/-- What is left behind by a substitution is no element. -/
theorem Refines.not_on_substitute (hr : Refines h F) {old x : α} (hne : x ≠ old) :
    ¬ (F.substitute old x).On old := by
  intro ⟨b, m, hb, hmem⟩
  cases hF : F old with
  | some l =>
      simp only [ListFamily.substitute, hF] at hb
      by_cases hbx : b = x
      · subst hbx
        obtain rfl : l = m := by simpa using hb
        exact (List.nodup_cons.mp (hr.separate.nodup old l hF)).1 hmem
      · rw [Function.update_of_ne hbx] at hb
        exact ListFamily.loose_drop (hr.separate.outside hF List.mem_cons_self) b m hb
          (List.mem_cons_of_mem b hmem)
  | none =>
      simp only [ListFamily.substitute, hF] at hb
      obtain ⟨k, -, rfl⟩ := Option.map_eq_some_iff.mp hb
      obtain ⟨y, -, hy⟩ := List.mem_map.mp hmem
      by_cases hyo : y = old <;> simp [hyo, hne] at hy

/-- What `list_del` and its variants begin with. -/
theorem Refines.exists_moved (hr : Refines h F) {e : α} (he : F.On e) (hname : e ∈ names) :
    ∃ h', unlinkEntry e h = some h' ∧ ListStep names h h' F (F.erase e) ∧ h' e ≠ none ∧
      (F.erase e).Loose e := by
  have hcell := hr.ne_none (.inl he)
  obtain ⟨a, l, ha, hmem⟩ := he
  obtain ⟨h', hexec, hunlink⟩ := hr.exists_unlink ha hmem hname
  exact ⟨h', hexec, hunlink, (hunlink.cells e).mpr hcell, hr.separate.loose_erase ha hmem⟩

/-- `list_del` poisons an entry that is in no ring any more. -/
theorem Refines.exists_listDel (hr : Refines h F) {e : α} (he : F.On e) (hname : e ∈ names) :
    ∃ h', listDel p₁ p₂ e h = some h' ∧ ListStep names h h' F (F.erase e) := by
  obtain ⟨h₁, he₁, hunlink, hcell, hloose⟩ := hr.exists_moved he hname
  obtain ⟨h₂, he₂, ho₂, -⟩ := exists_setNext hcell p₁
  obtain ⟨h₃, he₃, ho₃, -⟩ := exists_setPrev ((ho₂.cells e).mpr hcell) p₂
  have heq : listDel p₁ p₂ e h = (unlinkEntry e h).bind fun h₁ =>
      (h₁.setNext e p₁).bind fun h₂ => h₂.setPrev e p₂ := by
    simp [listDel, unlinkEntry, Option.bind_assoc]
  have ho : OnlyAt [e] [e] h₁ h₃ := ho₂.trans ho₃
  refine ⟨h₃, by simp [heq, he₁, he₂, he₃], hunlink.trans (hunlink.refines.write ho ?_)⟩
  intro y hy
  obtain rfl := List.mem_singleton.mp hy
  exact hloose

/-- **One call.**  A legal call succeeds, does to the family what it is for, and leaves the
lists alone that it does not name. -/
theorem exists_listStep (hr : Refines h F) {call : ListCall α} (hlegal : call.Legal h F) :
    ∃ h', listExec p₁ p₂ call h = some h' ∧ ListStep call.names h h' F (call.apply F) := by
  cases call with
  | init list => exact hr.exists_init hlegal.1 hlegal.2 (by simp [ListCall.names])
  | add xnew head =>
      obtain ⟨hx, hoff, hne, hhead⟩ := hlegal
      have hxname : xnew ∈ (ListCall.add xnew head).names := by simp [ListCall.names]
      have hname : head ∈ (ListCall.add xnew head).names := by simp [ListCall.names]
      obtain ⟨l, hl, hdrop, hloose, hl'⟩ := hr.exists_fresh hoff hne hhead hxname
      obtain ⟨h', he, hstep⟩ := hdrop.refines.exists_listAdd hx hloose hl' hname
      exact ⟨h', he, by simpa [ListCall.apply, hl] using hdrop.trans hstep⟩
  | addTail xnew head =>
      obtain ⟨hx, hoff, hne, hhead⟩ := hlegal
      have hxname : xnew ∈ (ListCall.addTail xnew head).names := by simp [ListCall.names]
      have hname : head ∈ (ListCall.addTail xnew head).names := by simp [ListCall.names]
      obtain ⟨l, hl, hdrop, hloose, hl'⟩ := hr.exists_fresh hoff hne hhead hxname
      obtain ⟨h', he, hstep⟩ := hdrop.refines.exists_listAddTail hx hloose hl' hname
      exact ⟨h', he, by simpa [ListCall.apply, hl] using hdrop.trans hstep⟩
  | del entry => exact hr.exists_listDel p₁ p₂ hlegal (by simp [ListCall.names])
  | delInit entry =>
      have hname : entry ∈ (ListCall.delInit entry).names := by simp [ListCall.names]
      obtain ⟨h₁, he₁, hunlink, hcell, hloose⟩ := hr.exists_moved hlegal hname
      obtain ⟨h', he, hinit⟩ := hunlink.refines.exists_init hcell hloose.not_on hname
      exact ⟨h', by simp [listExec, listDelInit, he₁, he], hunlink.trans hinit⟩
  | move list head =>
      obtain ⟨hon, hhead⟩ := hlegal
      have hxname : list ∈ (ListCall.move list head).names := by simp [ListCall.names]
      have hname : head ∈ (ListCall.move list head).names := by simp [ListCall.names]
      obtain ⟨h₁, he₁, hunlink, hcell, hloose⟩ := hr.exists_moved hon hxname
      obtain ⟨l, hl⟩ := ListFamily.exists_erase hhead list
      obtain ⟨h', he, hstep⟩ := hunlink.refines.exists_listAdd hcell hloose hl hname
      refine ⟨h', by simp [listExec, listMove, he₁, he], ?_⟩
      simpa [ListCall.apply, hl] using hunlink.trans hstep
  | moveTail list head =>
      obtain ⟨hon, hhead⟩ := hlegal
      have hxname : list ∈ (ListCall.moveTail list head).names := by simp [ListCall.names]
      have hname : head ∈ (ListCall.moveTail list head).names := by simp [ListCall.names]
      obtain ⟨h₁, he₁, hunlink, hcell, hloose⟩ := hr.exists_moved hon hxname
      obtain ⟨l, hl⟩ := ListFamily.exists_erase hhead list
      obtain ⟨h', he, hstep⟩ := hunlink.refines.exists_listAddTail hcell hloose hl hname
      refine ⟨h', by simp [listExec, listMoveTail, he₁, he], ?_⟩
      simpa [ListCall.apply, hl] using hunlink.trans hstep
  | replace old xnew =>
      obtain ⟨hx, hoff, hne, hplace⟩ := hlegal
      exact hr.exists_replace hx hoff hne hplace (by simp [ListCall.names])
        (by simp [ListCall.names])
  | replaceInit old xnew =>
      obtain ⟨hx, hoff, hne, hplace⟩ := hlegal
      have hold : old ∈ (ListCall.replaceInit old xnew).names := by simp [ListCall.names]
      have hxname : xnew ∈ (ListCall.replaceInit old xnew).names := by simp [ListCall.names]
      obtain ⟨h₁, he₁, hstep⟩ := hr.exists_replace hx hoff hne hplace hold hxname
      have hcell := (hstep.cells old).mpr (hr.ne_none hplace)
      obtain ⟨h', he, hinit⟩ := hstep.refines.exists_init hcell (hr.not_on_substitute hne) hold
      exact ⟨h', by simp [listExec, listReplaceInit, he₁, he], hstep.trans hinit⟩
  | spliceInit list head =>
      obtain ⟨hne, hlist, hhead⟩ := hlegal
      obtain ⟨s, hs⟩ := Option.ne_none_iff_exists'.mp hlist
      obtain ⟨m, hm⟩ := Option.ne_none_iff_exists'.mp hhead
      have hlname : list ∈ (ListCall.spliceInit list head).names := by simp [ListCall.names]
      have hname : head ∈ (ListCall.spliceInit list head).names := by simp [ListCall.names]
      obtain ⟨h', he, hstep⟩ := hr.exists_listSpliceInit hne hs hm hlname hname
      exact ⟨h', he, by simpa [ListCall.apply, hs, hm] using hstep⟩
  | spliceTailInit list head =>
      obtain ⟨hne, hlist, hhead⟩ := hlegal
      obtain ⟨s, hs⟩ := Option.ne_none_iff_exists'.mp hlist
      obtain ⟨m, hm⟩ := Option.ne_none_iff_exists'.mp hhead
      have hlname : list ∈ (ListCall.spliceTailInit list head).names := by simp [ListCall.names]
      have hname : head ∈ (ListCall.spliceTailInit list head).names := by simp [ListCall.names]
      obtain ⟨h', he, hstep⟩ := hr.exists_listSpliceTailInit hne hs hm hlname hname
      exact ⟨h', he, by simpa [ListCall.apply, hs, hm] using hstep⟩

/-! ## Runs -/

/-- The calls on a heap, with the family beside it. -/
def listFamilySystem : GuardedSystem (LinkHeap α × ListFamily α) (ListCall α) where
  legal s call := call.Legal s.1 s.2
  exec s call := (listExec p₁ p₂ call s.1).map fun h' => (h', call.apply s.2)

/-- Each list of the family is a single ring, and both traversals from its head visit its
elements. -/
def Traversed (h : LinkHeap α) (F : ListFamily α) : Prop :=
  ∀ a l, F a = some l → (a :: l).Nodup ∧ h.Ring (a :: l) ∧
    ∀ fuel, l.length < fuel →
      listForEach a h fuel = some l ∧ listForEachPrev a h fuel = some l.reverse

theorem Refines.traversed (hr : Refines h F) : Traversed h F := by
  intro a l ha
  have hring := hr.ring a l ha
  have hnodup := hr.separate.nodup a l ha
  refine ⟨hnodup, hring, ?_⟩
  intro fuel hfuel
  exact ⟨hring.walk_next hnodup hfuel, hring.walk_prev hnodup hfuel⟩

/-- **The refinement.**  From any heap on which there is no list yet, every legal call of
every sequence of calls succeeds; afterwards each list is a ring that is traversed in the
order of the family, and the lists that the call did not name are unchanged. -/
theorem list_calls_refine (h₀ : LinkHeap α) (calls : List (ListCall α)) :
    (listFamilySystem p₁ p₂).Always
      (fun s call s' =>
        Traversed s'.1 s'.2 ∧ Unaffected call.names s.1 s'.1 s.2 s'.2)
      (h₀, fun _ => none) calls := by
  refine GuardedSystem.always_of_meets (I := fun s => Refines s.1 s.2) (C := fun _ _ => True)
    ?_ calls _ ?_ (GuardedSystem.meets_of_forall (fun _ _ _ => trivial) _)
  · intro s call hr hlegal _
    obtain ⟨h', he, hstep⟩ := exists_listStep p₁ p₂ hr hlegal
    refine ⟨(h', call.apply s.2), ?_, ⟨hstep.refines.traversed, hstep.unaffected⟩, hstep.refines⟩
    simp [listFamilySystem, he]
  · exact ⟨⟨by simp, by simp⟩, by simp⟩

end Family

/-- Two elements are pushed to the end of a list, one is moved to another list, and the rest is
put in front of it. -/
example : ([.init 0, .init 1, .addTail 2 0, .addTail 3 0, .move 2 1, .spliceInit 0 1].foldlM
    (fun h call => listExec 8 9 call h) (fun _ : ℕ => some ⟨0, 0⟩)).bind (listForEach 1 · 3) =
      some [3, 2] := by
  decide

/-- The guard without the condition on `INIT_LIST_HEAD`: any node may be initialised. -/
def ListCall.LegalUpToInit (h : LinkHeap α) (F : ListFamily α) : ListCall α → Prop
  | .init list => h list ≠ none
  | call => call.Legal h F

/-- The guard without the condition on the node that `list_replace` replaces. -/
def ListCall.LegalUpToReplaced (h : LinkHeap α) (F : ListFamily α) : ListCall α → Prop
  | .replace old xnew => h xnew ≠ none ∧ F.Off xnew ∧ xnew ≠ old
  | call => call.Legal h F

/-- Without either of them the rings are not kept.  `INIT_LIST_HEAD` on an element cuts its
ring, since the head still leads to the element, which does not lead back; and `list_replace`
follows the pointers of the node it replaces, so that one that was never linked may lead to
a list, which then has the new node for an element. -/
theorem init_or_replace_breaks_ring :
    ¬ GuardedSystem.Always
      { listFamilySystem (2 : ℕ) 3 with legal := fun s call => call.LegalUpToInit s.1 s.2 }
      (fun s call s' =>
        Traversed s'.1 s'.2 ∧ Unaffected call.names s.1 s'.1 s.2 s'.2)
      (fun _ => some ⟨0, 0⟩, fun _ => none) [.init 0, .add 1 0, .init 1] ∧
    ¬ GuardedSystem.Always
      { listFamilySystem (3 : ℕ) 4 with legal := fun s call => call.LegalUpToReplaced s.1 s.2 }
      (fun s call s' =>
        Traversed s'.1 s'.2 ∧ Unaffected call.names s.1 s'.1 s.2 s'.2)
      (fun _ => some ⟨0, 0⟩, fun _ => none) [.init 0, .replace 1 2] := by
  have hoff : ∀ {x : ℕ}, x ≠ 0 →
      ListFamily.Off (Function.update (fun _ => none) 0 (some [])) x := by
    intro x hx
    refine ⟨?_, by simp [hx]⟩
    intro ⟨a, l, ha, hmem⟩
    by_cases h0 : a = 0
    · obtain rfl : [] = l := by simpa [h0] using ha
      simp at hmem
    · simp [h0] at ha
  constructor
  · intro hall
    have hadd : ListCall.LegalUpToInit (Function.update (fun _ => some ⟨0, 0⟩) 0 (some ⟨0, 0⟩))
        (Function.update (fun _ => none) 0 (some [])) (ListCall.add 1 0) :=
      ⟨by decide, hoff (by decide), by decide, by simp⟩
    obtain ⟨-, hall⟩ := (GuardedSystem.always_cons_iff
      (by simp [ListCall.LegalUpToInit]) rfl).mp hall
    obtain ⟨-, hall⟩ := (GuardedSystem.always_cons_iff hadd rfl).mp hall
    obtain ⟨⟨htraversed, -⟩, -⟩ := (GuardedSystem.always_cons_iff
      (by simp [ListCall.LegalUpToInit]) rfl).mp hall
    obtain ⟨-, hring, -⟩ := htraversed 0 [1] rfl
    have hback := (List.isChain_cons_cons.mp hring.1).1.2
    revert hback
    decide
  · intro hall
    have hreplace : ListCall.LegalUpToReplaced
        (Function.update (fun _ => some ⟨0, 0⟩) 0 (some ⟨0, 0⟩))
        (Function.update (fun _ => none) 0 (some [])) (ListCall.replace 1 2) :=
      ⟨by decide, hoff (by decide), by decide⟩
    obtain ⟨-, hall⟩ := (GuardedSystem.always_cons_iff
      (by simp [ListCall.LegalUpToReplaced, ListCall.Legal, ListFamily.On]) rfl).mp hall
    obtain ⟨⟨htraversed, -⟩, -⟩ := (GuardedSystem.always_cons_iff hreplace rfl).mp hall
    have hwalk := ((htraversed 0 [] (by decide)).2.2 1 (by decide)).1
    revert hwalk
    decide

end GuitarTea
