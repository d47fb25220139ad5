import GuitarTea.Lib.LinkHeap

/-!
# The intrusive list

The macros and inline functions of `gt_list.h` on a heap of `struct list_head`
cells.  A cell is named by its address; a function that follows a pointer to a
cell that does not exist is `none`.  The writes are made in the order of the
source, since neighbours may coincide.

`LIST_POISON1` and `LIST_POISON2` are addresses without a cell, and are passed to
`listDel` because the address type is a parameter.

## Main definitions

* `initListHead`, `listAdd`, `listAddTail`, `listDel`, `listDelInit`, `listEmpty`.
* `listReplace`, `listMove`, `listSpliceInit` and their variants.
* `listForEach`, `listForEachPrev` — the two traversals, with fuel.
-/

namespace GuitarTea

variable {α : Type} [DecidableEq α]

/-- `INIT_LIST_HEAD`. -/
def initListHead (list : α) (h : LinkHeap α) : Option (LinkHeap α) := do
  let h ← h.setNext list list
  h.setPrev list list

/-- `__list_add`: insert between two known consecutive entries. -/
def rawListAdd (xnew prev next : α) (h : LinkHeap α) : Option (LinkHeap α) := do
  let h ← h.setPrev next xnew
  let h ← h.setNext xnew next
  let h ← h.setPrev xnew prev
  h.setNext prev xnew

/-- `list_add`: insert `xnew` after `head`. -/
def listAdd (xnew head : α) (h : LinkHeap α) : Option (LinkHeap α) := do
  let next ← h.next? head
  rawListAdd xnew head next h

/-- `list_add_tail`: insert `xnew` before `head`. -/
def listAddTail (xnew head : α) (h : LinkHeap α) : Option (LinkHeap α) := do
  let prev ← h.prev? head
  rawListAdd xnew prev head h

/-- `__list_del`: make two entries point to each other. -/
def rawListDel (prev next : α) (h : LinkHeap α) : Option (LinkHeap α) := do
  let h ← h.setPrev next prev
  h.setNext prev next

/-- `list_del`: unlink an entry and poison its pointers. -/
def listDel (listPoison1 listPoison2 entry : α) (h : LinkHeap α) : Option (LinkHeap α) := do
  let prev ← h.prev? entry
  let next ← h.next? entry
  let h ← rawListDel prev next h
  let h ← h.setNext entry listPoison1
  h.setPrev entry listPoison2

/-- `list_replace`: `xnew` takes the place of `old`, whose pointers stay.  Each assignment
reads the pointers as the one before left them. -/
def listReplace (old xnew : α) (h : LinkHeap α) : Option (LinkHeap α) := do
  let next ← h.next? old
  let h ← h.setNext xnew next
  let next ← h.next? xnew
  let h ← h.setPrev next xnew
  let prev ← h.prev? old
  let h ← h.setPrev xnew prev
  let prev ← h.prev? xnew
  h.setNext prev xnew

/-- `list_replace_init`. -/
def listReplaceInit (old xnew : α) (h : LinkHeap α) : Option (LinkHeap α) := do
  let h ← listReplace old xnew h
  initListHead old h

/-- `__list_del(entry->prev, entry->next)`, with which the next three begin. -/
def unlinkEntry (entry : α) (h : LinkHeap α) : Option (LinkHeap α) := do
  let prev ← h.prev? entry
  let next ← h.next? entry
  rawListDel prev next h

/-- `list_del_init`: unlink an entry and initialise it. -/
def listDelInit (entry : α) (h : LinkHeap α) : Option (LinkHeap α) := do
  let h ← unlinkEntry entry h
  initListHead entry h

/-- `list_move`: unlink an entry and insert it after `head`. -/
def listMove (list head : α) (h : LinkHeap α) : Option (LinkHeap α) := do
  let h ← unlinkEntry list h
  listAdd list head h

/-- `list_move_tail`: unlink an entry and insert it before `head`. -/
def listMoveTail (list head : α) (h : LinkHeap α) : Option (LinkHeap α) := do
  let h ← unlinkEntry list h
  listAddTail list head h

/-- `list_empty`. -/
def listEmpty (head : α) (h : LinkHeap α) : Option Bool :=
  (h.next? head).map fun next => decide (next = head)

/-- `__list_splice`: insert the entries of `list` between two consecutive ones. -/
def rawListSplice (list prev next : α) (h : LinkHeap α) : Option (LinkHeap α) := do
  let first ← h.next? list
  let last ← h.prev? list
  let h ← h.setPrev first prev
  let h ← h.setNext prev first
  let h ← h.setNext last next
  h.setPrev next last

/-- `list_splice_init`: move the entries of `list` to the front of `head`. -/
def listSpliceInit (list head : α) (h : LinkHeap α) : Option (LinkHeap α) := do
  let empty ← listEmpty list h
  if empty then some h
  else
    let next ← h.next? head
    let h ← rawListSplice list head next h
    initListHead list h

/-- `list_splice_tail_init`: move the entries of `list` to the end of `head`. -/
def listSpliceTailInit (list head : α) (h : LinkHeap α) : Option (LinkHeap α) := do
  let empty ← listEmpty list h
  if empty then some h
  else
    let prev ← h.prev? head
    let h ← rawListSplice list prev head h
    initListHead list h

/-- The positions `list_for_each` visits. -/
def listForEach (head : α) (h : LinkHeap α) (fuel : ℕ) : Option (List α) :=
  (h.next? head).bind (LinkHeap.walk h.next? head fuel)

/-- The positions `list_for_each_prev` visits. -/
def listForEachPrev (head : α) (h : LinkHeap α) (fuel : ℕ) : Option (List α) :=
  (h.prev? head).bind (LinkHeap.walk h.prev? head fuel)

/-- An initialised cell points to itself. -/
theorem initListHead_of_eq {h : LinkHeap α} {list : α} {l : Link α} (hl : h list = some l) :
    initListHead list h = some (Function.update h list (some ⟨list, list⟩)) := by
  simp [initListHead, LinkHeap.setNext_of_eq hl, LinkHeap.setPrev]

/-- **What `list_add(&a, &b)` does when `b` is a ring of its own.**  The two cells
become a ring of two, and whatever `a` pointed to before is forgotten: `a` is
treated as the new entry and `b` as the head. -/
theorem listAdd_of_singleton {h : LinkHeap α} {a b : α} {l : Link α} (hne : a ≠ b)
    (ha : h a = some l) (hb : h b = some ⟨b, b⟩) :
    listAdd a b h = some
      (Function.update (Function.update h b (some ⟨a, a⟩)) a (some ⟨b, b⟩)) := by
  have hne' : b ≠ a := hne.symm
  simp only [listAdd, rawListAdd, LinkHeap.next?_of_eq hb, LinkHeap.setPrev_of_eq hb,
    Option.bind_eq_bind, Option.bind_some]
  rw [LinkHeap.setNext_of_eq (l := l) (by simp [hne, ha]), Option.bind_some,
    LinkHeap.setPrev_of_eq (l := ⟨b, l.prev⟩) (by simp), Option.bind_some,
    LinkHeap.setNext_of_eq (l := ⟨b, a⟩) (by simp [hne'])]
  congr 1
  funext x
  by_cases hxa : x = a
  · simp [hxa, hne]
  · by_cases hxb : x = b <;> simp [hxa, hxb, hne']

/-- What `list_del` does to an entry both of whose neighbours are one cell `a`:
`a` becomes a ring of its own. -/
theorem listDel_of_star {h : LinkHeap α} {a b : α} {l : Link α} (hne : a ≠ b)
    (ha : h a = some l) (hb : h b = some ⟨a, a⟩) (p₁ p₂ : α) :
    listDel p₁ p₂ b h = some
      (Function.update (Function.update h a (some ⟨a, a⟩)) b (some ⟨p₁, p₂⟩)) := by
  have hne' : b ≠ a := hne.symm
  simp only [listDel, rawListDel, LinkHeap.next?_of_eq hb, LinkHeap.prev?_of_eq hb,
    LinkHeap.setPrev_of_eq ha, Option.bind_eq_bind, Option.bind_some]
  rw [LinkHeap.setNext_of_eq (l := ⟨l.next, a⟩) (by simp), Option.bind_some,
    LinkHeap.setNext_of_eq (l := ⟨a, a⟩) (by simp [hne', hb]), Option.bind_some,
    LinkHeap.setPrev_of_eq (l := ⟨p₁, a⟩) (by simp)]
  congr 1
  funext x
  by_cases hxb : x = b
  · simp [hxb]
  · by_cases hxa : x = a <;> simp [hxa, hxb, hne]

/-- A ring of one has no entries. -/
theorem listForEach_of_self {h : LinkHeap α} {a : α} (ha : h a = some ⟨a, a⟩) :
    listForEach a h 1 = some [] ∧ listForEachPrev a h 1 = some [] := by
  simp [listForEach, listForEachPrev, LinkHeap.next?, LinkHeap.prev?, ha, LinkHeap.walk]

/-- A ring of two has one entry. -/
theorem listForEach_of_pair {h : LinkHeap α} {a b : α} (hne : b ≠ a) (ha : h a = some ⟨b, b⟩)
    (hb : h b = some ⟨a, a⟩) :
    listForEach a h 2 = some [b] ∧ listForEachPrev a h 2 = some [b] := by
  simp [listForEach, listForEachPrev, LinkHeap.next?, LinkHeap.prev?, ha, hb, LinkHeap.walk, hne]

end GuitarTea
