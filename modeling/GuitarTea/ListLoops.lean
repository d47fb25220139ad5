import GuitarTea.Lib.Loops
import GuitarTea.ListRefinement

/-!
# The loops of the intrusive list

The `for` macros of `gt_list.h`, with a body.  A macro on entries is the macro on their
`list` members: an entry is named by the address of its member.

The `_safe` macros have read the next pointer before the body, so that the body may
delete the entry or move it to another list.  The others must not be used like this:
after `list_del` the loop follows a poison, and after `list_del_init` it stays where it
is.

## Main definitions

* `listForEachSafe`, `listForEachEntrySafeReverse`, … — the macros.
* `EntryCall` — what a body does to the current entry.
* `FollowsPoison`, `StaysAtFirst` — what a loop does that does not get on.

## Main results

* `safe_loops_visit_all` — the `_safe` loops visit every entry, whatever is removed.
* `safe_loops_from_entry` — the same from an entry in the middle.
* `plain_loop_del_never_ends` — the plain loop does not get on after a removal.
* `drain_eq_splice` — moving all entries one by one is a splice.
-/

namespace GuitarTea

open LinkHeap

variable {α : Type} [DecidableEq α]

/-! ## The macros -/

section Macros

variable (body : α → LinkHeap α → Option (LinkHeap α))

/-- A loop that begins behind a cell. -/
def loopAfter (follow : LinkHeap α → α → Option α) (pos head : α) (h : LinkHeap α) (fuel : ℕ) :
    Option (List α × LinkHeap α) :=
  (follow h pos).bind fun pos => loop follow body head fuel pos h

/-- A loop that saves the next cell and begins at a cell. -/
def loopSafeFrom (follow : LinkHeap α → α → Option α) (pos head : α) (h : LinkHeap α)
    (fuel : ℕ) : Option (List α × LinkHeap α) :=
  (follow h pos).bind fun n => loopSafe follow body head fuel pos n h

/-- A loop that saves the next cell and begins behind a cell. -/
def loopSafeAfter (follow : LinkHeap α → α → Option α) (pos head : α) (h : LinkHeap α)
    (fuel : ℕ) : Option (List α × LinkHeap α) :=
  (follow h pos).bind fun pos => loopSafeFrom body follow pos head h fuel

/-- `list_for_each` and `list_for_each_entry`, with a body. -/
def listForEachEntry (head : α) : LinkHeap α → ℕ → Option (List α × LinkHeap α) :=
  loopAfter body next? head head

/-- `list_for_each_prev` and `list_for_each_entry_reverse`, with a body. -/
def listForEachEntryReverse (head : α) : LinkHeap α → ℕ → Option (List α × LinkHeap α) :=
  loopAfter body prev? head head

/-- `list_for_each_entry_continue`. -/
def listForEachEntryContinue (pos head : α) : LinkHeap α → ℕ → Option (List α × LinkHeap α) :=
  loopAfter body next? pos head

/-- `list_for_each_entry_from`. -/
def listForEachEntryFrom (pos head : α) (h : LinkHeap α) (fuel : ℕ) :
    Option (List α × LinkHeap α) :=
  loop next? body head fuel pos h

/-- `list_for_each_safe` and `list_for_each_entry_safe`. -/
def listForEachSafe (head : α) : LinkHeap α → ℕ → Option (List α × LinkHeap α) :=
  loopSafeAfter body next? head head

/-- `list_for_each_entry_safe_reverse`. -/
def listForEachEntrySafeReverse (head : α) : LinkHeap α → ℕ → Option (List α × LinkHeap α) :=
  loopSafeAfter body prev? head head

/-- `list_for_each_entry_safe_continue`. -/
def listForEachEntrySafeContinue (pos head : α) :
    LinkHeap α → ℕ → Option (List α × LinkHeap α) :=
  loopSafeAfter body next? pos head

/-- `list_for_each_entry_safe_from`. -/
def listForEachEntrySafeFrom (pos head : α) : LinkHeap α → ℕ → Option (List α × LinkHeap α) :=
  loopSafeFrom body next? pos head

end Macros

/-- `list_prepare_entry`. -/
def listPrepareEntry (pos : Option α) (head : α) : α := pos.getD head

/-! ## What a body does to an entry -/

/-- What a body does to the current entry. -/
inductive EntryCall (α : Type)
  | keep
  | del
  | delInit
  | move (head : α)
  | moveTail (head : α)
  deriving DecidableEq, Repr

namespace EntryCall

/-- The entry stays where it is. -/
def keeps : EntryCall α → Bool
  | keep => true
  | _ => false

/-- The call for an entry, if there is one. -/
def call (entry : α) : EntryCall α → Option (ListCall α)
  | keep => none
  | del => some (.del entry)
  | delInit => some (.delInit entry)
  | move head => some (.move entry head)
  | moveTail head => some (.moveTail entry head)

/-- The body on the heap. -/
def exec (p₁ p₂ : α) (c : EntryCall α) (entry : α) (h : LinkHeap α) : Option (LinkHeap α) :=
  match c.call entry with
  | none => some h
  | some call => listExec p₁ p₂ call h

/-- The body on the family. -/
def apply (c : EntryCall α) (F : ListFamily α) (entry : α) : ListFamily α :=
  match c.call entry with
  | none => F
  | some call => call.apply F

/-- An entry may be moved to another list. -/
def Legal (c : EntryCall α) (F : ListFamily α) (a : α) : Prop :=
  ∀ b, c = move b ∨ c = moveTail b → b ≠ a ∧ F b ≠ none

end EntryCall

section Body

variable {h : LinkHeap α} {F : ListFamily α} {a x : α} {s t : List α}

/-- A list without one of its elements. -/
theorem ListFamily.Separate.erase_eq (hs : F.Separate) (ha : F a = some (s ++ x :: t)) :
    F.erase x a = some (s ++ t) := by
  have hnodup := (List.nodup_cons.mp (hs.nodup a _ ha)).2
  have hxs : x ∉ s := fun hmem =>
    (List.nodup_append.mp hnodup).2.2 x hmem x List.mem_cons_self rfl
  simp [ListFamily.erase, ha, List.erase_append_right _ hxs]

omit [DecidableEq α] in
theorem ListFamily.on_of_eq (ha : F a = some (s ++ x :: t)) : F.On x :=
  ⟨a, _, ha, by simp⟩

/-- Erasing an element keeps the heads. -/
theorem ListFamily.erase_ne_none {b : α} (hb : F b ≠ none) : F.erase x b ≠ none := by
  simpa [ListFamily.erase] using hb

/-- **What a body does** to the list it runs over: the entry stays or it goes, and the
entries before and behind it stay. -/
theorem EntryCall.exists_step (p₁ p₂ : α) (hr : Refines h F) (ha : F a = some (s ++ x :: t))
    {c : EntryCall α} (hlegal : c.Legal F a) :
    ∃ h', c.exec p₁ p₂ x h = some h' ∧ Refines h' (c.apply F x) ∧
      c.apply F x a = some (s ++ (if c.keeps then [x] else []) ++ t) ∧
      ∀ b, F b ≠ none → c.apply F x b ≠ none := by
  have hon := ListFamily.on_of_eq ha
  have herase := hr.separate.erase_eq ha
  have hxa : a ≠ x := by
    rintro rfl
    simpa using (List.nodup_cons.mp (hr.separate.nodup a _ ha)).1
  cases c with
  | keep => exact ⟨h, rfl, hr, by simpa [apply, call, keeps] using ha, fun b hb => hb⟩
  | del =>
      have hdel : ListCall.Legal h F (.del x) := hon
      obtain ⟨h', he, hstep⟩ := exists_listStep p₁ p₂ hr hdel
      refine ⟨h', he, hstep.refines, ?_, fun b hb => ListFamily.erase_ne_none hb⟩
      simpa [apply, call, keeps, ListCall.apply] using herase
  | delInit =>
      have hdel : ListCall.Legal h F (.delInit x) := hon
      obtain ⟨h', he, hstep⟩ := exists_listStep p₁ p₂ hr hdel
      refine ⟨h', he, hstep.refines, ?_, fun b hb => ?_⟩
      · simpa [apply, call, keeps, ListCall.apply, hxa] using herase
      · by_cases hbx : b = x
        · simp [apply, call, ListCall.apply, hbx]
        · simpa [apply, call, ListCall.apply, hbx] using ListFamily.erase_ne_none (x := x) hb
  | move b =>
      obtain ⟨hba, hb⟩ := hlegal b (.inl rfl)
      have hmove : ListCall.Legal h F (.move x b) := ⟨hon, hb⟩
      obtain ⟨h', he, hstep⟩ := exists_listStep p₁ p₂ hr hmove
      refine ⟨h', he, hstep.refines, ?_, fun k hk => ?_⟩
      · simpa [apply, call, keeps, ListCall.apply, hba.symm] using herase
      · by_cases hkb : k = b
        · simpa [apply, call, ListCall.apply, hkb] using ListFamily.erase_ne_none (x := x) hb
        · simpa [apply, call, ListCall.apply, hkb] using ListFamily.erase_ne_none (x := x) hk
  | moveTail b =>
      obtain ⟨hba, hb⟩ := hlegal b (.inr rfl)
      have hmove : ListCall.Legal h F (.moveTail x b) := ⟨hon, hb⟩
      obtain ⟨h', he, hstep⟩ := exists_listStep p₁ p₂ hr hmove
      refine ⟨h', he, hstep.refines, ?_, fun k hk => ?_⟩
      · simpa [apply, call, keeps, ListCall.apply, hba.symm] using herase
      · by_cases hkb : k = b
        · simpa [apply, call, ListCall.apply, hkb] using ListFamily.erase_ne_none (x := x) hb
        · simpa [apply, call, ListCall.apply, hkb] using ListFamily.erase_ne_none (x := x) hk

end Body

/-! ## The loops that save the next entry -/

/-- The family after a body has run on some entries. -/
def visit (act : α → EntryCall α) (F : ListFamily α) (l : List α) : ListFamily α :=
  l.foldl (fun F x => (act x).apply F x) F

/-- The entries that stay. -/
def kept (act : α → EntryCall α) (l : List α) : List α := l.filter fun x => (act x).keeps

section Safe

variable {h : LinkHeap α} {F : ListFamily α} {act : α → EntryCall α} {a : α}

omit [DecidableEq α] in
theorem kept_append_singleton (act : α → EntryCall α) (l : List α) (x : α) :
    kept act (l ++ [x]) = kept act l ++ if (act x).keeps then [x] else [] := by
  by_cases hx : (act x).keeps <;> simp [kept, hx]

theorem visit_append_singleton (act : α → EntryCall α) (F : ListFamily α) (l : List α) (x : α) :
    visit act F (l ++ [x]) = (act x).apply (visit act F l) x := by
  simp [visit]

omit [DecidableEq α] in
/-- The cells to come, for a loop that runs forwards. -/
theorem isChain_next {u rest : List α} (hring : h.Ring (a :: (u ++ rest))) :
    List.IsChain (fun x y => h.next? x = some y) (rest ++ [a]) := by
  have hchain := ring_cons_iff.mp hring
  have hsplit : a :: (u ++ rest) ++ [a] = (a :: u) ++ (rest ++ [a]) := by simp
  rw [hsplit] at hchain
  exact (List.isChain_append.mp hchain).2.1.imp fun _ _ hlink => hlink.1

omit [DecidableEq α] in
/-- The cells to come, for a loop that runs backwards. -/
theorem isChain_prev {v rest : List α} (hring : h.Ring (a :: (rest.reverse ++ v))) :
    List.IsChain (fun x y => h.prev? x = some y) (rest ++ [a]) := by
  have hchain := ring_cons_iff.mp hring
  have hsplit : a :: (rest.reverse ++ v) ++ [a] = (rest ++ [a]).reverse ++ (v ++ [a]) := by simp
  rw [hsplit] at hchain
  have hrest := (List.isChain_append.mp hchain).1
  rw [List.isChain_reverse] at hrest
  exact hrest.imp fun _ _ hlink => hlink.2

/-- The state of a loop over the list of `a`.  `rest` are the entries to come, and `whole`
is the list when some are done. -/
def Visiting (act : α → EntryCall α) (F : ListFamily α) (a : α)
    (whole : List α → List α → List α) (l rest : List α) (h : LinkHeap α) : Prop :=
  ∃ done, l = done ++ rest ∧ Refines h (visit act F done) ∧
    visit act F done a = some (whole done rest) ∧ ∀ b, F b ≠ none → visit act F done b ≠ none

variable (p₁ p₂ : α) {follow : LinkHeap α → α → Option α} {whole : List α → List α → List α}
  {l : List α}

/-- One round of a loop. -/
theorem Visiting.exists_step {x : α} {rest : List α}
    (hwhole : ∀ done x rest, ∃ u v, whole done (x :: rest) = u ++ x :: v ∧
      whole (done ++ [x]) rest = u ++ (if (act x).keeps then [x] else []) ++ v)
    (hact : ∀ x ∈ l, (act x).Legal F a) (hI : Visiting act F a whole l (x :: rest) h) :
    ∃ h', (act x).exec p₁ p₂ x h = some h' ∧ Visiting act F a whole l rest h' := by
  obtain ⟨done, rfl, hr, ha, hheads⟩ := hI
  obtain ⟨u, v, hbefore, hafter⟩ := hwhole done x rest
  rw [hbefore] at ha
  have hlegal : (act x).Legal (visit act F done) a := by
    intro b hb
    obtain ⟨hba, hFb⟩ := hact x (by simp) b hb
    exact ⟨hba, hheads b hFb⟩
  obtain ⟨h', he, hr', ha', hheads'⟩ := EntryCall.exists_step p₁ p₂ hr ha hlegal
  refine ⟨h', he, done ++ [x], by simp, ?_, ?_, ?_⟩
  · rwa [visit_append_singleton]
  · rw [visit_append_singleton, ha', hafter]
  · intro b hb
    rw [visit_append_singleton]
    exact hheads' b (hheads b hb)

variable (whole) in
/-- **The loops that save the next entry**, in either direction and from any entry. -/
theorem exists_loopSafe (hr : Refines h F) (ha : F a = some (whole [] l))
    (hwhole : ∀ done x rest, ∃ u v, whole done (x :: rest) = u ++ x :: v ∧
      whole (done ++ [x]) rest = u ++ (if (act x).keeps then [x] else []) ++ v)
    (hchain : ∀ (h : LinkHeap α) done rest, h.Ring (a :: whole done rest) →
      List.IsChain (fun x y => follow h x = some y) (rest ++ [a]))
    (hfollow : ∀ h : LinkHeap α, h a ≠ none → follow h a ≠ none)
    (hact : ∀ x ∈ l, (act x).Legal F a) (hmem : a ∉ l) {pos n : α}
    (hpos : (l ++ [a]).head? = some pos) (hn : follow h pos = some n) {fuel : ℕ}
    (hfuel : l.length < fuel) :
    ∃ h', loopSafe follow (fun x => (act x).exec p₁ p₂ x) a fuel pos n h = some (l, h') ∧
      Refines h' (visit act F l) ∧ visit act F l a = some (whole l []) := by
  have hI : Visiting act F a whole l l h := ⟨[], rfl, hr, ha, fun _ hb => hb⟩
  have hloop := loopSafe_of_chain (I := Visiting act F a whole l) ?_ ?_
    (fun x rest h hI => hI.exists_step p₁ p₂ hwhole hact) hmem hI hpos hn hfuel
  · obtain ⟨h', hrun, done, hdone, hr', ha', -⟩ := hloop
    obtain rfl : l = done := by simpa using hdone
    exact ⟨h', hrun, hr', ha'⟩
  · rintro rest h ⟨done, -, hr, ha, -⟩
    exact hchain h done rest (hr.ring a _ ha)
  · rintro h ⟨done, -, hr, ha, -⟩
    exact hfollow h ((hr.ring a _ ha).ne_none List.mem_cons_self)

variable (hr : Refines h F) {s : List α} {fuel : ℕ}
include hr

/-- Forwards: the entries of `s` are not visited. -/
theorem exists_loopSafe_next (ha : F a = some (s ++ l)) (hact : ∀ x ∈ l, (act x).Legal F a)
    {pos n : α} (hpos : (l ++ [a]).head? = some pos) (hn : h.next? pos = some n)
    (hfuel : l.length < fuel) :
    ∃ h', loopSafe next? (fun x => (act x).exec p₁ p₂ x) a fuel pos n h = some (l, h') ∧
      Refines h' (visit act F l) ∧ visit act F l a = some (s ++ kept act l) := by
  have hmem : a ∉ l := by
    intro hmem
    exact (List.nodup_cons.mp (hr.separate.nodup a _ ha)).1 (by simp [hmem])
  have hloop := exists_loopSafe p₁ p₂ (fun done rest => s ++ kept act done ++ rest) hr
    (by simpa [kept] using ha) ?_ (fun h done rest hring => isChain_next hring)
    (fun _ => next?_ne_none_iff.mpr) hact hmem hpos hn hfuel
  · simpa using hloop
  · intro done x rest
    exact ⟨s ++ kept act done, rest, rfl, by simp [kept_append_singleton]⟩

/-- Backwards. -/
theorem exists_loopSafe_prev (ha : F a = some (l.reverse ++ s))
    (hact : ∀ x ∈ l, (act x).Legal F a) {pos n : α} (hpos : (l ++ [a]).head? = some pos)
    (hn : h.prev? pos = some n) (hfuel : l.length < fuel) :
    ∃ h', loopSafe prev? (fun x => (act x).exec p₁ p₂ x) a fuel pos n h = some (l, h') ∧
      Refines h' (visit act F l) ∧ visit act F l a = some ((kept act l).reverse ++ s) := by
  have hmem : a ∉ l := by
    intro hmem
    exact (List.nodup_cons.mp (hr.separate.nodup a _ ha)).1 (by simp [hmem])
  have hloop := exists_loopSafe p₁ p₂
    (fun done rest => rest.reverse ++ ((kept act done).reverse ++ s)) hr
    (by simpa [kept] using ha) ?_ (fun h done rest hring => isChain_prev hring)
    (fun h hne => by simpa [prev?] using hne) hact hmem hpos hn hfuel
  · simpa using hloop
  · intro done x rest
    refine ⟨rest.reverse, (kept act done).reverse ++ s, by simp, ?_⟩
    by_cases hx : (act x).keeps <;> simp [kept_append_singleton, hx]

end Safe

/-! ## Two lists -/

/-- The cells of a list with three entries and of one with none. -/
def twoRings : LinkHeap ℕ
  | 0 => some ⟨1, 3⟩
  | 1 => some ⟨2, 0⟩
  | 2 => some ⟨3, 1⟩
  | 3 => some ⟨0, 2⟩
  | 4 => some ⟨4, 4⟩
  | _ => none

/-- The two lists. -/
def twoLists : ListFamily ℕ
  | 0 => some [1, 2, 3]
  | 4 => some []
  | _ => none

theorem twoLists_cases {a : ℕ} {l : List ℕ} (ha : twoLists a = some l) :
    a = 0 ∧ l = [1, 2, 3] ∨ a = 4 ∧ l = [] := by
  simp only [twoLists] at ha
  split at ha
  · exact .inl ⟨rfl, (Option.some.inj ha).symm⟩
  · exact .inr ⟨rfl, (Option.some.inj ha).symm⟩
  · cases ha

theorem refines_twoRings : Refines twoRings twoLists where
  separate := by
    constructor
    · intro a l ha
      obtain ⟨rfl, rfl⟩ | ⟨rfl, rfl⟩ := twoLists_cases ha <;> simp
    · intro a b l m ha hb hne
      obtain ⟨rfl, rfl⟩ | ⟨rfl, rfl⟩ := twoLists_cases ha <;>
        obtain ⟨rfl, rfl⟩ | ⟨rfl, rfl⟩ := twoLists_cases hb <;> simp_all
  ring a l ha := by
    obtain ⟨rfl, rfl⟩ | ⟨rfl, rfl⟩ := twoLists_cases ha <;>
      simp [LinkHeap.Ring, Linked, next?, prev?, twoRings]

/-- The first entry is deleted, the second stays, the others are moved to the other list. -/
def sorting : ℕ → EntryCall ℕ
  | 1 => .delInit
  | 2 => .keep
  | _ => .moveTail 4

theorem legal_sorting (x : ℕ) : (sorting x).Legal twoLists 0 := by
  intro b hb
  obtain rfl : 4 = b := by
    simp only [sorting] at hb
    split at hb <;> simp_all
  exact ⟨by decide, by simp [twoLists]⟩

section Results

variable {h : LinkHeap α} {F : ListFamily α} {act : α → EntryCall α} {a : α} {l : List α} {fuel : ℕ}
  (p₁ p₂ : α) (hr : Refines h F)
include hr

/-- `list_for_each_safe` over a whole list. -/
theorem exists_listForEachSafe (ha : F a = some l) (hact : ∀ x ∈ l, (act x).Legal F a)
    (hfuel : l.length < fuel) :
    ∃ h', listForEachSafe (fun x => (act x).exec p₁ p₂ x) a h fuel = some (l, h') ∧
      Refines h' (visit act F l) ∧ visit act F l a = some (kept act l) := by
  have hring := hr.ring a l ha
  obtain ⟨pos, hpos⟩ := exists_head?_append l a
  have hmem : pos ∈ a :: l := by
    simpa [or_comm] using List.mem_of_head? hpos
  obtain ⟨n, hn⟩ :=
    Option.ne_none_iff_exists'.mp (next?_ne_none_iff.mpr (hring.ne_none hmem))
  obtain ⟨h', he, hr', hkept⟩ := exists_loopSafe_next (s := []) p₁ p₂ hr ha hact hpos hn hfuel
  refine ⟨h', ?_, hr', hkept⟩
  simp [listForEachSafe, loopSafeAfter, loopSafeFrom, hring.next?_eq hpos, hn, he]

/-- `list_for_each_entry_safe_reverse` over a whole list. -/
theorem exists_listForEachEntrySafeReverse (ha : F a = some l)
    (hact : ∀ x ∈ l, (act x).Legal F a) (hfuel : l.length < fuel) :
    ∃ h', listForEachEntrySafeReverse (fun x => (act x).exec p₁ p₂ x) a h fuel =
        some (l.reverse, h') ∧
      Refines h' (visit act F l.reverse) ∧ visit act F l.reverse a = some (kept act l) := by
  have hring := hr.ring a l ha
  obtain ⟨pos, hpos⟩ := exists_head?_append l.reverse a
  have hlast : (a :: l).getLast? = some pos := by
    rw [← hpos, ← List.head?_reverse, List.reverse_cons]
  have hfirst : h.prev? a = some pos := (hring.2 pos hlast a rfl).2
  obtain ⟨n, hn⟩ : ∃ n, h.prev? pos = some n := by
    obtain ⟨c, hc⟩ :=
      Option.ne_none_iff_exists'.mp (hring.ne_none (List.mem_of_getLast? hlast))
    exact ⟨c.prev, prev?_of_eq hc⟩
  have hact' : ∀ x ∈ l.reverse, (act x).Legal F a := by
    intro x hx
    exact hact x (List.mem_reverse.mp hx)
  obtain ⟨h', he, hr', hkept⟩ := exists_loopSafe_prev (s := []) p₁ p₂ hr (by simpa using ha)
    hact' hpos hn (by simpa using hfuel)
  refine ⟨h', ?_, hr', by simpa [kept] using hkept⟩
  simp [listForEachEntrySafeReverse, loopSafeAfter, loopSafeFrom, hfirst, hn, he]

/-- **The safe loops over a whole list.**  The body may delete any entry, or move it to any
other list: the loops visit every entry once, in the order of the list or against it, each
call of the body does what it is for, and the list is left with the entries that stay. -/
theorem safe_loops_visit_all (ha : F a = some l) (hact : ∀ x ∈ l, (act x).Legal F a)
    (hfuel : l.length < fuel) :
    (∃ h', listForEachSafe (fun x => (act x).exec p₁ p₂ x) a h fuel = some (l, h') ∧
      Refines h' (visit act F l) ∧ visit act F l a = some (kept act l)) ∧
    ∃ h', listForEachEntrySafeReverse (fun x => (act x).exec p₁ p₂ x) a h fuel =
        some (l.reverse, h') ∧
      Refines h' (visit act F l.reverse) ∧ visit act F l.reverse a = some (kept act l) := by
  exact ⟨exists_listForEachSafe p₁ p₂ hr ha hact hfuel,
    exists_listForEachEntrySafeReverse p₁ p₂ hr ha hact hfuel⟩

omit [DecidableEq α] hr in
theorem safe_loops_visit_all_sorting :
    (∃ h', listForEachSafe (fun x => (sorting x).exec 5 6 x) 0 twoRings 4 =
        some ([1, 2, 3], h') ∧
      Refines h' (visit sorting twoLists [1, 2, 3]) ∧
        visit sorting twoLists [1, 2, 3] 0 = some [2]) ∧
    ∃ h', listForEachEntrySafeReverse (fun x => (sorting x).exec 5 6 x) 0 twoRings 4 =
        some ([3, 2, 1], h') ∧
      Refines h' (visit sorting twoLists [3, 2, 1]) ∧
        visit sorting twoLists [3, 2, 1] 0 = some [2] :=
  safe_loops_visit_all 5 6 refines_twoRings rfl (fun x _ => legal_sorting x) (by decide)

/-- **The safe loops from an entry.**  `list_for_each_entry_safe_from` visits the entry and
those behind it, `list_for_each_entry_safe_continue` only those behind it; the entries
before it stay. -/
theorem safe_loops_from_entry {s t : List α} {x : α} (ha : F a = some (s ++ x :: t))
    (hact : ∀ y ∈ x :: t, (act y).Legal F a) (hfuel : t.length + 1 < fuel) :
    (∃ h', listForEachEntrySafeFrom (fun x => (act x).exec p₁ p₂ x) x a h fuel =
        some (x :: t, h') ∧
      Refines h' (visit act F (x :: t)) ∧
        visit act F (x :: t) a = some (s ++ kept act (x :: t))) ∧
    ∃ h', listForEachEntrySafeContinue (fun x => (act x).exec p₁ p₂ x) x a h fuel =
        some (t, h') ∧
      Refines h' (visit act F t) ∧ visit act F t a = some (s ++ x :: kept act t) := by
  have hring := hr.ring a _ ha
  obtain ⟨pos, hpos⟩ := exists_head?_append t a
  have hfirst : h.next? x = some pos := follow_eq_of_isChain (isChain_next hring) hpos
  constructor
  · obtain ⟨h', he, hr', hkept⟩ := exists_loopSafe_next p₁ p₂ hr ha hact rfl hfirst hfuel
    refine ⟨h', ?_, hr', hkept⟩
    simp [listForEachEntrySafeFrom, loopSafeFrom, hfirst, he]
  · have hmem : pos ∈ a :: (s ++ x :: t) := by
      have hmem := List.mem_of_head? hpos
      simp only [List.mem_append, List.mem_singleton] at hmem
      rcases hmem with hmem | rfl <;> simp [*]
    obtain ⟨n, hn⟩ :=
      Option.ne_none_iff_exists'.mp (next?_ne_none_iff.mpr (hring.ne_none hmem))
    obtain ⟨h', he, hr', hkept⟩ := exists_loopSafe_next (s := s ++ [x]) p₁ p₂ hr (by simpa using ha)
      (fun y hy => hact y (List.mem_cons_of_mem x hy)) hpos hn (Nat.lt_of_succ_lt hfuel)
    refine ⟨h', ?_, hr', by simpa using hkept⟩
    simp [listForEachEntrySafeContinue, loopSafeAfter, loopSafeFrom, hfirst, hn, he]

omit [DecidableEq α] hr in
theorem safe_loops_from_entry_sorting :
    (∃ h', listForEachEntrySafeFrom (fun x => (sorting x).exec 5 6 x) 2 0 twoRings 4 =
        some ([2, 3], h') ∧
      Refines h' (visit sorting twoLists [2, 3]) ∧
        visit sorting twoLists [2, 3] 0 = some [1, 2]) ∧
    ∃ h', listForEachEntrySafeContinue (fun x => (sorting x).exec 5 6 x) 2 0 twoRings 4 =
        some ([3], h') ∧
      Refines h' (visit sorting twoLists [3]) ∧ visit sorting twoLists [3] 0 = some [1, 2] :=
  safe_loops_from_entry (s := [1]) 5 6 refines_twoRings rfl (fun x _ => legal_sorting x)
    (by decide)

end Results

/-! ## The loops that do not save it -/

section Plain

variable {h : LinkHeap α} {a : α} {p₁ p₂ : α}

/-- An entry that was deleted holds the two poisons. -/
theorem pointers_listDel {e : α} {h' : LinkHeap α} (he : listDel p₁ p₂ e h = some h') :
    h'.next? e = some p₁ ∧ h'.prev? e = some p₂ := by
  simp only [listDel, Option.bind_eq_bind, Option.bind_eq_some_iff] at he
  obtain ⟨prev, -, next, -, h₁, -, h₂, hnext, hprev⟩ := he
  obtain ⟨l₁, hl₁, rfl⟩ := Option.map_eq_some_iff.mp hnext
  obtain ⟨l₂, hl₂, rfl⟩ := Option.map_eq_some_iff.mp hprev
  obtain rfl : (⟨p₁, l₁.prev⟩ : Link α) = l₂ := by simpa using hl₂
  simp [next?, prev?]

/-- An entry that was deleted and initialised points to itself. -/
theorem pointers_listDelInit {e : α} {h' : LinkHeap α} (he : listDelInit e h = some h') :
    h'.next? e = some e ∧ h'.prev? e = some e := by
  simp only [listDelInit, initListHead, Option.bind_eq_bind, Option.bind_eq_some_iff] at he
  obtain ⟨h₁, -, h₂, hnext, hprev⟩ := he
  obtain ⟨l₁, hl₁, rfl⟩ := Option.map_eq_some_iff.mp hnext
  obtain ⟨l₂, hl₂, rfl⟩ := Option.map_eq_some_iff.mp hprev
  obtain rfl : (⟨e, l₁.prev⟩ : Link α) = l₂ := by simpa using hl₂
  simp [next?, prev?]

/-- Where there is no cell, nothing can be deleted. -/
theorem listDel_eq_none {e : α} (he : h e = none) : listDel p₁ p₂ e h = none := by
  simp [listDel, prev?, he]

/-- Once it was, doing it again changes nothing. -/
theorem listDelInit_self {e : α} (he : h e = some ⟨e, e⟩) : listDelInit e h = some h := by
  simp [listDelInit, unlinkEntry, rawListDel, initListHead, setNext, setPrev, prev?, next?, he]

/-- The first turn of the loop leads from the first entry to `q`, where there is no cell for
the body to work on. -/
def FollowsPoison (follow : LinkHeap α → α → Option α)
    (body : α → LinkHeap α → Option (LinkHeap α)) (a q : α) (h : LinkHeap α) : Prop :=
  ∃ x h', follow h a = some x ∧ turn follow body x h = some (q, h') ∧ q ≠ a ∧ h' q = none

/-- The loop is at the first entry, which is not the head, after any number of turns. -/
def StaysAtFirst (follow : LinkHeap α → α → Option α)
    (body : α → LinkHeap α → Option (LinkHeap α)) (a : α) (h : LinkHeap α) : Prop :=
  ∃ x, follow h a = some x ∧ x ≠ a ∧ ∀ n, ∃ h', turns follow body n x h = some (x, h')

/-- A body that deletes and initialises. -/
theorem staysAtFirst_listDelInit {follow : LinkHeap α → α → Option α} {x : α} {h' : LinkHeap α}
    (hx : follow h a = some x) (hxa : x ≠ a) (he : listDelInit x h = some h')
    (hfollow : follow h' x = some x) : StaysAtFirst follow listDelInit a h := by
  have hself : h' x = some ⟨x, x⟩ := by
    obtain ⟨hnext, hprev⟩ := pointers_listDelInit he
    obtain ⟨l, hl, hlnext⟩ := Option.map_eq_some_iff.mp hnext
    have hlprev : l.prev = x := by simpa [prev?, hl] using hprev
    rw [hl, ← hlnext]
    cases l
    simp_all
  have hturn : turn follow listDelInit x h' = some (x, h') :=
    turn_eq_some_iff.mpr ⟨listDelInit_self hself, hfollow⟩
  refine ⟨x, hx, hxa, fun n => ?_⟩
  cases n with
  | zero => exact ⟨h, rfl⟩
  | succ n =>
      refine ⟨h', ?_⟩
      rw [turns, turn_eq_some_iff.mpr ⟨he, hfollow⟩, Option.bind_some, turns_of_turn_eq hturn]

/-- A loop whose body deletes: it comes to a poison, where there is no entry. -/
theorem loopAfter_listDel {follow : LinkHeap α → α → Option α} {x q : α} {h' : LinkHeap α}
    (hx : follow h a = some x) (hxa : x ≠ a) (hqa : q ≠ a)
    (hdel : listDel p₁ p₂ x h = some h') (hfollow : follow h' x = some q) (hq : h' q = none)
    (fuel : ℕ) : loopAfter (listDel p₁ p₂) follow a a h fuel = none := by
  rw [loopAfter, hx, Option.bind_some]
  refine loop_eq_none (J := fun pos h' => pos = x ∧ h' = h ∨ pos = q ∧ h' q = none) ?_ ?_
    (.inl ⟨rfl, rfl⟩) fuel
  · rintro pos h' (⟨rfl, -⟩ | ⟨rfl, -⟩)
    · exact hxa
    · exact hqa
  · rintro pos h₁ h₂ (⟨rfl, rfl⟩ | ⟨rfl, hnone⟩) he next hnext
    · obtain rfl : h' = h₂ := Option.some.inj (hdel.symm.trans he)
      obtain rfl : q = next := Option.some.inj (hfollow.symm.trans hnext)
      exact .inr ⟨rfl, hq⟩
    · rw [listDel_eq_none hnone] at he
      cases he

/-- A loop whose body deletes and initialises: it stays at the first entry. -/
theorem loopAfter_listDelInit {follow : LinkHeap α → α → Option α} {x : α}
    (hx : follow h a = some x) (hxa : x ≠ a)
    (hfollow : ∀ h h' : LinkHeap α, listDelInit x h = some h' → follow h' x = some x)
    (fuel : ℕ) : loopAfter listDelInit follow a a h fuel = none := by
  rw [loopAfter, hx, Option.bind_some]
  refine loop_eq_none (J := fun pos _ => pos = x) ?_ ?_ rfl fuel
  · rintro pos h' rfl
    exact hxa
  · rintro pos h₁ h' rfl he next hnext
    rw [hfollow h₁ h' he] at hnext
    exact (Option.some.inj hnext).symm

/-- **The plain loops and removal.**  On a list that is not empty, `list_for_each` in either
direction with a body that deletes the current entry never gets to its end.  If the entry is
poisoned, the loop follows the poison after its first turn; if it is initialised, the loop
stays at this entry. -/
theorem plain_loop_del_never_ends {F : ListFamily α} {l : List α} (hr : Refines h F)
    (ha : F a = some l) (hl : l ≠ []) (hp₁ : h p₁ = none) (hp₂ : h p₂ = none) (fuel : ℕ) :
    (FollowsPoison next? (listDel p₁ p₂) a p₁ h ∧
      listForEachEntry (listDel p₁ p₂) a h fuel = none) ∧
    (StaysAtFirst next? listDelInit a h ∧ listForEachEntry listDelInit a h fuel = none) ∧
    (FollowsPoison prev? (listDel p₁ p₂) a p₂ h ∧
      listForEachEntryReverse (listDel p₁ p₂) a h fuel = none) ∧
    (StaysAtFirst prev? listDelInit a h ∧
      listForEachEntryReverse listDelInit a h fuel = none) := by
  obtain ⟨x, y, hx, hy, hxmem, hymem⟩ := exists_ends hl
  obtain ⟨hnext, hprev, -⟩ := (hr.ring a l ha).neighbours hx hy
  have hcell := (hr.ring a l ha).ne_none List.mem_cons_self
  have hhead : ∀ z ∈ l, z ≠ a := by
    rintro z hz rfl
    exact (List.nodup_cons.mp (hr.separate.nodup z l ha)).1 hz
  have hpoison : ∀ {q : α}, h q = none → q ≠ a := by
    rintro q hq rfl
    exact hcell hq
  have hdel : ∀ z ∈ l, ∃ h', listDel p₁ p₂ z h = some h' ∧ ∀ q, h q = none → h' q = none := by
    intro z hz
    have hlegal : ListCall.Legal h F (.del z) := ⟨a, l, ha, hz⟩
    obtain ⟨h', he, hstep⟩ := exists_listStep p₁ p₂ hr hlegal
    refine ⟨h', he, fun q hq => ?_⟩
    by_contra hne
    exact (hstep.cells q).mp hne hq
  have hinit : ∀ z ∈ l, ∃ h', listDelInit z h = some h' := by
    intro z hz
    have hlegal : ListCall.Legal h F (.delInit z) := ⟨a, l, ha, hz⟩
    obtain ⟨h', he, -⟩ := exists_listStep p₁ p₂ hr hlegal
    exact ⟨h', he⟩
  obtain ⟨hx₁, hdelx, hkeptx⟩ := hdel x hxmem
  obtain ⟨hy₁, hdely, hkepty⟩ := hdel y hymem
  obtain ⟨hx₂, hinitx⟩ := hinit x hxmem
  obtain ⟨hy₂, hinity⟩ := hinit y hymem
  refine ⟨⟨?_, ?_⟩, ⟨?_, ?_⟩, ⟨?_, ?_⟩, ⟨?_, ?_⟩⟩
  · exact ⟨x, hx₁, hnext, turn_eq_some_iff.mpr ⟨hdelx, (pointers_listDel hdelx).1⟩,
      hpoison hp₁, hkeptx p₁ hp₁⟩
  · exact loopAfter_listDel hnext (hhead x hxmem) (hpoison hp₁) hdelx
      (pointers_listDel hdelx).1 (hkeptx p₁ hp₁) fuel
  · exact staysAtFirst_listDelInit hnext (hhead x hxmem) hinitx (pointers_listDelInit hinitx).1
  · exact loopAfter_listDelInit hnext (hhead x hxmem)
      (fun _ _ he => (pointers_listDelInit he).1) fuel
  · exact ⟨y, hy₁, hprev, turn_eq_some_iff.mpr ⟨hdely, (pointers_listDel hdely).2⟩,
      hpoison hp₂, hkepty p₂ hp₂⟩
  · exact loopAfter_listDel hprev (hhead y hymem) (hpoison hp₂) hdely
      (pointers_listDel hdely).2 (hkepty p₂ hp₂) fuel
  · exact staysAtFirst_listDelInit hprev (hhead y hymem) hinity (pointers_listDelInit hinity).2
  · exact loopAfter_listDelInit hprev (hhead y hymem)
      (fun _ _ he => (pointers_listDelInit he).2) fuel

theorem plain_loop_del_never_ends_three :
    (FollowsPoison next? (listDel 5 6) 0 5 twoRings ∧
      listForEachEntry (listDel 5 6) 0 twoRings 100 = none) ∧
    (StaysAtFirst next? listDelInit 0 twoRings ∧
      listForEachEntry listDelInit 0 twoRings 100 = none) ∧
    (FollowsPoison prev? (listDel 5 6) 0 6 twoRings ∧
      listForEachEntryReverse (listDel 5 6) 0 twoRings 100 = none) ∧
    (StaysAtFirst prev? listDelInit 0 twoRings ∧
      listForEachEntryReverse listDelInit 0 twoRings 100 = none) :=
  plain_loop_del_never_ends refines_twoRings rfl (List.cons_ne_nil 1 [2, 3]) rfl rfl 100

end Plain

/-! ## Moving all entries -/

section Drain

variable {h : LinkHeap α} {F : ListFamily α} {a b : α} {l m : List α}

omit [DecidableEq α] in
/-- A body that moves every entry to one other list. -/
theorem legal_moving {c : EntryCall α} (hc : c = .move b ∨ c = .moveTail b) (hab : a ≠ b)
    (hb : F b = some m) : c.Legal F a := by
  intro k hk
  obtain rfl : b = k := by
    rcases hc with rfl | rfl <;> rcases hk with hk | hk <;> cases hk <;> rfl
  exact ⟨hab.symm, by simp [hb]⟩

/-- Moving the entries of a list one by one: `put` is where an entry goes. -/
theorem visit_moving {c : EntryCall α} (put : α → List α → List α)
    (hc : c = .move b ∨ c = .moveTail b)
    (hput : ∀ F x, c.apply F x = Function.update (F.erase x) b ((F.erase x b).map (put x)))
    (hr : Refines h F) (hab : a ≠ b) (ha : F a = some l) (hb : F b = some m) :
    visit (fun _ => c) F l = Function.update (Function.update F a (some [])) b
      (some (l.foldl (fun m x => put x m) m)) := by
  induction l generalizing h F m with
  | nil =>
      rw [List.foldl_nil, ← hb, Function.update_comm hab, Function.update_eq_self, ← ha,
        Function.update_eq_self]
      rfl
  | cons x l ih =>
      have herase : F.erase x = Function.update F a (some l) := by
        rw [hr.separate.erase_eq_update ha List.mem_cons_self, List.erase_cons_head]
      have hF : c.apply F x =
          Function.update (Function.update F a (some l)) b (some (put x m)) := by
        rw [hput, herase, Function.update_of_ne hab.symm, hb]
        rfl
      obtain ⟨h₁, -, hr₁, -, -⟩ :=
        EntryCall.exists_step a a hr (s := []) (t := l) ha (legal_moving hc hab hb)
      have hrest := ih hr₁ (m := put x m) (by simp [hF, hab]) (by simp [hF])
      rw [visit, List.foldl_cons]
      change visit (fun _ => c) (c.apply F x) l = _
      rw [hrest, hF, List.foldl_cons, Function.update_comm hab, Function.update_idem,
        Function.update_comm hab, Function.update_idem, Function.update_comm hab]

omit [DecidableEq α] in
theorem foldl_append_singleton (l m : List α) :
    l.foldl (fun m x => m ++ [x]) m = m ++ l := by
  induction l generalizing m with
  | nil => simp
  | cons x l ih => simp [ih]

omit [DecidableEq α] in
theorem foldl_cons (l m : List α) : l.foldl (fun m x => x :: m) m = l.reverse ++ m := by
  induction l generalizing m with
  | nil => rfl
  | cons x l ih => simp [ih]

/-- **Draining a list.**  A safe loop that moves every entry to the end of another list does
what `list_splice_tail_init` does at once; one that moves every entry to the front puts
them there in reverse order. -/
theorem drain_eq_splice (hr : Refines h F) (hab : a ≠ b) (ha : F a = some l) (hb : F b = some m)
    {fuel : ℕ} (hfuel : l.length < fuel) :
    (∃ h' h'', listForEachSafe (fun x => listMoveTail x b) a h fuel = some (l, h') ∧
      listSpliceTailInit a b h = some h'' ∧
      Refines h' (Function.update (Function.update F a (some [])) b (some (m ++ l))) ∧
      Refines h'' (Function.update (Function.update F a (some [])) b (some (m ++ l)))) ∧
    ∃ h', listForEachSafe (fun x => listMove x b) a h fuel = some (l, h') ∧
      Refines h' (Function.update (Function.update F a (some [])) b
        (some (l.reverse ++ m))) := by
  have hlegal : ∀ c : EntryCall α, c = .move b ∨ c = .moveTail b → ∀ x ∈ l, c.Legal F a :=
    fun c hc _ _ => legal_moving hc hab hb
  constructor
  · obtain ⟨h', he, hr', -⟩ := exists_listForEachSafe a a hr ha (hlegal _ (.inr rfl)) hfuel
    obtain ⟨h'', he'', hstep⟩ :=
      hr.exists_listSpliceTailInit hab ha hb (List.mem_cons_self (l := [b])) (by simp)
    rw [visit_moving (fun x m => m ++ [x]) (.inr rfl) (fun _ _ => rfl) hr hab ha hb,
      foldl_append_singleton] at hr'
    exact ⟨h', h'', he, he'', hr', hstep.refines⟩
  · obtain ⟨h', he, hr', -⟩ := exists_listForEachSafe a a hr ha (hlegal _ (.inl rfl)) hfuel
    rw [visit_moving (fun x m => x :: m) (.inl rfl) (fun _ _ => rfl) hr hab ha hb,
      foldl_cons] at hr'
    exact ⟨h', he, hr'⟩

theorem drain_eq_splice_three :
    (∃ h' h'', listForEachSafe (fun x => listMoveTail x 4) 0 twoRings 4 = some ([1, 2, 3], h') ∧
      listSpliceTailInit 0 4 twoRings = some h'' ∧
      Refines h' (Function.update (Function.update twoLists 0 (some [])) 4 (some [1, 2, 3])) ∧
      Refines h'' (Function.update (Function.update twoLists 0 (some [])) 4
        (some [1, 2, 3]))) ∧
    ∃ h', listForEachSafe (fun x => listMove x 4) 0 twoRings 4 = some ([1, 2, 3], h') ∧
      Refines h' (Function.update (Function.update twoLists 0 (some [])) 4
        (some [3, 2, 1])) :=
  drain_eq_splice (l := [1, 2, 3]) (m := []) refines_twoRings (Nat.zero_ne_add_one 3) rfl rfl
    (Nat.lt_succ_self 3)

end Drain

end GuitarTea
