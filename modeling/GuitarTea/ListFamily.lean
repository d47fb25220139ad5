import GuitarTea.Lib.Ring
import Mathlib.Data.List.Perm.Basic

/-!
# Families of disjoint lists

What the operations of `gt_list.h` are for: a family of sequences of nodes, each of
which belongs to a head.  A node is the head of at most one list, or an element of
at most one, at one place, and never both.

An operation is given by what it does to the sequences: an element is put in front
or at the end, erased, moved or substituted, and a whole list is put in front of
another or behind it.

## Main definitions

* `ListFamily`, `ListFamily.Separate` — families, and their invariant.
* `ListCall`, `ListCall.apply` — the operations on a family.
* `ListCall.Legal` — when an operation may be called.
-/

namespace GuitarTea

/-- The sequence of each head; a node that is not a head has none. -/
abbrev ListFamily (α : Type) := α → Option (List α)

namespace ListFamily

variable {α : Type} (F : ListFamily α)

/-- The rings of nodes, each a head with its elements, have no node in common. -/
structure Separate : Prop where
  nodup : ∀ a l, F a = some l → (a :: l).Nodup
  disjoint : ∀ a b l m, F a = some l → F b = some m → a ≠ b → ∀ x ∈ a :: l, x ∉ b :: m

/-- The node is an element of a list. -/
def On (x : α) : Prop := ∃ a l, F a = some l ∧ x ∈ l

/-- The node is on no list: it is no element, and no head unless of an empty list. -/
structure Off (x : α) : Prop where
  not_on : ¬ F.On x
  own : ∀ l, F x = some l → l = []

/-- The node is in no ring. -/
def Loose (x : α) : Prop := ∀ b m, F b = some m → x ∉ b :: m

/-- The node is in no ring, unless that of one head. -/
def Outside (a x : α) : Prop := ∀ b m, F b = some m → b ≠ a → x ∉ b :: m

variable {F}

theorem Loose.outside {a x : α} (hx : F.Loose x) : F.Outside a x :=
  fun b m hb _ => hx b m hb

theorem Loose.not_on {x : α} (hx : F.Loose x) : ¬ F.On x := by
  intro ⟨b, m, hb, hmem⟩
  exact hx b m hb (List.mem_cons_of_mem b hmem)

theorem Separate.outside (hs : F.Separate) {a x : α} {l : List α} (ha : F a = some l)
    (hx : x ∈ a :: l) : F.Outside a x :=
  fun b m hb hne => hs.disjoint a b l m ha hb hne.symm x hx

/-- The ring of a node is the only one with it. -/
theorem Separate.eq_of_mem (hs : F.Separate) {a b x : α} {l m : List α} (ha : F a = some l)
    (hb : F b = some m) (hx : x ∈ a :: l) (hx' : x ∈ b :: m) : a = b := by
  by_contra hne
  exact hs.disjoint a b l m ha hb hne x hx hx'

/-- A node that is no element is in no ring but its own. -/
theorem outside_of_not_on {x : α} (hx : ¬ F.On x) : F.Outside x x := by
  intro b m hb hne
  rw [List.mem_cons, not_or]
  exact ⟨hne.symm, fun hmem => hx ⟨b, m, hb, hmem⟩⟩

/-- A node of a list is no head. -/
theorem Separate.eq_none_of_mem (hs : F.Separate) {a x : α} {l : List α} (ha : F a = some l)
    (hx : x ∈ l) : F x = none := by
  cases hF : F x with
  | none => rfl
  | some m =>
      have heq := hs.eq_of_mem ha hF (List.mem_cons_of_mem a hx) List.mem_cons_self
      exact absurd (heq ▸ hx) (List.nodup_cons.mp (hs.nodup a l ha)).1

/-- A family with fewer heads, or with fewer elements. -/
theorem Separate.mono {F' : ListFamily α} (hs : F.Separate)
    (h : ∀ a l', F' a = some l' → ∃ l, F a = some l ∧ l'.Sublist l) : F'.Separate where
  nodup a l' ha := by
    obtain ⟨l, hl, hsub⟩ := h a l' ha
    exact (hs.nodup a l hl).sublist (hsub.cons_cons a)
  disjoint a b l' m' ha hb hne x hx hx' := by
    obtain ⟨l, hl, hsub⟩ := h a l' ha
    obtain ⟨m, hm, hsub'⟩ := h b m' hb
    exact hs.disjoint a b l m hl hm hne x ((hsub.cons_cons a).subset hx)
      ((hsub'.cons_cons b).subset hx')

variable [DecidableEq α]

/-- A head gets a new sequence. -/
theorem Separate.update (hs : F.Separate) {a : α} {l : List α} (hnodup : (a :: l).Nodup)
    (hout : ∀ x ∈ a :: l, F.Outside a x) : Separate (Function.update F a (some l)) where
  nodup b m hb := by
    by_cases hba : b = a
    · subst hba
      obtain rfl : l = m := by simpa using hb
      exact hnodup
    · rw [Function.update_of_ne hba] at hb
      exact hs.nodup b m hb
  disjoint b c m k hb hc hne x hx hx' := by
    by_cases hba : b = a
    · subst hba
      obtain rfl : l = m := by simpa using hb
      rw [Function.update_of_ne (Ne.symm hne)] at hc
      exact hout x hx c k hc (Ne.symm hne) hx'
    · rw [Function.update_of_ne hba] at hb
      by_cases hca : c = a
      · subst hca
        obtain rfl : l = k := by simpa using hc
        exact hout x hx' b m hb hba hx
      · rw [Function.update_of_ne hca] at hc
        exact hs.disjoint b c m k hb hc hne x hx hx'

/-- A node is not a head any more. -/
theorem Separate.drop (hs : F.Separate) (x : α) : Separate (Function.update F x none) := by
  refine hs.mono fun a l' ha => ⟨l', ?_, List.Sublist.refl l'⟩
  by_cases hax : a = x
  · simp [hax] at ha
  · rwa [Function.update_of_ne hax] at ha

/-- Then its nodes are in no ring. -/
theorem loose_drop {a x : α} (hx : F.Outside a x) : Loose (Function.update F a none) x := by
  intro b m hb
  by_cases hba : b = a
  · simp [hba] at hb
  · rw [Function.update_of_ne hba] at hb
    exact hx b m hb hba

/-- Erase a node from whatever list it is on. -/
def erase (F : ListFamily α) (e : α) : ListFamily α := fun a => (F a).map (·.erase e)

theorem Separate.erase (hs : F.Separate) (e : α) : (F.erase e).Separate := by
  refine hs.mono fun a l' ha => ?_
  obtain ⟨l, hl, rfl⟩ := Option.map_eq_some_iff.mp ha
  exact ⟨l, hl, List.erase_sublist⟩

theorem exists_erase {a : α} (ha : F a ≠ none) (e : α) : ∃ l, F.erase e a = some l := by
  obtain ⟨m, hm⟩ := Option.ne_none_iff_exists'.mp ha
  exact ⟨m.erase e, by simp [ListFamily.erase, hm]⟩

/-- Erasing an element changes its own list. -/
theorem Separate.erase_eq_update (hs : F.Separate) {a e : α} {l : List α} (ha : F a = some l)
    (he : e ∈ l) : F.erase e = Function.update F a (some (l.erase e)) := by
  funext b
  by_cases hba : b = a
  · simp [ListFamily.erase, hba, ha]
  · rw [Function.update_of_ne hba, ListFamily.erase]
    cases hb : F b with
    | none => rfl
    | some m =>
        have hmem : e ∉ m := fun hmem =>
          hs.outside ha (List.mem_cons_of_mem a he) b m hb hba (List.mem_cons_of_mem b hmem)
        simp [List.erase_of_not_mem hmem]

/-- An element that was erased is in no ring. -/
theorem Separate.loose_erase (hs : F.Separate) {a e : α} {l : List α} (ha : F a = some l)
    (he : e ∈ l) : (F.erase e).Loose e := by
  intro b m hb hmem
  obtain ⟨k, hk, rfl⟩ := Option.map_eq_some_iff.mp hb
  have hnodup := List.nodup_cons.mp (hs.nodup b k hk)
  obtain rfl | hmem := List.mem_cons.mp hmem
  · rw [hs.eq_none_of_mem ha he] at hk
    cases hk
  · exact (hnodup.2.mem_erase_iff.mp hmem).1 rfl

/-- One node takes the place of another, as an element or as a head. -/
def substitute (F : ListFamily α) (old xnew : α) : ListFamily α :=
  match F old with
  | some l => Function.update (Function.update F old none) xnew (some l)
  | none => fun a => ((Function.update F xnew none) a).map
      (·.map fun x => if x = old then xnew else x)

/-- Substituting an element changes its own list. -/
theorem Separate.substitute_eq_update (hs : F.Separate) {a old xnew : α} {s t : List α}
    (ha : F a = some (s ++ old :: t)) (hne : xnew ≠ a) : F.substitute old xnew =
      Function.update (Function.update F xnew none) a (some (s ++ xnew :: t)) := by
  have hold : old ∈ s ++ old :: t := by simp
  have hmap : ∀ m : List α, old ∉ m → m.map (fun x => if x = old then xnew else x) = m := by
    intro m hm
    refine (List.map_congr_left ?_).trans (List.map_id m)
    intro x hx
    have hne : x ≠ old := fun heq => hm (heq ▸ hx)
    simp [hne]
  funext b
  simp only [substitute, hs.eq_none_of_mem ha hold]
  by_cases hba : b = a
  · obtain ⟨-, hnodup⟩ := List.nodup_cons.mp (hs.nodup a _ ha)
    obtain ⟨-, hcons, hdisj⟩ := List.nodup_append.mp hnodup
    have hs' : old ∉ s := fun hmem => hdisj old hmem old List.mem_cons_self rfl
    have ht' : old ∉ t := (List.nodup_cons.mp hcons).1
    simp [hba, hne.symm, ha, hmap s hs', hmap t ht']
  · rw [Function.update_of_ne hba]
    by_cases hbx : b = xnew
    · simp [hbx]
    · rw [Function.update_of_ne hbx]
      cases hb : F b with
      | none => rfl
      | some m =>
          have hmem : old ∉ m := fun hmem =>
            hs.outside ha (List.mem_cons_of_mem a hold) b m hb hba (List.mem_cons_of_mem b hmem)
          rw [Option.map_some, hmap m hmem]

end ListFamily

/-! ## Operations -/

/-- The operations of `gt_list.h` that change a list. -/
inductive ListCall (α : Type)
  | init (list : α)
  | add (xnew head : α)
  | addTail (xnew head : α)
  | del (entry : α)
  | delInit (entry : α)
  | move (list head : α)
  | moveTail (list head : α)
  | replace (old xnew : α)
  | replaceInit (old xnew : α)
  | spliceInit (list head : α)
  | spliceTailInit (list head : α)
  deriving DecidableEq, Repr

namespace ListCall

variable {α : Type}

/-- The nodes an operation is called with. -/
def names : ListCall α → List α
  | init list => [list]
  | add xnew head | addTail xnew head => [xnew, head]
  | del entry | delInit entry => [entry]
  | move list head | moveTail list head => [list, head]
  | replace old xnew | replaceInit old xnew => [old, xnew]
  | spliceInit list head | spliceTailInit list head => [list, head]

/-- When an operation may be called: a node that becomes a head is no element, a node
that is inserted is there and on no list, one that is deleted or moved is an
element, one that is replaced is an element or a head, and the lists that are
joined are different. -/
def Legal (h : LinkHeap α) (F : ListFamily α) : ListCall α → Prop
  | init list => h list ≠ none ∧ ¬ F.On list
  | add xnew head | addTail xnew head =>
      h xnew ≠ none ∧ F.Off xnew ∧ xnew ≠ head ∧ F head ≠ none
  | del entry | delInit entry => F.On entry
  | move list head | moveTail list head => F.On list ∧ F head ≠ none
  | replace old xnew | replaceInit old xnew =>
      h xnew ≠ none ∧ F.Off xnew ∧ xnew ≠ old ∧ (F.On old ∨ F old ≠ none)
  | spliceInit list head | spliceTailInit list head =>
      list ≠ head ∧ F list ≠ none ∧ F head ≠ none

variable [DecidableEq α]

/-- What an operation does to the sequences. -/
def apply (F : ListFamily α) : ListCall α → ListFamily α
  | init list => Function.update F list (some [])
  | add xnew head =>
      Function.update (Function.update F xnew none) head ((F head).map (xnew :: ·))
  | addTail xnew head =>
      Function.update (Function.update F xnew none) head ((F head).map (· ++ [xnew]))
  | del entry => F.erase entry
  | delInit entry => Function.update (F.erase entry) entry (some [])
  | move list head =>
      Function.update (F.erase list) head ((F.erase list head).map (list :: ·))
  | moveTail list head =>
      Function.update (F.erase list) head ((F.erase list head).map (· ++ [list]))
  | replace old xnew => F.substitute old xnew
  | replaceInit old xnew => Function.update (F.substitute old xnew) old (some [])
  | spliceInit list head =>
      Function.update (Function.update F list (some [])) head
        ((F list).bind fun l => (F head).map (l ++ ·))
  | spliceTailInit list head =>
      Function.update (Function.update F list (some [])) head
        ((F list).bind fun l => (F head).map (· ++ l))

end ListCall

end GuitarTea
