import Mathlib.Data.Int.Notation
import Mathlib.Data.List.Basic
import Mathlib.Logic.Function.Basic

/-!
# Descriptors and epoll sets

The part of an operating system that an event loop talks to.  A descriptor is a
number that names an open file for a while; once it is closed the number may be
given out again, so a file is identified by a counter that never repeats.  An
epoll set maps descriptors to the events a program asked for and to the word it
wants to get back.

Failures that depend on the state are those of the interface: adding a descriptor
that is present, modifying or deleting one that is absent.  Any other failure is
chosen by the caller of the model through the argument `fail`, and changes
nothing.

Three histories are kept for the statements of a development: the `epoll_ctl`
calls made, the files that `accept` returned, and how often each file was closed.

## Main definitions

* `EpollEvent δ`, `EpollOp`, `Kernel δ` — events, requests and the state.
* `Kernel.epollCtl`, `Kernel.openFile`, `Kernel.accept`, `Kernel.close` — the calls.
* `Kernel.WF` — the invariant every call keeps.
-/

/-- `struct epoll_event`: a mask of events and a word of the program. -/
structure EpollEvent (δ : Type) where
  events : BitVec 32
  data : δ
  deriving DecidableEq, Repr

/-- The requests of `epoll_ctl`. -/
inductive EpollOp
  | add
  | mod
  | del
  deriving DecidableEq, Repr

/-- A call of `epoll_ctl`, with the error it reported. -/
structure CtlCall (δ : Type) where
  epfd : ℤ
  op : EpollOp
  fd : ℤ
  event : EpollEvent δ
  err : Option ℤ
  deriving DecidableEq, Repr

/-- Open descriptors, epoll sets and histories. -/
structure Kernel (δ : Type) where
  /-- The file a descriptor names. -/
  files : ℤ → Option ℕ
  /-- The next file that will be opened. -/
  nextFile : ℕ
  /-- The epoll set of an epoll descriptor. -/
  sets : ℤ → ℤ → Option (EpollEvent δ)
  /-- How often a file was closed. -/
  closes : ℕ → ℕ
  /-- What `accept` returned, with the file the descriptor named. -/
  accepted : List (ℤ × ℕ)
  /-- The `epoll_ctl` calls so far. -/
  ctls : List (CtlCall δ)

namespace Kernel

variable {δ : Type}

/-- Why the state of an epoll set refuses a request: the descriptor is already
there (`EEXIST`) or is not (`ENOENT`). -/
def refusal (op : EpollOp) (held : Option (EpollEvent δ)) : Option ℤ :=
  match op, held with
  | .add, some _ => some 17
  | .mod, none => some 2
  | .del, none => some 2
  | _, _ => none

/-- Replace what an epoll set holds for a descriptor. -/
def register (k : Kernel δ) (epfd fd : ℤ) (event : Option (EpollEvent δ)) : Kernel δ :=
  { k with sets := Function.update k.sets epfd (Function.update (k.sets epfd) fd event) }

/-- Add a call to the history. -/
def recordCtl (k : Kernel δ) (c : CtlCall δ) : Kernel δ := { k with ctls := k.ctls ++ [c] }

/-- `epoll_ctl`.  The result is the error it reports, `none` on success. -/
def epollCtl (k : Kernel δ) (fail : Option ℤ) (epfd : ℤ) (op : EpollOp) (fd : ℤ)
    (event : EpollEvent δ) : Option ℤ × Kernel δ :=
  match fail.or (refusal op (k.sets epfd fd)) with
  | some errnum => (some errnum, k.recordCtl ⟨epfd, op, fd, event, some errnum⟩)
  | none =>
      let held := match op with
        | .del => none
        | _ => some event
      (none, (k.register epfd fd held).recordCtl ⟨epfd, op, fd, event, none⟩)

/-- Open a new file under a descriptor. -/
def openFile (k : Kernel δ) (fd : ℤ) : Kernel δ :=
  { k with files := Function.update k.files fd (some k.nextFile), nextFile := k.nextFile + 1 }

/-- A successful `accept` that returns `fd`. -/
def accept (k : Kernel δ) (fd : ℤ) : Kernel δ :=
  { k.openFile fd with accepted := k.accepted ++ [(fd, k.nextFile)] }

/-- `close`.  Closing the last descriptor of a file removes it from every epoll
set; closing a number that names no file does nothing. -/
def close (k : Kernel δ) (fd : ℤ) : Kernel δ :=
  match k.files fd with
  | none => k
  | some file =>
      { k with
        files := Function.update k.files fd none
        sets := fun epfd => if epfd = fd then fun _ => none
          else Function.update (k.sets epfd) fd none
        closes := Function.update k.closes file (k.closes file + 1) }

/-! ## What the calls change -/

section Frame

variable (k : Kernel δ) (fail : Option ℤ) (epfd fd : ℤ) (op : EpollOp) (event : EpollEvent δ)

@[simp] theorem files_epollCtl : (k.epollCtl fail epfd op fd event).2.files = k.files := by
  unfold epollCtl
  split <;> rfl

@[simp] theorem nextFile_epollCtl :
    (k.epollCtl fail epfd op fd event).2.nextFile = k.nextFile := by
  unfold epollCtl
  split <;> rfl

@[simp] theorem closes_epollCtl : (k.epollCtl fail epfd op fd event).2.closes = k.closes := by
  unfold epollCtl
  split <;> rfl

@[simp] theorem accepted_epollCtl :
    (k.epollCtl fail epfd op fd event).2.accepted = k.accepted := by
  unfold epollCtl
  split <;> rfl

/-- The error reported: the one at will first, then that of the set. -/
theorem fst_epollCtl :
    (k.epollCtl fail epfd op fd event).1 = fail.or (refusal op (k.sets epfd fd)) := by
  unfold epollCtl
  split
  · rename_i errnum herr
    exact herr.symm
  · rename_i hnone
    exact hnone.symm

/-- Exactly one call is added to the history, with the error reported. -/
theorem ctls_epollCtl : (k.epollCtl fail epfd op fd event).2.ctls =
    k.ctls ++ [⟨epfd, op, fd, event, (k.epollCtl fail epfd op fd event).1⟩] := by
  unfold epollCtl
  split <;> rfl

/-- Only the entry of the descriptor in the named set can change. -/
theorem sets_epollCtl_of_ne {epfd' fd' : ℤ} (hne : fd' ≠ fd) :
    (k.epollCtl fail epfd op fd event).2.sets epfd' fd' = k.sets epfd' fd' := by
  unfold epollCtl
  split
  · rfl
  · by_cases he : epfd' = epfd
    · subst he
      simp [register, recordCtl, hne]
    · simp [register, recordCtl, he]

variable {k fail epfd fd op event}

/-- A call that fails leaves the sets as they were. -/
theorem sets_epollCtl_of_err {errnum : ℤ}
    (h : (k.epollCtl fail epfd op fd event).1 = some errnum) :
    (k.epollCtl fail epfd op fd event).2.sets = k.sets := by
  unfold epollCtl at h ⊢
  split <;> simp_all [recordCtl]

/-- A registration that succeeds is in the set afterwards. -/
theorem sets_epollCtl_of_ok (hop : op ≠ .del)
    (h : (k.epollCtl fail epfd op fd event).1 = none) :
    (k.epollCtl fail epfd op fd event).2.sets epfd fd = some event := by
  unfold epollCtl at h ⊢
  split at h
  · cases h
  · rename_i hf
    cases op <;> simp_all [register, recordCtl]

/-- What the sets hold for the descriptor afterwards is what they held before, or the
event of the call, in the set it names. -/
theorem sets_epollCtl_eq_some {epfd' : ℤ} {e : EpollEvent δ}
    (h : (k.epollCtl fail epfd op fd event).2.sets epfd' fd = some e) :
    k.sets epfd' fd = some e ∨ (epfd' = epfd ∧ e = event) := by
  unfold epollCtl at h
  split at h
  · exact .inl h
  · by_cases hep : epfd' = epfd
    · subst hep
      right
      cases op <;> simp_all [register, recordCtl]
    · left
      simpa [register, recordCtl, hep] using h

/-- Only the named set can change. -/
theorem sets_epollCtl_of_epfd_ne {epfd' : ℤ} (hne : epfd' ≠ epfd) :
    (k.epollCtl fail epfd op fd event).2.sets epfd' = k.sets epfd' := by
  unfold epollCtl
  split
  · rfl
  · simp [register, recordCtl, hne]

/-- The call reads and writes nothing but one entry of one set. -/
theorem epollCtl_congr {k' : Kernel δ} (h : k'.sets epfd fd = k.sets epfd fd) :
    (k'.epollCtl fail epfd op fd event).1 = (k.epollCtl fail epfd op fd event).1 ∧
      (k'.epollCtl fail epfd op fd event).2.sets epfd fd =
        (k.epollCtl fail epfd op fd event).2.sets epfd fd := by
  unfold epollCtl
  rw [h]
  split <;> simp [register, recordCtl, h]

/-- Without another failure, adding an absent descriptor succeeds. -/
theorem epollCtl_add_of_absent (habsent : k.sets epfd fd = none) :
    (k.epollCtl none epfd .add fd event).1 = none := by
  simp [epollCtl, refusal, habsent]

/-- Without another failure, adding a present descriptor is refused. -/
theorem epollCtl_add_of_present (hheld : k.sets epfd fd ≠ none) :
    (k.epollCtl none epfd .add fd event).1 = some 17 := by
  obtain ⟨held, hheld⟩ := Option.ne_none_iff_exists'.mp hheld
  simp [epollCtl, refusal, hheld]

/-- Without another failure, modifying a present descriptor succeeds. -/
theorem epollCtl_mod_of_present {held : EpollEvent δ} (hheld : k.sets epfd fd = some held) :
    (k.epollCtl none epfd .mod fd event).1 = none := by
  simp [epollCtl, refusal, hheld]

end Frame

section Close

variable {k : Kernel δ} {fd : ℤ}

@[simp] theorem nextFile_close : (k.close fd).nextFile = k.nextFile := by
  unfold close
  split <;> rfl

@[simp] theorem accepted_close : (k.close fd).accepted = k.accepted := by
  unfold close
  split <;> rfl

@[simp] theorem files_close : (k.close fd).files = Function.update k.files fd none := by
  unfold close
  split
  · rename_i h
    rw [← h, Function.update_eq_self]
  · rfl

/-- The file of the descriptor is closed once more, and no other file. -/
theorem closes_close {file : ℕ} (h : k.files fd = some file) :
    (k.close fd).closes = Function.update k.closes file (k.closes file + 1) := by
  simp [close, h]

/-- The other descriptors stay in the sets of the other epoll descriptors. -/
theorem sets_close_of_ne {epfd fd' : ℤ} (hep : epfd ≠ fd) (hfd : fd' ≠ fd) :
    (k.close fd).sets epfd fd' = k.sets epfd fd' := by
  unfold close
  split
  · rfl
  · simp [hep, hfd]

/-- What the sets hold after a `close` they held before, for another descriptor. -/
theorem sets_close_eq_some {epfd fd' : ℤ} {e : EpollEvent δ} (hopen : k.files fd ≠ none)
    (h : (k.close fd).sets epfd fd' = some e) : fd' ≠ fd ∧ k.sets epfd fd' = some e := by
  obtain ⟨file, hfile⟩ := Option.ne_none_iff_exists'.mp hopen
  simp only [close, hfile] at h
  by_cases hep : epfd = fd
  · simp [hep] at h
  · by_cases hfd : fd' = fd
    · simp [hep, hfd] at h
    · exact ⟨hfd, by simpa [hep, hfd] using h⟩

/-- What the sets hold after an open descriptor was closed. -/
theorem sets_close (hopen : k.files fd ≠ none) (epfd fd' : ℤ) :
    (k.close fd).sets epfd fd' = if epfd = fd ∨ fd' = fd then none else k.sets epfd fd' := by
  obtain ⟨file, hfile⟩ := Option.ne_none_iff_exists'.mp hopen
  by_cases hep : epfd = fd
  · simp [close, hfile, hep]
  · by_cases hfd : fd' = fd <;> simp [close, hfile, hep, hfd]

end Close

section Accept

variable (k : Kernel δ) (fd : ℤ)

@[simp] theorem files_accept :
    (k.accept fd).files = Function.update k.files fd (some k.nextFile) := rfl

@[simp] theorem nextFile_accept : (k.accept fd).nextFile = k.nextFile + 1 := rfl

@[simp] theorem closes_accept : (k.accept fd).closes = k.closes := rfl

@[simp] theorem accepted_accept :
    (k.accept fd).accepted = k.accepted ++ [(fd, k.nextFile)] := rfl

end Accept

/-! ## The invariant -/

/-- Files are numbered below the counter and named by one descriptor each, a file
that is open or not yet opened was never closed, and epoll sets hold only open
descriptors. -/
structure WF (k : Kernel δ) : Prop where
  files_lt : ∀ fd file, k.files fd = some file → file < k.nextFile
  files_inj : ∀ fd fd' file, k.files fd = some file → k.files fd' = some file → fd = fd'
  closes_open : ∀ fd file, k.files fd = some file → k.closes file = 0
  closes_fresh : ∀ file, k.nextFile ≤ file → k.closes file = 0
  sets_open : ∀ epfd fd, k.sets epfd fd ≠ none → k.files fd ≠ none

/-- The invariant reads neither the histories of calls nor what is accepted. -/
theorem WF.congr {k k' : Kernel δ} (h : k.WF) (hfiles : k'.files = k.files)
    (hnext : k'.nextFile = k.nextFile) (hcloses : k'.closes = k.closes)
    (hsets : ∀ epfd fd, k'.sets epfd fd ≠ none → k.sets epfd fd ≠ none ∨ k.files fd ≠ none) :
    k'.WF := by
  refine ⟨?_, ?_, ?_, ?_, ?_⟩
  · rw [hfiles, hnext]; exact h.files_lt
  · rw [hfiles]; exact h.files_inj
  · rw [hfiles, hcloses]; exact h.closes_open
  · rw [hnext, hcloses]; exact h.closes_fresh
  · intro epfd fd hs
    rw [hfiles]
    rcases hsets epfd fd hs with hold | hopen
    · exact h.sets_open epfd fd hold
    · exact hopen

/-- Two states that differ, histories of calls apart, at most in what the epoll
sets hold for one descriptor. -/
structure SameBut (fd : ℤ) (k k' : Kernel δ) : Prop where
  files_eq : k'.files = k.files
  nextFile_eq : k'.nextFile = k.nextFile
  closes_eq : k'.closes = k.closes
  accepted_eq : k'.accepted = k.accepted
  sets_eq : ∀ epfd fd', fd' ≠ fd → k'.sets epfd fd' = k.sets epfd fd'

theorem SameBut.refl (fd : ℤ) (k : Kernel δ) : SameBut fd k k :=
  ⟨rfl, rfl, rfl, rfl, fun _ _ _ => rfl⟩

theorem SameBut.trans {fd : ℤ} {k₁ k₂ k₃ : Kernel δ} (h₁ : SameBut fd k₁ k₂)
    (h₂ : SameBut fd k₂ k₃) : SameBut fd k₁ k₃ where
  files_eq := h₂.files_eq.trans h₁.files_eq
  nextFile_eq := h₂.nextFile_eq.trans h₁.nextFile_eq
  closes_eq := h₂.closes_eq.trans h₁.closes_eq
  accepted_eq := h₂.accepted_eq.trans h₁.accepted_eq
  sets_eq := by
    intro epfd fd' hne
    rw [h₂.sets_eq epfd fd' hne, h₁.sets_eq epfd fd' hne]

/-- `epoll_ctl` touches one descriptor. -/
theorem sameBut_epollCtl (k : Kernel δ) (fail : Option ℤ) (epfd : ℤ) (op : EpollOp) (fd : ℤ)
    (event : EpollEvent δ) : SameBut fd k (k.epollCtl fail epfd op fd event).2 where
  files_eq := by simp
  nextFile_eq := by simp
  closes_eq := by simp
  accepted_eq := by simp
  sets_eq := fun _ _ hne => sets_epollCtl_of_ne _ _ _ _ _ _ hne

/-- Two states that differ at most in the history of calls. -/
structure Agrees (k k' : Kernel δ) : Prop where
  files_eq : k'.files = k.files
  nextFile_eq : k'.nextFile = k.nextFile
  closes_eq : k'.closes = k.closes
  accepted_eq : k'.accepted = k.accepted
  sets_eq : k'.sets = k.sets

/-- Closing a descriptor forgets what the sets held for it. -/
theorem SameBut.close {k k' : Kernel δ} {fd : ℤ} (h : SameBut fd k k') (hopen : k.files fd ≠ none) :
    Agrees (k.close fd) (k'.close fd) := by
  obtain ⟨file, hfile⟩ := Option.ne_none_iff_exists'.mp hopen
  have hfile' : k'.files fd = some file := by rw [h.files_eq, hfile]
  simp only [Kernel.close, hfile, hfile']
  refine ⟨by simp [h.files_eq], h.nextFile_eq, by simp [h.closes_eq], h.accepted_eq, ?_⟩
  funext epfd fd'
  by_cases hep : epfd = fd
  · simp [hep]
  · by_cases hfd : fd' = fd
    · simp [hep, hfd]
    · simp [hep, hfd, h.sets_eq epfd fd' hfd]

/-- Two states with the same descriptors, whatever their epoll sets hold. -/
structure SameFiles (k k' : Kernel δ) : Prop where
  files_eq : k'.files = k.files
  nextFile_eq : k'.nextFile = k.nextFile
  closes_eq : k'.closes = k.closes
  accepted_eq : k'.accepted = k.accepted

section SameFiles

variable {k k' k'' : Kernel δ}

theorem SameFiles.refl (k : Kernel δ) : SameFiles k k := ⟨rfl, rfl, rfl, rfl⟩

theorem SameFiles.trans (h : SameFiles k k') (h' : SameFiles k' k'') : SameFiles k k'' where
  files_eq := h'.files_eq.trans h.files_eq
  nextFile_eq := h'.nextFile_eq.trans h.nextFile_eq
  closes_eq := h'.closes_eq.trans h.closes_eq
  accepted_eq := h'.accepted_eq.trans h.accepted_eq

theorem SameFiles.symm (h : SameFiles k k') : SameFiles k' k :=
  ⟨h.files_eq.symm, h.nextFile_eq.symm, h.closes_eq.symm, h.accepted_eq.symm⟩

theorem Agrees.sameFiles (h : Agrees k k') : SameFiles k k' :=
  ⟨h.files_eq, h.nextFile_eq, h.closes_eq, h.accepted_eq⟩

theorem SameBut.sameFiles {fd : ℤ} (h : SameBut fd k k') : SameFiles k k' :=
  ⟨h.files_eq, h.nextFile_eq, h.closes_eq, h.accepted_eq⟩

theorem SameFiles.accept (h : SameFiles k k') (fd : ℤ) :
    SameFiles (k.accept fd) (k'.accept fd) where
  files_eq := by simp [h.files_eq, h.nextFile_eq]
  nextFile_eq := by simp [h.nextFile_eq]
  closes_eq := by simp [h.closes_eq]
  accepted_eq := by simp [h.accepted_eq, h.nextFile_eq]

theorem SameFiles.close (h : SameFiles k k') (fd : ℤ) : SameFiles (k.close fd) (k'.close fd) where
  files_eq := by simp [h.files_eq]
  nextFile_eq := by simp [h.nextFile_eq]
  closes_eq := by
    unfold Kernel.close
    rw [h.files_eq]
    split <;> simp [h.closes_eq]
  accepted_eq := by simp [h.accepted_eq]

/-- An `accept` and a `close` of different descriptors may change places. -/
theorem sameFiles_accept_close (k : Kernel δ) {fd cfd : ℤ} (hne : fd ≠ cfd) :
    SameFiles ((k.accept cfd).close fd) ((k.close fd).accept cfd) where
  files_eq := by simp [Function.update_comm hne]
  nextFile_eq := by simp
  closes_eq := by
    unfold Kernel.close
    simp only [files_accept, Function.update_of_ne hne]
    split <;> rfl
  accepted_eq := by simp

end SameFiles

theorem WF.agrees {k k' : Kernel δ} (h : k.WF) (ha : Agrees k k') : k'.WF := by
  refine h.congr ha.files_eq ha.nextFile_eq ha.closes_eq ?_
  intro epfd fd hs
  left
  rwa [ha.sets_eq] at hs

/-- A change of what the sets hold for an open descriptor keeps the invariant. -/
theorem WF.sameBut {k k' : Kernel δ} (h : k.WF) {fd : ℤ} (hs : SameBut fd k k')
    (hopen : k.files fd ≠ none) : k'.WF := by
  refine h.congr hs.files_eq hs.nextFile_eq hs.closes_eq ?_
  intro epfd fd' hne
  by_cases hfd : fd' = fd
  · right
    rwa [hfd]
  · left
    rwa [hs.sets_eq epfd fd' hfd] at hne

/-- Opening a file under a free number keeps the invariant. -/
theorem WF.openFile {k : Kernel δ} (h : k.WF) (fd : ℤ) (hfree : k.files fd = none) :
    (k.openFile fd).WF := by
  have hfiles : ∀ fd' file, (k.openFile fd).files fd' = some file →
      (fd' = fd ∧ file = k.nextFile) ∨ k.files fd' = some file := by
    intro fd' file hf
    by_cases hfd : fd' = fd
    · subst hfd
      left
      simpa [Kernel.openFile, eq_comm] using hf
    · right
      simpa [Kernel.openFile, hfd] using hf
  refine ⟨?_, ?_, ?_, ?_, ?_⟩
  · intro fd' file hf
    have hnext : (k.openFile fd).nextFile = k.nextFile + 1 := rfl
    rw [hnext]
    rcases hfiles fd' file hf with ⟨-, rfl⟩ | hold
    · omega
    · have := h.files_lt fd' file hold
      omega
  · intro fd₁ fd₂ file h₁ h₂
    rcases hfiles fd₁ file h₁ with ⟨rfl, rfl⟩ | hold₁ <;>
      rcases hfiles fd₂ _ h₂ with ⟨rfl, hfile⟩ | hold₂
    · rfl
    · exact absurd (h.files_lt fd₂ _ hold₂) (Nat.lt_irrefl _)
    · subst hfile
      exact absurd (h.files_lt fd₁ _ hold₁) (Nat.lt_irrefl _)
    · exact h.files_inj fd₁ fd₂ file hold₁ hold₂
  · intro fd' file hf
    rcases hfiles fd' file hf with ⟨-, rfl⟩ | hold
    · exact h.closes_fresh _ (Nat.le_refl _)
    · exact h.closes_open fd' file hold
  · intro file hle
    have hle' : k.nextFile + 1 ≤ file := hle
    exact h.closes_fresh file (by omega)
  · intro epfd fd' hs
    by_cases hfd : fd' = fd
    · simp [Kernel.openFile, hfd]
    · have := h.sets_open epfd fd' hs
      simpa [Kernel.openFile, hfd] using this

/-- `accept` under a free number keeps the invariant. -/
theorem WF.accept {k : Kernel δ} (h : k.WF) {fd : ℤ} (hfree : k.files fd = none) :
    (k.accept fd).WF :=
  (h.openFile fd hfree).congr rfl rfl rfl fun _ _ hs => .inl hs

/-- `close` keeps the invariant. -/
theorem WF.close {k : Kernel δ} (h : k.WF) (fd : ℤ) : (k.close fd).WF := by
  cases hfd : k.files fd with
  | none =>
      have hsame : k.close fd = k := by simp [Kernel.close, hfd]
      rwa [hsame]
  | some file =>
      have hfiles : ∀ fd' file', (k.close fd).files fd' = some file' →
          fd' ≠ fd ∧ k.files fd' = some file' := by
        intro fd' file' hf
        by_cases heq : fd' = fd
        · simp [Kernel.close, hfd, heq] at hf
        · exact ⟨heq, by simpa [Kernel.close, hfd, heq] using hf⟩
      have hcloses : ∀ file', file' ≠ file → (k.close fd).closes file' = k.closes file' := by
        intro file' hne
        simp [Kernel.close, hfd, hne]
      have hnext : (k.close fd).nextFile = k.nextFile := by simp [Kernel.close, hfd]
      refine ⟨?_, ?_, ?_, ?_, ?_⟩
      · intro fd' file' hf
        rw [hnext]
        exact h.files_lt fd' file' (hfiles fd' file' hf).2
      · intro fd₁ fd₂ file' h₁ h₂
        exact h.files_inj fd₁ fd₂ file' (hfiles fd₁ file' h₁).2 (hfiles fd₂ file' h₂).2
      · intro fd' file' hf
        obtain ⟨hne, hold⟩ := hfiles fd' file' hf
        rw [hcloses]
        · exact h.closes_open fd' file' hold
        · rintro rfl
          exact hne (h.files_inj fd' fd file' hold hfd)
      · intro file' hle
        rw [hnext] at hle
        have hlt := h.files_lt fd file hfd
        rw [hcloses file' (by omega)]
        exact h.closes_fresh file' hle
      · intro epfd fd' hs
        by_cases heq : fd' = fd
        · subst heq
          by_cases hep : epfd = fd' <;> simp [Kernel.close, hfd, hep] at hs
        · have hold : k.sets epfd fd' ≠ none := by
            by_cases hep : epfd = fd
            · simp [Kernel.close, hfd, hep] at hs
            · simpa [Kernel.close, hfd, hep, heq] using hs
          simpa [Kernel.close, hfd, heq] using h.sets_open epfd fd' hold

end Kernel
