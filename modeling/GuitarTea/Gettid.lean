import GuitarTea.Lib.GuardedSystem

/-!
# The thread id that `gt_gettid` keeps

`gt_gettid` asks the kernel once for each thread and keeps the answer in two
thread-local variables, the thread id and the process id it belongs to.  A `fork`
copies both into a thread with another id, and the copy may pass through any number
of generations that never call the function.  A thread trusts the id it finds when
the process id beside it is its own.

The kernel has a list of threads here.  A thread belongs to a process, and a process
knows the processes it descends from, those included that have ended.

## Main definitions

* `Tls`, `gtGettid` — the cached ids, and the function.
* `Process`, `TaskStruct`, `TaskOp`, `taskSystem` — threads, and what they do.
* `Coherent` — what a thread may find in its variables.
-/

namespace GuitarTea

/-! ## The function -/

/-- `pid_t`. -/
abbrev PidT := BitVec 32

/-- The thread-local variables of `gt_gettid`; a new thread finds zeros. -/
structure Tls where
  cachedTid : PidT := 0
  cachedPid : PidT := 0
  deriving DecidableEq, Repr

/-- `gt_gettid`: the return value and the variables afterwards, where `getpid` returns
`getpid` and the system call `gettid` would return `gettid`. -/
def gtGettid (getpid gettid : PidT) (tls : Tls) : PidT × Tls :=
  let pid := getpid
  let tls :=
    if tls.cachedPid ≠ pid ∨ tls.cachedTid = 0 then
      let tls := { tls with cachedPid := pid }
      { tls with cachedTid := gettid }
    else tls
  (tls.cachedTid, tls)

section

variable {pid tid : PidT} {tls : Tls}

/-- Nothing is kept yet, or it is not of this process: the kernel is asked. -/
theorem gtGettid_of_stale (h : tls.cachedPid ≠ pid ∨ tls.cachedTid = 0) :
    gtGettid pid tid tls = (tid, ⟨tid, pid⟩) := by
  simp only [gtGettid, if_pos h]

/-- Otherwise what is kept is returned. -/
theorem gtGettid_of_kept (h : ¬ (tls.cachedPid ≠ pid ∨ tls.cachedTid = 0)) :
    gtGettid pid tid tls = (tls.cachedTid, tls) := by
  simp only [gtGettid, if_neg h]

end

/-! ## Threads and processes -/

/-- A process, with the process ids of its ancestors since the program began. -/
structure Process where
  pid : PidT
  ancestors : List PidT
  deriving DecidableEq, Repr

/-- A thread: its process, its id in the kernel, and its variables. -/
structure TaskStruct where
  process : Process
  tid : PidT
  tls : Tls
  deriving DecidableEq, Repr

/-- What a thread does; threads are named by their place in the list. -/
inductive TaskOp
  /-- `pthread_create`, with the id of the new thread. -/
  | create (t : ℕ) (tid : PidT)
  /-- `fork`, with the id of the child and of its only thread. -/
  | fork (t : ℕ) (pid tid : PidT)
  /-- A call of `gt_gettid`. -/
  | gettid (t : ℕ)
  deriving DecidableEq, Repr

/-- The thread that does it. -/
def TaskOp.thread : TaskOp → ℕ
  | .create t _ | .fork t _ _ | .gettid t => t

namespace TaskStruct

/-- A thread of the same process, whose variables are zero. -/
def create (task : TaskStruct) (tid : PidT) : TaskStruct := ⟨task.process, tid, {}⟩

/-- The thread of a child: a copy of the one that forks. -/
def fork (task : TaskStruct) (pid tid : PidT) : TaskStruct :=
  ⟨⟨pid, task.process.pid :: task.process.ancestors⟩, tid, task.tls⟩

/-- `gt_gettid`, called by this thread. -/
def gettid (task : TaskStruct) : PidT × Tls := gtGettid task.process.pid task.tid task.tls

end TaskStruct

/-- The kernel gives no process the process id of one of its ancestors; the ids are
otherwise arbitrary. -/
def TaskOp.Allowed (task : TaskStruct) : TaskOp → Prop
  | .fork _ pid _ => pid ∉ task.process.pid :: task.process.ancestors
  | _ => True

/-- The threads after a thread has done something. -/
def TaskOp.apply (tasks : List TaskStruct) (task : TaskStruct) : TaskOp → List TaskStruct
  | .create _ tid => tasks ++ [task.create tid]
  | .fork _ pid tid => tasks ++ [task.fork pid tid]
  | .gettid t => tasks.set t { task with tls := task.gettid.2 }

/-- All threads of all processes, in any order. -/
def taskSystem : GuardedSystem (List TaskStruct) TaskOp where
  legal tasks op := ∃ task, tasks[op.thread]? = some task ∧ op.Allowed task
  exec tasks op := (tasks[op.thread]?).map fun task => op.apply tasks task

/-- The program begins with one thread. -/
def firstTask (pid tid : PidT) : List TaskStruct := [⟨⟨pid, []⟩, tid, {}⟩]

/-! ## The invariant -/

/-- **What a thread may find in its variables**: nothing yet, its own ids, or the ids of
an ancestor. -/
structure Coherent (task : TaskStruct) : Prop where
  pid_notMem : task.process.pid ∉ task.process.ancestors
  cached : task.tls.cachedTid = 0 ∨
    (task.tls.cachedPid = task.process.pid ∧ task.tls.cachedTid = task.tid) ∨
    task.tls.cachedPid ∈ task.process.ancestors

namespace Coherent

variable {task : TaskStruct}

theorem create (h : Coherent task) (tid : PidT) : Coherent (task.create tid) where
  pid_notMem := h.pid_notMem
  cached := .inl rfl

/-- What was found in the process is found by the child as the ids of an ancestor. -/
theorem fork (h : Coherent task) {pid : PidT} (tid : PidT)
    (hpid : pid ∉ task.process.pid :: task.process.ancestors) :
    Coherent (task.fork pid tid) where
  pid_notMem := hpid
  cached := by
    rcases h.cached with hzero | ⟨hown, -⟩ | hmem
    · exact .inl hzero
    · exact .inr (.inr (hown ▸ List.mem_cons_self))
    · exact .inr (.inr (List.mem_cons_of_mem _ hmem))

/-- `gt_gettid` returns the id of the thread, and keeps it beside the id of the process. -/
theorem gettid_eq (h : Coherent task) :
    task.gettid = (task.tid, ⟨task.tid, task.process.pid⟩) := by
  by_cases hstale : task.tls.cachedPid ≠ task.process.pid ∨ task.tls.cachedTid = 0
  · exact gtGettid_of_stale hstale
  · obtain ⟨hpid, hzero⟩ := not_or.mp hstale
    have hpid : task.tls.cachedPid = task.process.pid := not_not.mp hpid
    rcases h.cached with h0 | ⟨-, htid⟩ | hmem
    · exact absurd h0 hzero
    · rw [← htid, ← hpid]
      exact gtGettid_of_kept hstale
    -- an ancestor's process id is never the caller's own
    · exact absurd (hpid ▸ hmem) h.pid_notMem

theorem gettid (h : Coherent task) : Coherent { task with tls := task.gettid.2 } where
  pid_notMem := h.pid_notMem
  cached := by simp [h.gettid_eq]

end Coherent

/-- Whatever a thread does, all threads stay coherent. -/
theorem forall_coherent_apply {tasks : List TaskStruct} {task : TaskStruct} {op : TaskOp}
    (h : ∀ task ∈ tasks, Coherent task) (hget : tasks[op.thread]? = some task)
    (hop : op.Allowed task) : ∀ task' ∈ op.apply tasks task, Coherent task' := by
  have htask := h task (List.mem_of_getElem? hget)
  cases op with
  | create t tid => simpa [TaskOp.apply, or_imp, forall_and] using ⟨h, htask.create tid⟩
  | fork t pid tid => simpa [TaskOp.apply, or_imp, forall_and] using ⟨h, htask.fork tid hop⟩
  | gettid t =>
      intro task' hmem
      rcases List.mem_or_eq_of_mem_set hmem with hmem | rfl
      · exact h task' hmem
      · exact htask.gettid

/-- **Every call returns the thread id of its caller**, in every run of threads that create
threads, fork and call `gt_gettid` in any order. -/
theorem gettid_returns_tid (pid tid : PidT) (ops : List TaskOp) :
    taskSystem.Always
      (fun tasks op _ => ∀ t task, op = .gettid t → tasks[t]? = some task →
        task.gettid.1 = task.tid)
      (firstTask pid tid) ops := by
  refine GuardedSystem.always_of_meets (I := fun tasks => ∀ task ∈ tasks, Coherent task)
    (C := fun _ _ => True) ?_ ops _ ?_ (GuardedSystem.meets_of_forall (fun _ _ _ => trivial) _)
  · intro tasks op h hlegal _
    obtain ⟨task, hget, hop⟩ := hlegal
    refine ⟨op.apply tasks task, by simp [taskSystem, hget], ?_, forall_coherent_apply h hget hop⟩
    intro t task' _ hget'
    rw [(h task' (List.mem_of_getElem? hget')).gettid_eq]
  · intro task hmem
    obtain rfl := List.mem_singleton.mp hmem
    exact ⟨by simp, .inl rfl⟩

/-- The two forks of `gt_daemonize_process`: the process between them never calls the
function, and the daemon asks the kernel although it inherits an id. -/
example : ([.gettid 0, .fork 0 101 101, .fork 1 102 102, .gettid 2].foldlM taskSystem.exec
    (firstTask 100 100)).map (·.map fun task => task.tls) =
      some [⟨100, 100⟩, ⟨100, 100⟩, ⟨102, 102⟩] := by
  decide

/-- Without the promise of the kernel: a process with the process id of its grandfather
takes the id of the grandfather's thread for its own. -/
example : ([.create 0 105, .gettid 1, .fork 1 101 101, .fork 2 100 100].foldlM taskSystem.exec
    (firstTask 100 100)).map (·.map fun task => (task.gettid.1, task.tid)) =
      some [(100, 100), (105, 105), (101, 101), (105, 100)] := by
  decide

end GuitarTea
