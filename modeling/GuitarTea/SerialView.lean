import GuitarTea.DatanetStream
import GuitarTea.ServingWorld

/-!
# Threads that are ahead of a serial server

While the threads take turns anywhere, a serial server runs each handler in one go: at the
moment when the handler's one call that matters to others takes effect.  That is the
`epoll_ctl` that hands a connection over, the `close` that gives one up, or the line of the
log for data.  Before this moment a thread may have accepted a connection and filled in an
event that the serial server does not know yet; after it, the thread may still hold the
memory of an event that is gone for the serial server.

What a thread has for itself is written down beside the serial server, and everything else
in memory and in the kernel is as the serial server has it.  What it has read and not yet
logged is among it: on each connection everything else that was received was logged.

## Main definitions

* `isData`, `dataLines` — the lines of the log for data, of the threads and of a serial run.
* `heard`, `said`, `texts` — what was received and what was logged, and on one descriptor.
* `upToNul` — what the log has of it.
* `View` — a serial server, and what each thread has for itself.
* `Sim`, `Streams` — what the memory, the kernel and the log hold then.
* `serial` — the discipline of the threads, with a serial run as ghost state.
* `At` — what a thread knows in between.
-/

namespace GuitarTea.Threads

/-! ## Lines of the log -/

/-- A command that was run, and its value. -/
abbrev Executed := (c : Cmd) × c.Val

/-- The logging call of `gt_datanet_ops_read` for data. -/
def isData (c : LogCall) : Bool := decide (c.func = "gt_datanet_ops_read" ∧ c.line = 98)

/-- The logging calls among the commands that were run. -/
def logCalls (past : List Executed) : List LogCall :=
  past.filterMap fun e => match e.1 with
    | .log c => some c
    | _ => none

/-- What `%s` prints of some bytes. -/
def upToNul (data : List UInt8) : List UInt8 := data.takeWhile (· ≠ 0)

/-- The line for data that a handler logs. -/
def dataLine (w : World) : HandlerOp → Option LogCall
  | .read ge _ (.ok data) _ _ =>
      if data = [] then none
      else (w.events ge).map fun ev => chunkLog ev.efd (upToNul (data.take (sizeofBuf - 1)))
  | _ => none

/-- The lines for data that a serial run logs. -/
def dataLines (lge : EventPtr) : World → List HandlerOp → List LogCall
  | _, [] => []
  | w, op :: ops => (dataLine w op).toList ++
      match (handlerSystem lge).exec w op with
      | none => []
      | some w' => dataLines lge w' ops

theorem dataLines_append {lge : EventPtr} {w w' : World} {ops : List HandlerOp}
    (hrun : (handlerSystem lge).Run w ops w') (op : HandlerOp) :
    dataLines lge w (ops ++ [op]) = dataLines lge w ops ++ (dataLine w' op).toList := by
  induction hrun with
  | nil w =>
      cases hexec : (handlerSystem lge).exec w op <;> simp [dataLines, hexec]
  | @cons w w₁ w' op' ops hl he hrun ih => simp [dataLines, he, ih]

/-- The serial runs that have logged the same lines for data.  They leave the events of the
core poller alone. -/
structure Ran (lge : EventPtr) (w₀ w : World) (past : List Executed) : Prop where
  pollers : w.pollers = w₀.pollers
  core : ∀ ge ev, ev.gpoller = .core → (w.events ge = some ev ↔ w₀.events ge = some ev)
  run : ∃ ops, (handlerSystem lge).Run w₀ ops w ∧
    (logCalls past).filter isData = dataLines lge w₀ ops

/-- One more call. -/
theorem Ran.commit {lge : EventPtr} {w₀ w w' : World} {past : List Executed} {e : Executed}
    (h : Ran lge w₀ w past) (op : HandlerOp) (hl : (handlerSystem lge).legal w op)
    (he : (handlerSystem lge).exec w op = some w') (hpollers : w'.pollers = w.pollers)
    (hcore : ∀ ge ev, ev.gpoller = .core → (w'.events ge = some ev ↔ w.events ge = some ev))
    (hline : (logCalls [e]).filter isData = (dataLine w op).toList) :
    Ran lge w₀ w' (past ++ [e]) where
  pollers := hpollers.trans h.pollers
  core ge ev hp := (hcore ge ev hp).trans (h.core ge ev hp)
  run := by
    obtain ⟨ops, hrun, hops⟩ := h.run
    refine ⟨ops ++ [op], hrun.append (.cons hl he (.nil w')), ?_⟩
    rw [logCalls, List.filterMap_append, List.filter_append, ← logCalls, hops,
      dataLines_append hrun]
    exact congrArg _ hline

/-! ## What is read and what is logged -/

/-- The descriptor and the text in a line for data. -/
def dataText (c : LogCall) : Option (ℤ × List UInt8) :=
  match c.msg with
  | [.text _, .int fd, .text _, .str text] => some (fd, text)
  | _ => none

/-- What the lines for data say was received, and on which descriptors. -/
def said (past : List Executed) : List (ℤ × List UInt8) :=
  ((logCalls past).filter isData).filterMap dataText

/-- The bytes that a call of `read` has received. -/
def ReadResult.heard {count : ℕ} (fd : ℤ) (r : ReadResult count) : Option (ℤ × List UInt8) :=
  match r.result with
  | .ok data => if data = [] then none else some (fd, data)
  | .error _ => none

/-- What the calls of `read` have received. -/
def heard (past : List Executed) : List (ℤ × List UInt8) :=
  past.filterMap fun e => match e with
    | ⟨.read fd _, r⟩ => r.heard fd
    | _ => none

/-- The texts of one descriptor. -/
def texts (fd : ℤ) (l : List (ℤ × List UInt8)) : List (List UInt8) :=
  (l.filter fun r => r.1 = fd).map Prod.snd

theorem said_append (past past' : List Executed) :
    said (past ++ past') = said past ++ said past' := by
  simp [said, logCalls]

theorem heard_append (past past' : List Executed) :
    heard (past ++ past') = heard past ++ heard past' :=
  List.filterMap_append

theorem texts_append (fd : ℤ) (l l' : List (ℤ × List UInt8)) :
    texts fd (l ++ l') = texts fd l ++ texts fd l' := by
  simp [texts]

theorem texts_singleton_self (fd : ℤ) (text : List UInt8) : texts fd [(fd, text)] = [text] := by
  simp [texts]

theorem texts_singleton_of_ne {fd fd' : ℤ} (h : fd' ≠ fd) (text : List UInt8) :
    texts fd [(fd', text)] = [] := by
  simp [texts, h]

/-- A command that neither receives anything nor logs data. -/
def isSilent : Cmd → Bool
  | .read _ _ => false
  | .log c => !isData c
  | _ => true

section Silent

variable {c : Cmd} (hc : isSilent c = true) (y : c.Val)
include hc

theorem filter_logCalls_silent : (logCalls [⟨c, y⟩]).filter isData = [] := by
  cases c <;> simp_all [logCalls, isSilent]

theorem said_silent : said [⟨c, y⟩] = [] := by
  rw [said, filter_logCalls_silent hc y]
  rfl

theorem heard_silent : heard [⟨c, y⟩] = [] := by
  cases c <;> first | rfl | simp [isSilent] at hc

end Silent

/-- The serial run stays where it is. -/
theorem Ran.silent {lge : EventPtr} {w₀ w : World} {past : List Executed}
    (h : Ran lge w₀ w past) {c : Cmd} (hc : isSilent c = true) (y : c.Val) :
    Ran lge w₀ w (past ++ [⟨c, y⟩]) where
  pollers := h.pollers
  core := h.core
  run := by
    obtain ⟨ops, hrun, hops⟩ := h.run
    refine ⟨ops, hrun, ?_⟩
    rw [logCalls, List.filterMap_append, List.filter_append, ← logCalls, ← logCalls, hops,
      filter_logCalls_silent hc y, List.append_nil]

/-! ## The view -/

/-- An event of the serial server as it is in memory. -/
def EventMem.of (ev : GtEvent) : EventMem := ⟨ev.efd, ev.ops, ev.e, some ev.gpoller⟩

/-- A serial server, and what each thread has for itself: the event whose memory it is
working on, the descriptor whose registration it is changing, what it has read and not yet
logged, and for `gt_network_m` the connection it has accepted. -/
structure View where
  world : World
  event : Thread → Option (EventPtr × EventMem)
  reg : Thread → Option ℤ
  read : Thread → Option (ℤ × List UInt8)
  conn : Option Accepted

/-- The kernel with the connection that the serial server has not accepted yet. -/
def View.kernel (v : View) : Kernel (Option EventPtr) :=
  match v.conn with
  | none => v.world.kernel
  | some conn => v.world.kernel.accept conn.cfd

theorem View.kernel_of_none {v : View} (h : v.conn = none) : v.kernel = v.world.kernel := by
  simp [View.kernel, h]

/-- The kernel while a connection is waiting. -/
theorem View.kernel_of_conn {v : View} {conn : Accepted} (h : v.conn = some conn) :
    v.kernel = v.world.kernel.accept conn.cfd := by
  simp [View.kernel, h]

/-- What memory and kernel hold in a view. -/
structure Sim (lge : EventPtr) (v : View) (s : Shared) : Prop where
  serves : Serves lge v.world
  pollers : s.pollers = v.world.pollers
  files : Kernel.SameFiles v.kernel s.kernel
  conn_free : ∀ conn, v.conn = some conn →
    0 ≤ conn.cfd ∧ v.world.kernel.files conn.cfd = none
  sets : ∀ e fd, (∀ t, v.reg t = some fd → (v.world.pollers t.poller).epfd ≠ e) →
    s.kernel.sets e fd = v.world.kernel.sets e fd
  /-- An event that no thread has for itself. -/
  events : ∀ ge, (∀ t x, v.event t ≠ some (ge, x)) → s.events ge = (v.world.events ge).map .of
  mem : ∀ t ge x, v.event t = some (ge, x) → s.events ge = some x
  inj : ∀ t u ge x y, v.event t = some (ge, x) → v.event u = some (ge, y) → t = u
  owner : ∀ t ge x ev, v.event t = some (ge, x) → v.world.events ge = some ev →
    ev.gpoller = t.poller
  reg : ∀ t fd, v.reg t = some fd →
    ∃ ge x ev, v.event t = some (ge, x) ∧ v.world.events ge = some ev ∧ ev.efd = fd

/-- What a thread relies on. -/
structure Kept (u : Thread) (v v' : View) : Prop where
  event : v'.event u = v.event u
  reg : v'.reg u = v.reg u
  read : v'.read u = v.read u
  conn : u = .network → v'.conn = v.conn
  live : ∀ ge ev, v.world.events ge = some ev → ev.gpoller = u.poller →
    v'.world.events ge = some ev
  own : ∀ ge x, v.event u = some (ge, x) → v'.world.events ge = v.world.events ge

theorem Kept.refl (u : Thread) (v : View) : Kept u v v :=
  ⟨rfl, rfl, rfl, fun _ => rfl, fun _ _ h _ => h, fun _ _ _ => rfl⟩

theorem Kept.trans {u : Thread} {v v' v'' : View} (h : Kept u v v') (h' : Kept u v' v'') :
    Kept u v v'' where
  event := h'.event.trans h.event
  reg := h'.reg.trans h.reg
  read := h'.read.trans h.read
  conn hu := (h'.conn hu).trans (h.conn hu)
  live ge ev hev hp := h'.live ge ev (h.live ge ev hev hp) hp
  own ge x hx := (h'.own ge x (h.event.trans hx)).trans (h.own ge x hx)

/-- A descriptor that the main thread reads. -/
def OnCore (w : World) (fd : ℤ) : Prop :=
  ∃ ge ev, w.events ge = some ev ∧ ev.gpoller = .core ∧ ev.efd = fd

/-- Everything that was received on a connection was logged, each time up to the first NUL,
except for what a thread has just read. -/
structure Streams (w₀ : World) (v : View) (past : List Executed) : Prop where
  logged : ∀ fd, ¬ OnCore w₀ fd → (∀ t data, v.read t ≠ some (fd, data)) →
    (texts fd (heard past)).map upToNul = texts fd (said past)
  pending : ∀ t fd data, v.read t = some (fd, data) → ∃ earlier,
    texts fd (heard past) = earlier ++ [data] ∧ earlier.map upToNul = texts fd (said past)
  live : ∀ t fd data, v.read t = some (fd, data) →
    ∃ ge ev, v.world.events ge = some ev ∧ ev.gpoller = t.poller ∧ ev.efd = fd
  /-- What is logged has come from a connection. -/
  conn : ∀ fd, OnCore w₀ fd → texts fd (said past) = []
  nonneg : ∀ r ∈ said past, 0 ≤ r.1

/-- The discipline: memory and kernel follow a serial run. -/
def serial (lge : EventPtr) (w₀ : World) :
    Discipline Thread Cmd Cmd.Val Reply (Shared × List Executed) View where
  respond := threadSystem.recording.respond
  inv v s := Sim lge v s.1 ∧ Ran lge w₀ v.world s.2 ∧ Streams w₀ v s.2
  rely u v _ v' _ := Kept u v v'
  check _ _ _ := True
  rely_refl u v _ := .refl u v
  rely_trans h h' := h.trans h'

/-! ## What a thread knows -/

/-- What a thread has for itself, and what the serial server has at the address of its
event. -/
structure Local where
  event : Option (EventPtr × EventMem) := none
  held : Option GtEvent := none
  reg : Option ℤ := none
  conn : Option Accepted := none
  read : Option (ℤ × List UInt8) := none

/-- The rest of a thread's batch leads to live events of its poller, and the thread has
these things for itself. -/
structure At (t : Thread) (rest : List ReadyEvent) (l : Local) (v : View) : Prop where
  nodup : (rest.map ReadyEvent.fd).Nodup
  batch : ∀ r ∈ rest, ∃ ge ev, r.ptr = some ge ∧ v.world.events ge = some ev ∧
    ev.gpoller = t.poller ∧ ev.efd = r.fd
  event : v.event t = l.event
  held : ∀ ge x, l.event = some (ge, x) → v.world.events ge = l.held
  reg : v.reg t = l.reg
  conn : t = .network → v.conn = l.conn
  read : v.read t = l.read

section At

variable {lge : EventPtr} {w₀ : World} {t : Thread} {rest : List ReadyEvent} {l : Local}
  {v v' : View} {s s' : Shared} {r : ReadyEvent} {ge : EventPtr}

theorem At.kept (h : At t rest l v) (hk : Kept t v v') : At t rest l v' where
  nodup := h.nodup
  batch r hr := by
    obtain ⟨ge, ev, hptr, hev, hp, hfd⟩ := h.batch r hr
    exact ⟨ge, ev, hptr, hk.live ge ev hev hp, hp, hfd⟩
  event := hk.event.trans h.event
  held ge x hx := (hk.own ge x (h.event.trans hx)).trans (h.held ge x hx)
  reg := hk.reg.trans h.reg
  conn ht := (hk.conn ht).trans (h.conn ht)
  read := hk.read.trans h.read

theorem stable_at (lge : EventPtr) (w₀ : World) (t : Thread) (rest : List ReadyEvent)
    (l : Local) : (serial lge w₀).Stable t fun v _ => At t rest l v :=
  fun _ _ _ _ h _ hk => h.kept hk

theorem At.tail (h : At t (r :: rest) l v) : At t rest l v where
  nodup := (List.nodup_cons.mp h.nodup).2
  batch r' hr' := h.batch r' (List.mem_cons_of_mem r hr')
  event := h.event
  held := h.held
  reg := h.reg
  conn := h.conn
  read := h.read

/-- Only the pollers, the events and the kernel matter. -/
theorem Sim.congr (h : Sim lge v s) (hpollers : s'.pollers = s.pollers)
    (hevents : s'.events = s.events) (hkernel : s'.kernel = s.kernel) : Sim lge v s' where
  serves := h.serves
  pollers := hpollers.trans h.pollers
  files := hkernel ▸ h.files
  conn_free := h.conn_free
  sets := hkernel ▸ h.sets
  events := hevents ▸ h.events
  mem := hevents ▸ h.mem
  inj := h.inj
  owner := h.owner
  reg := h.reg

theorem Thread.poller_inj {t u : Thread} (h : t.poller = u.poller) : t = u := by
  rw [← runner_poller t, h, runner_poller]

/-- Another thread's event is another event. -/
theorem Sim.event_ne (h : Sim lge v s) {u : Thread} {x y : EventMem} {ge' : EventPtr}
    (ht : v.event t = some (ge, x)) (hu : v.event u = some (ge', y)) (hne : u ≠ t) : ge' ≠ ge := by
  rintro rfl
  exact hne (h.inj u t ge' y x hu ht)

/-- The event of an entry of the batch is in memory as the serial server has it. -/
theorem At.entry (h : At t rest l v) (hsim : Sim lge v s) (hl : l.event = none) (hr : r ∈ rest)
    (hptr : r.ptr = some ge) : ∃ ev, v.world.events ge = some ev ∧ ev.gpoller = t.poller ∧
      ev.efd = r.fd ∧ (∀ u x, v.event u ≠ some (ge, x)) ∧ s.events ge = some (.of ev) := by
  obtain ⟨ge', ev, hptr', hev, hp, hfd⟩ := h.batch r hr
  obtain rfl : ge = ge' := Option.some.inj (hptr.symm.trans hptr')
  have hfree : ∀ u x, v.event u ≠ some (ge, x) := by
    intro u x hu
    obtain rfl : t = u := Thread.poller_inj (hp.symm.trans (hsim.owner u ge x ev hu hev))
    simp [h.event, hl] at hu
  exact ⟨ev, hev, hp, hfd, hfree, by rw [hsim.events ge hfree, hev, Option.map_some]⟩

end At

/-! ## Streams -/

section Streams

variable {w₀ : World} {t : Thread} {v v' : View} {past : List Executed} {c : Cmd}

/-- A silent command of a thread that has read nothing. -/
theorem Streams.kept (h : Streams w₀ v past) (hc : isSilent c = true) (y : c.Val)
    (hk : ∀ u, u ≠ t → Kept u v v') (ht : v.read t = none) (ht' : v'.read t = none) :
    Streams w₀ v' (past ++ [⟨c, y⟩]) := by
  have hread : v'.read = v.read := by
    funext u
    by_cases hu : u = t
    · rw [hu, ht, ht']
    · exact (hk u hu).read
  refine ⟨?_, ?_, ?_, ?_, ?_⟩
  · rw [said_append, heard_append, said_silent hc, heard_silent hc, List.append_nil,
      List.append_nil, hread]
    exact h.logged
  · rw [said_append, heard_append, said_silent hc, heard_silent hc, List.append_nil,
      List.append_nil, hread]
    exact h.pending
  · intro u fd data hu
    rw [hread] at hu
    have hut : u ≠ t := by
      rintro rfl
      simp [ht] at hu
    obtain ⟨ge, ev, hev, hp, hfd⟩ := h.live u fd data hu
    exact ⟨ge, ev, (hk u hut).live ge ev hev hp, hp, hfd⟩
  · rw [said_append, said_silent hc, List.append_nil]
    exact h.conn
  · rw [said_append, said_silent hc, List.append_nil]
    exact h.nonneg

/-- A silent command that changes nothing. -/
theorem Streams.silent (h : Streams w₀ v past) (hc : isSilent c = true) (y : c.Val) :
    Streams w₀ v (past ++ [⟨c, y⟩]) := by
  refine ⟨?_, ?_, h.live, ?_, ?_⟩
  · rw [said_append, heard_append, said_silent hc, heard_silent hc, List.append_nil,
      List.append_nil]
    exact h.logged
  · rw [said_append, heard_append, said_silent hc, heard_silent hc, List.append_nil,
      List.append_nil]
    exact h.pending
  · rw [said_append, said_silent hc, List.append_nil]
    exact h.conn
  · rw [said_append, said_silent hc, List.append_nil]
    exact h.nonneg

/-- A descriptor on which something is read and not yet logged is one thread's. -/
theorem Streams.read_ne {lge : EventPtr} {fd : ℤ} {ge : EventPtr} {ev : GtEvent}
    (h : Streams w₀ v past) (hserves : Serves lge v.world) (hev : v.world.events ge = some ev)
    (hp : ev.gpoller = t.poller) (hfd : ev.efd = fd) {u : Thread} (hu : u ≠ t)
    (data : List UInt8) : v.read u ≠ some (fd, data) := by
  intro hread
  obtain ⟨ge', ev', hev', hp', hfd'⟩ := h.live u fd data hread
  obtain rfl : ge = ge' := hserves.conn.efd_inj ge ge' ev ev' hev hev' (hfd.trans hfd'.symm)
  obtain rfl : ev = ev' := Option.some.inj (hev.symm.trans hev')
  exact hu (Thread.poller_inj (hp'.symm.trans hp))

/-- A connection is not on the core poller. -/
theorem not_onCore {lge : EventPtr} {ge : EventPtr} {ev : GtEvent} (hran : Ran lge w₀ v.world past)
    (hserves : Serves lge v.world) (hev : v.world.events ge = some ev)
    (hp : ev.gpoller ≠ .core) : ¬ OnCore w₀ ev.efd := by
  rintro ⟨ge', ev', hev', hcore, hfd⟩
  have hnow := (hran.core ge' ev' hcore).mpr hev'
  obtain rfl : ge = ge' := hserves.conn.efd_inj ge ge' ev ev' hev hnow hfd.symm
  obtain rfl : ev = ev' := Option.some.inj (hev.symm.trans hnow)
  exact hp hcore

/-- The thread has read, or has logged what it had read. -/
def View.setRead (v : View) (t : Thread) (r : Option (ℤ × List UInt8)) : View :=
  { v with read := Function.update v.read t r }

section Read

variable {count : ℕ} (fd : ℤ) (y : ReadResult count)

theorem said_read : said [⟨.read fd count, y⟩] = [] := rfl

theorem heard_read : heard [⟨.read fd count, y⟩] = (y.heard fd).toList := by
  cases hy : y.heard fd <;> simp [heard, hy]

end Read

theorem said_chunkLog (fd : ℤ) (text : List UInt8) :
    said [⟨.log (chunkLog fd text), ()⟩] = [(fd, text)] := by
  simp [said, logCalls, isData, dataText, chunkLog, gtInfoLog]

theorem heard_log (m : LogCall) : heard [⟨.log m, ()⟩] = [] := rfl

theorem ReadResult.fst_of_heard {count : ℕ} {y : ReadResult count} {fd fd' : ℤ}
    {data : List UInt8} (h : y.heard fd = some (fd', data)) : fd' = fd := by
  unfold ReadResult.heard at h
  split at h
  · split at h <;> cases h
    rfl
  · cases h

/-- The texts of other descriptors are not heard. -/
theorem texts_heard_of_ne {count : ℕ} {fd fd' : ℤ} (hne : fd' ≠ fd) (y : ReadResult count) :
    texts fd' (y.heard fd).toList = [] := by
  cases hy : y.heard fd with
  | none => rfl
  | some r =>
      obtain ⟨fd'', text⟩ := r
      obtain rfl := ReadResult.fst_of_heard hy
      exact texts_singleton_of_ne (Ne.symm hne) text

/-- **A thread reads a connection.** -/
theorem Streams.read {count : ℕ} {fd : ℤ} (h : Streams w₀ v past) (ht : v.read t = none)
    (hother : ∀ u, u ≠ t → ∀ data, v.read u ≠ some (fd, data)) (hcore : ¬ OnCore w₀ fd)
    (hlive : ∃ ge ev, v.world.events ge = some ev ∧ ev.gpoller = t.poller ∧ ev.efd = fd)
    (y : ReadResult count) :
    Streams w₀ (v.setRead t (y.heard fd)) (past ++ [⟨.read fd count, y⟩]) := by
  have hnobody : ∀ u data, v.read u ≠ some (fd, data) := by
    intro u data
    by_cases hu : u = t
    · simp [hu, ht]
    · exact hother u hu data
  refine ⟨?_, ?_, ?_, ?_, ?_⟩
  · intro fd' hfd' hnone
    have hold : ∀ u data, v.read u ≠ some (fd', data) := by
      intro u data
      by_cases hu : u = t
      · simp [hu, ht]
      · simpa [View.setRead, hu] using hnone u data
    have hnothing : texts fd' (y.heard fd).toList = [] := by
      cases hy : y.heard fd with
      | none => rfl
      | some r =>
          obtain ⟨fd'', data⟩ := r
          have hne : fd'' ≠ fd' := by
            rintro rfl
            exact hnone t data (by simp [View.setRead, hy])
          exact texts_singleton_of_ne hne data
    rw [heard_append, said_append, said_read, heard_read, List.append_nil, texts_append,
      hnothing, List.append_nil]
    exact h.logged fd' hfd' hold
  · intro u fd' data hu
    rw [heard_append, said_append, said_read, heard_read, List.append_nil, texts_append]
    by_cases hut : u = t
    · have hy : y.heard fd = some (fd', data) := by simpa [View.setRead, hut] using hu
      obtain rfl := ReadResult.fst_of_heard hy
      rw [hy, Option.toList_some, texts_singleton_self]
      exact ⟨_, rfl, h.logged fd' hcore hnobody⟩
    · have hold : v.read u = some (fd', data) := by simpa [View.setRead, hut] using hu
      have hne : fd' ≠ fd := by
        rintro rfl
        exact hnobody u data hold
      rw [texts_heard_of_ne hne, List.append_nil]
      exact h.pending u fd' data hold
  · intro u fd' data hu
    by_cases hut : u = t
    · have hy : y.heard fd = some (fd', data) := by simpa [View.setRead, hut] using hu
      rw [hut, ReadResult.fst_of_heard hy]
      exact hlive
    · exact h.live u fd' data (by simpa [View.setRead, hut] using hu)
  · rw [said_append, said_read, List.append_nil]
    exact h.conn
  · rw [said_append, said_read, List.append_nil]
    exact h.nonneg

/-- **The main thread reads its pipe**, which is nobody's connection. -/
theorem Streams.read_core {count : ℕ} {fd : ℤ} (h : Streams w₀ v past) (hcore : OnCore w₀ fd)
    (hother : ∀ u data, v.read u ≠ some (fd, data)) (y : ReadResult count) :
    Streams w₀ v (past ++ [⟨.read fd count, y⟩]) := by
  refine ⟨?_, ?_, h.live, ?_, ?_⟩
  · intro fd' hfd' hnone
    have hne : fd' ≠ fd := by
      rintro rfl
      exact hfd' hcore
    rw [heard_append, said_append, said_read, heard_read, List.append_nil, texts_append,
      texts_heard_of_ne hne, List.append_nil]
    exact h.logged fd' hfd' hnone
  · intro u fd' data hu
    have hne : fd' ≠ fd := by
      rintro rfl
      exact hother u data hu
    rw [heard_append, said_append, said_read, heard_read, List.append_nil, texts_append,
      texts_heard_of_ne hne, List.append_nil]
    exact h.pending u fd' data hu
  · rw [said_append, said_read, List.append_nil]
    exact h.conn
  · rw [said_append, said_read, List.append_nil]
    exact h.nonneg

/-- **A thread logs what it has read.** -/
theorem Streams.log {fd : ℤ} {data : List UInt8} (h : Streams w₀ v past)
    (ht : v.read t = some (fd, data)) (hcore : ¬ OnCore w₀ fd) (hfd : 0 ≤ fd)
    (hother : ∀ u, u ≠ t → ∀ data', v.read u ≠ some (fd, data')) :
    Streams w₀ (v.setRead t none) (past ++ [⟨.log (chunkLog fd (upToNul data)), ()⟩]) := by
  refine ⟨?_, ?_, ?_, ?_, ?_⟩
  · intro fd' hfd' hnone
    rw [heard_append, said_append, heard_log, said_chunkLog, List.append_nil, texts_append]
    by_cases heq : fd' = fd
    · obtain ⟨earlier, hheard, hsaid⟩ := h.pending t fd data ht
      rw [heq, texts_singleton_self, hheard, List.map_append, hsaid]
      rfl
    · rw [texts_singleton_of_ne (Ne.symm heq), List.append_nil]
      refine h.logged fd' hfd' fun u data' => ?_
      by_cases hu : u = t
      · simp [hu, ht, Ne.symm heq]
      · simpa [View.setRead, hu] using hnone u data'
  · intro u fd' data' hu
    have hut : u ≠ t := by
      rintro rfl
      simp [View.setRead] at hu
    have hold : v.read u = some (fd', data') := by simpa [View.setRead, hut] using hu
    have hne : fd' ≠ fd := by
      rintro rfl
      exact hother u hut data' hold
    rw [heard_append, said_append, heard_log, said_chunkLog, List.append_nil, texts_append,
      texts_singleton_of_ne (Ne.symm hne), List.append_nil]
    exact h.pending u fd' data' hold
  · intro u fd' data' hu
    have hut : u ≠ t := by
      rintro rfl
      simp [View.setRead] at hu
    exact h.live u fd' data' (by simpa [View.setRead, hut] using hu)
  · intro fd' hfd'
    have hne : fd ≠ fd' := by
      rintro rfl
      exact hcore hfd'
    rw [said_append, said_chunkLog, texts_append, texts_singleton_of_ne hne, List.append_nil]
    exact h.conn fd' hfd'
  · intro r hr
    rw [said_append, said_chunkLog, List.mem_append, List.mem_singleton] at hr
    rcases hr with hr | rfl
    · exact h.nonneg r hr
    · exact hfd

end Streams

/-! ## Commands -/

namespace Serial

section Commands

variable {lge : EventPtr} {w₀ : World} {t : Thread} {rest rest' : List ReadyEvent} {l : Local}
  {c : Cmd} {ge : EventPtr} {x : EventMem} {r : ReadyEvent}

/-- One command, and what the thread knows after it. -/
theorem triple_command {R : c.Val → View → Prop}
    (hR : ∀ y v v', R y v → Kept t v v' → R y v')
    (h : ∀ v s past a y s', Sim lge v s → Ran lge w₀ v.world past → Streams w₀ v past →
      At t rest l v → respond c a s = some (y, s') → ∃ v', Sim lge v' s' ∧
        Ran lge w₀ v'.world (past ++ [⟨c, y⟩]) ∧ Streams w₀ v' (past ++ [⟨c, y⟩]) ∧
        (∀ u, u ≠ t → Kept u v v') ∧ R y v') :
    (serial lge w₀).Triple t (fun v _ => At t rest l v) (perform c) fun y v _ => R y v := by
  refine .perform (fun y v _ v' _ hy _ hk => hR y v v' hy hk) (fun _ _ _ _ => trivial) ?_
  rintro v ⟨s, past⟩ a _ _ ⟨hsim, hran, hstreams⟩ hat hresp
  obtain ⟨⟨y, s'⟩, hresp', hval⟩ := Option.map_eq_some_iff.mp hresp
  cases hval
  obtain ⟨v', hsim', hran', hstreams', hkept, hy⟩ :=
    h v s past a y s' hsim hran hstreams hat hresp'
  exact ⟨v', ⟨hsim', hran', hstreams'⟩, hkept, hy⟩

/-- One silent command of a thread that has read nothing. -/
theorem triple_perform {R : c.Val → View → Prop} (hc : isSilent c = true) (hl : l.read = none)
    (hR : ∀ y v v', R y v → Kept t v v' → R y v') (hnone : ∀ y v, R y v → v.read t = none)
    (h : ∀ v s past a y s', Sim lge v s → Ran lge w₀ v.world past → At t rest l v →
      respond c a s = some (y, s') → ∃ v', Sim lge v' s' ∧
        Ran lge w₀ v'.world (past ++ [⟨c, y⟩]) ∧ (∀ u, u ≠ t → Kept u v v') ∧ R y v') :
    (serial lge w₀).Triple t (fun v _ => At t rest l v) (perform c) fun y v _ => R y v := by
  refine triple_command hR ?_
  intro v s past a y s' hsim hran hstreams hat hresp
  obtain ⟨v', hsim', hran', hkept, hy⟩ := h v s past a y s' hsim hran hat hresp
  have ht : v.read t = none := hat.read.trans hl
  exact ⟨v', hsim', hran', hstreams.kept hc y hkept ht (hnone y v' hy), hkept, hy⟩

/-- One silent command, and what the thread has for itself after it. -/
theorem triple_step {R : c.Val → Local} (hc : isSilent c = true) (hl : l.read = none)
    (hR : ∀ y, (R y).read = none)
    (h : ∀ v s past a y s', Sim lge v s → Ran lge w₀ v.world past → At t rest l v →
      respond c a s = some (y, s') → ∃ v', Sim lge v' s' ∧
        Ran lge w₀ v'.world (past ++ [⟨c, y⟩]) ∧ (∀ u, u ≠ t → Kept u v v') ∧
        At t rest' (R y) v') :
    (serial lge w₀).Triple t (fun v _ => At t rest l v) (perform c)
      fun y v _ => At t rest' (R y) v :=
  triple_perform hc hl (fun _ _ _ hat hk => hat.kept hk) (fun y _ hat => hat.read.trans (hR y)) h

/-- A silent command that touches neither pollers nor events nor the kernel. -/
def isQuiet : Cmd → Bool
  | .load _ | .loadEfd _ | .getNext _ | .getPrev _ | .setNext _ _ | .setPrev _ _ | .loadPoller _
  | .deref _ | .call _ _ | .callWrite _ _ | .epollWait _ _ | .fdCall _ _ => true
  | .log c => !isData c
  | _ => false

theorem isSilent_of_isQuiet (hc : isQuiet c = true) : isSilent c = true := by
  cases c <;> simp_all [isQuiet, isSilent]

theorem respond_quiet {s s' : Shared} {a : Reply} {c : Cmd} {y : c.Val} (hc : isQuiet c = true)
    (h : respond c a s = some (y, s')) :
    s'.pollers = s.pollers ∧ s'.events = s.events ∧ s'.kernel = s.kernel := by
  cases c <;> simp only [isQuiet, Bool.false_eq_true] at hc <;> simp only [respond] at h
  case loadPoller p =>
    cases p <;> cases h
    exact ⟨rfl, rfl, rfl⟩
  case deref p =>
    cases p <;> cases h
    exact ⟨rfl, rfl, rfl⟩
  case call fn ge =>
    cases fn <;> cases h
    exact ⟨rfl, rfl, rfl⟩
  case callWrite fn ge =>
    cases fn <;> cases h
    exact ⟨rfl, rfl, rfl⟩
  case epollWait e m =>
    split at h <;> cases h
    exact ⟨rfl, rfl, rfl⟩
  all_goals cases h; exact ⟨rfl, rfl, rfl⟩

/-- Such a command tells something about its value, and changes nothing. -/
theorem triple_quiet {φ : c.Val → Prop} (hc : isQuiet c = true)
    (hφ : ∀ v s a y s', Sim lge v s → v.world.pollers = w₀.pollers → At t rest l v →
      respond c a s = some (y, s') → φ y) :
    (serial lge w₀).Triple t (fun v _ => At t rest l v) (perform c)
      fun y v _ => φ y ∧ At t rest l v := by
  have hsilent := isSilent_of_isQuiet hc
  refine triple_command (fun y v v' hy hk => ⟨hy.1, hy.2.kept hk⟩) ?_
  intro v s past a y s' hsim hran hstreams hat hresp
  obtain ⟨hpollers, hevents, hkernel⟩ := respond_quiet hc hresp
  exact ⟨v, hsim.congr hpollers hevents hkernel, hran.silent hsilent y,
    hstreams.silent hsilent y, fun u _ => Kept.refl u v,
    hφ v s a y s' hsim hran.pollers hat hresp, hat⟩

/-- A quiet command whose value does not matter. -/
theorem triple_skip (hc : isQuiet c = true) :
    (serial lge w₀).Triple t (fun v _ => At t rest l v) (perform c)
      fun _ v _ => At t rest l v :=
  (triple_quiet (φ := fun _ => True) hc fun _ _ _ _ _ _ _ _ _ => trivial).post fun _ _ _ _ h => h.2

/-- A line that is not about data. -/
theorem triple_log {m : LogCall} (hm : isData m = false) :
    (serial lge w₀).Triple t (fun v _ => At t rest l v) (perform (.log m))
      fun _ v _ => At t rest l v :=
  triple_skip (by simp [isQuiet, hm])

/-- The pollers are as they were at the start. -/
theorem triple_loadPoller (p : PollerId) :
    (serial lge w₀).Triple t (fun v _ => At t rest l v) (perform (.loadPoller (some p)))
      fun y v _ => y = w₀.pollers p ∧ At t rest l v := by
  refine triple_quiet rfl ?_
  intro v s a y s' hsim hpollers _ hresp
  cases hresp
  rw [hsim.pollers, hpollers]

/-- Read the thread's own event. -/
theorem triple_load (hl : l.event = some (ge, x)) :
    (serial lge w₀).Triple t (fun v _ => At t rest l v) (perform (.load ge))
      fun y v _ => y = x ∧ At t rest l v := by
  refine triple_quiet rfl ?_
  intro v s a y s' hsim _ hat hresp
  cases hresp
  simp [hsim.mem t ge x (hat.event.trans hl)]

/-- Read the event of an entry of the batch. -/
theorem triple_load_entry (hl : l.event = none) (hr : r ∈ rest) (hptr : r.ptr = some ge) :
    (serial lge w₀).Triple t (fun v _ => At t rest l v) (perform (.load ge))
      fun y v _ => (y.efd = r.fd ∧ y.ops.read = some (readFn t.poller)) ∧ At t rest l v := by
  refine triple_quiet rfl ?_
  intro v s a y s' hsim _ hat hresp
  cases hresp
  obtain ⟨ev, hev, hp, hfd, -, hmem⟩ := hat.entry hsim hl hr hptr
  rw [hmem, Option.getD_some, ← hp]
  exact ⟨hfd, hsim.serves.handler ge ev hev⟩

/-- The event of an entry is not a null pointer. -/
theorem triple_deref :
    (serial lge w₀).Triple t (fun v _ => At t rest l v) (perform (.deref r.ptr))
      fun ge v _ => r.ptr = some ge ∧ At t rest l v := by
  refine triple_quiet rfl ?_
  intro v s a y s' _ _ _ hresp
  obtain ⟨ge, hptr, hval⟩ := Option.map_eq_some_iff.mp hresp
  cases hval
  exact hptr

theorem triple_call {fn : GtReadFn} :
    (serial lge w₀).Triple t (fun v _ => At t rest l v) (perform (.call (some fn) ge))
      fun y v _ => y = fn ∧ At t rest l v := by
  refine triple_quiet rfl ?_
  intro v s a y s' _ _ _ hresp
  cases hresp
  rfl

end Commands

end Serial

end GuitarTea.Threads
