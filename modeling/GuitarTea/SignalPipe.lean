import GuitarTea.Signal

/-!
# The bytes in the signal pipe

The two ends of the signal pipe work in different units: `gt_signal_deliver` hands
four bytes to `write`, `gt_signal_ops_read` takes one byte out.  The write end does
not block, so that a write may fail or transfer less than it was given, and there
is no framing by which the reader could tell where a number begins.

None is needed: of the four bytes of a signal number only the first is not zero.
Whatever the writes transferred and however reads and deliveries interleave, the
bytes that are not zero are the signals whose write transferred something.

## Main definitions

* `PipeOp` — a delivery with what `write` transferred, or a read.
* `pipeSystem` — deliveries and reads in any order.
* `transferred` — the signals of which something went into the pipe.
-/

namespace GuitarTea

/-- The pipe with its two ends, and the bytes that were read from it so far. -/
structure PipeState where
  signals : SignalState
  taken : List UInt8

/-- A delivery with the answer of `write`, or a call of the handler with what its
variable holds before and with the error of `read`, if it fails. -/
inductive PipeOp
  | deliver (sig : BitVec 32) (write : Except Errno ℕ)
  | read (fail : Option Errno) (sig : BitVec 32)

/-- Deliveries of the signals 1 to 64, each transferring up to four bytes or failing,
and reads of one byte. -/
def pipeSystem (ge : EventPtr) : GuardedSystem PipeState PipeOp where
  legal _
    | .deliver sig write => 1 ≤ sig.toNat ∧ sig.toNat ≤ 64 ∧ ∀ n, write = .ok n → n ≤ 4
    | .read _ _ => True
  exec s
    | .deliver sig write => some { s with signals := gtSignalDeliver write sig s.signals }
    | .read (some errnum) sig =>
        (gtSignalOpsRead sig (.error errnum) ge s.signals.world).map fun r =>
          { s with signals := { s.signals with world := r.2 } }
    | .read none sig =>
        (gtSignalOpsRead sig (.ok (s.signals.pipe.take 1)) ge s.signals.world).map fun r =>
          { signals := { s.signals with world := r.2, pipe := s.signals.pipe.drop 1 }
            taken := s.taken ++ s.signals.pipe.take 1 }

/-- The bytes that are not zero, as numbers. -/
def numbers (bytes : List UInt8) : List ℕ := (bytes.filter (· ≠ 0)).map UInt8.toNat

/-- The numbers of the signals whose write transferred at least one byte, in the order of
their deliveries. -/
def transferred (ops : List PipeOp) : List ℕ :=
  ops.filterMap fun
    | .deliver sig (.ok n) => if 0 < n then some sig.toNat else none
    | _ => none

@[simp] theorem numbers_append (s t : List UInt8) : numbers (s ++ t) = numbers s ++ numbers t := by
  simp [numbers]

/-! ## One step -/

/-- What a write transfers of a signal: its number, if anything. -/
theorem numbers_take_leBytes {sig : BitVec 32} (hpos : 1 ≤ sig.toNat) (hlt : sig.toNat < 256)
    (n : ℕ) : numbers ((leBytes sig).take n) = if 0 < n then [sig.toNat] else [] := by
  obtain ⟨b, hb, hbytes⟩ := leBytes_of_lt hlt
  have hne : b ≠ 0 := by
    rintro rfl
    rw [UInt8.toNat_zero] at hb
    omega
  rw [hbytes]
  cases n with
  | zero => simp [numbers]
  | succ n =>
      have hzeros : numbers (List.take n [0, 0, 0]) = [] := by
        rw [numbers, List.map_eq_nil_iff, List.filter_eq_nil_iff]
        intro c hc
        have := List.mem_of_mem_take hc
        simpa using this
      rw [List.take_succ_cons, ← List.singleton_append, numbers_append, hzeros]
      simp [numbers, hne, hb]

/-- The bytes read so far and those in the pipe. -/
def PipeState.stream (s : PipeState) : List UInt8 := s.taken ++ s.signals.pipe

/-- **One step.**  What the step transfers is added behind the bytes that were read or
are in the pipe; nothing else changes them. -/
theorem exists_pipeStep {ge : EventPtr} {s : PipeState} {ev : GtEvent}
    (hlive : s.signals.world.events ge = some ev) {op : PipeOp}
    (hlegal : (pipeSystem ge).legal s op) :
    ∃ s', (pipeSystem ge).exec s op = some s' ∧ s'.signals.world.events ge = some ev ∧
      numbers s'.stream = numbers s.stream ++ transferred [op] := by
  cases op with
  | deliver sig write =>
      obtain ⟨hpos, hle, -⟩ := hlegal
      refine ⟨_, rfl, ?_⟩
      cases write with
      | error errnum =>
          exact ⟨hlive, by simp [gtSignalDeliver, PipeState.stream, transferred]⟩
      | ok n =>
          refine ⟨hlive, ?_⟩
          simp only [gtSignalDeliver, PipeState.stream, ← List.append_assoc]
          rw [numbers_append, numbers_take_leBytes hpos (by omega)]
          by_cases hn : 0 < n <;> simp [transferred, hn]
  | read fail sig =>
      cases fail with
      | some errnum =>
          have hread : ∃ w', gtSignalOpsRead sig (.error errnum) ge s.signals.world =
              some (gtError, w') ∧ w'.events = s.signals.world.events := by
            simp [gtSignalOpsRead, hlive, World.logs]
          obtain ⟨w', hrun, hevents⟩ := hread
          refine ⟨{ s with signals := { s.signals with world := w' } },
            by simp [pipeSystem, hrun], by rw [hevents, hlive], ?_⟩
          simp [PipeState.stream, transferred]
      | none =>
          have hread : ∃ r, gtSignalOpsRead sig (.ok (s.signals.pipe.take 1)) ge s.signals.world =
              some r ∧ r.2.events = s.signals.world.events := by
            cases hpipe : s.signals.pipe with
            | nil => exact ⟨(gtOk, s.signals.world), by simp [gtSignalOpsRead, hlive], rfl⟩
            | cons b rest =>
                obtain ⟨ret, w', hrun, hevents, -⟩ := exists_gtSignalOpsRead_cons hlive sig b []
                exact ⟨(ret, w'), by simpa using hrun, hevents⟩
          obtain ⟨⟨ret, w'⟩, hrun, hevents⟩ := hread
          refine ⟨{ signals := { s.signals with world := w', pipe := s.signals.pipe.drop 1 }
                    taken := s.taken ++ s.signals.pipe.take 1 },
            by simp [pipeSystem, hrun], by rw [hevents, hlive], ?_⟩
          rw [PipeState.stream, PipeState.stream, List.append_assoc, List.take_append_drop]
          simp [transferred]

/-! ## Runs -/

/-- Deliveries and reads never fault while the event of the read end is live. -/
theorem always_pipeStep {ge : EventPtr} {s : PipeState} {ev : GtEvent}
    (hlive : s.signals.world.events ge = some ev) (ops : List PipeOp) :
    (pipeSystem ge).Always (fun _ _ _ => True) s ops := by
  refine GuardedSystem.always_of_meets (C := fun _ _ => True)
    (I := fun s => s.signals.world.events ge = some ev) ?_ ops s hlive
    (GuardedSystem.meets_of_forall (fun _ _ _ => trivial) s)
  intro t op ht hl _
  obtain ⟨t', hrun, ht', -⟩ := exists_pipeStep ht hl
  exact ⟨t', hrun, trivial, ht'⟩

/-- A run adds what its writes transferred. -/
theorem numbers_stream_of_run {ge : EventPtr} {s s' : PipeState} {ops : List PipeOp}
    (hrun : (pipeSystem ge).Run s ops s') {ev : GtEvent} :
    s.signals.world.events ge = some ev →
      numbers s'.stream = numbers s.stream ++ transferred ops := by
  induction hrun with
  | nil s =>
      intro _
      simp [transferred]
  | @cons s t _ op ops hl he _ ih =>
      intro hlive
      obtain ⟨t', ht', hlive', hstep⟩ := exists_pipeStep hlive hl
      obtain rfl : t = t' := Option.some.inj (he.symm.trans ht')
      rw [ih hlive', hstep, List.append_assoc, transferred, transferred, transferred,
        ← List.filterMap_append, List.singleton_append]

/-- **The pipe keeps the signals.**  From an empty pipe, however deliveries that transfer
up to four bytes or fail and reads of one byte interleave, no step faults, and the
bytes read that are not zero followed by those in the pipe are the numbers of the
signals whose write transferred at least one byte, in the order of delivery. -/
theorem signal_numbers_conserved {ge : EventPtr} {s : PipeState} {ev : GtEvent}
    (hlive : s.signals.world.events ge = some ev) (hpipe : s.signals.pipe = [])
    (htaken : s.taken = []) (ops : List PipeOp) :
    (pipeSystem ge).Always (fun _ _ _ => True) s ops ∧
    ∀ s', (pipeSystem ge).Run s ops s' →
      numbers s'.taken ++ numbers s'.signals.pipe = transferred ops := by
  refine ⟨always_pipeStep hlive ops, ?_⟩
  intro s' hrun
  have hstream := numbers_stream_of_run hrun hlive
  rw [PipeState.stream, PipeState.stream, hpipe, htaken, numbers_append] at hstream
  simpa [numbers] using hstream

/-- `SIGUSR1` goes in with one byte, `SIGHUP` fails, `SIGUSR2` goes in whole, with reads in
between. -/
theorem signal_numbers_conserved_short :
    ∃ s', (pipeSystem 1).Run ⟨signalPipeReady, []⟩
        [.deliver GtSig.usr1.num (.ok 1), .deliver GtSig.hup.num (.error eagain), .read none 7,
          .deliver GtSig.usr2.num (.ok 4)] s' ∧
      numbers s'.taken ++ numbers s'.signals.pipe = [10, 12] := by
  have hlive : signalPipeReady.world.events 1 =
      some ⟨4, ⟨some .gtSignalOpsRead, none⟩, ⟨epollin, some 1⟩, .core⟩ := rfl
  have hrun : (pipeSystem 1).Run ⟨signalPipeReady, []⟩
      [.deliver GtSig.usr1.num (.ok 1), .deliver GtSig.hup.num (.error eagain), .read none 7,
        .deliver GtSig.usr2.num (.ok 4)] _ :=
    .cons ⟨by decide, by decide, by simp⟩ rfl (.cons ⟨by decide, by decide, by simp⟩ rfl
      (.cons trivial rfl (.cons ⟨by decide, by decide, by simp⟩ rfl (.nil _))))
  exact ⟨_, hrun, (signal_numbers_conserved hlive rfl rfl _).2 _ hrun⟩

end GuitarTea
