import GuitarTea.Poller
import GuitarTea.Lib.GuardedSystem

/-!
# Signals through a pipe

`gt_signal_routine` hands a signal to `gt_signal_deliver`, which writes it into a
socket pair as an `int32_t`, four bytes on a little-endian host.
`gt_signal_ops_read` takes one byte at a time out of the other end, into the low
byte of a local `int32_t` that is not initialised, and acts on the variable when
its value is the number of a signal.

A byte that is not zero is the number of a delivered signal.  The function acts on
it when the other three bytes of the variable happen to be zero, and otherwise the
signal is lost; a zero byte is never acted on.  So the signals processed are a
prefix of the signals delivered as long as no read of a byte that is not zero
finds leftover bytes in the variable.

## Main definitions

* `GtSig`, `gGtSigCustom`, `gGtSigCore` — the signals with a handler.
* `gtSignalDeliver`, `gtSignalOpsRead` — the two ends of the pipe.
* `signalSystem` — deliveries and reads in any order.
* `CleanRead` — the read finds no leftover bytes.
-/

namespace GuitarTea

/-! ## The signals -/

/-- The enumerators of `gt_sig_e` for which a handler is installed. -/
inductive GtSig
  | hup
  | quit
  | ill
  | abrt
  | bus
  | fpe
  | usr1
  | segv
  | usr2
  | sys
  deriving DecidableEq, Repr

/-- The number of a signal, as on Linux. -/
def GtSig.num : GtSig → BitVec 32
  | .hup => 1
  | .quit => 3
  | .ill => 4
  | .abrt => 6
  | .bus => 7
  | .fpe => 8
  | .usr1 => 10
  | .segv => 11
  | .usr2 => 12
  | .sys => 31

/-- `g_gt_sig_custom`. -/
def gGtSigCustom : List GtSig := [.hup, .quit, .usr1, .usr2]

/-- `g_gt_sig_core`. -/
def gGtSigCore : List GtSig := [.ill, .abrt, .bus, .fpe, .segv, .sys]

/-- The numbers for which `gt_signal_routine` is installed. -/
def registeredSignals : List (BitVec 32) := (gGtSigCustom ++ gGtSigCore).map GtSig.num

/-- `gt_process_snap`. -/
def gtProcessSnap (sig : BitVec 32) (w : World) : World :=
  World.logs { w with processed := w.processed ++ [(.gtProcessSnap, sig)] }
    (gtInfoLog "gt_process_snap" 76
      [.text "Notice: Snap process now! Signal[", .int sig.toInt, .text "]"])

/-- `gt_process_dump`. -/
def gtProcessDump (sig : BitVec 32) (w : World) : World :=
  World.logs { w with processed := w.processed ++ [(.gtProcessDump, sig)] }
    (gtInfoLog "gt_process_dump" 70
      [.text "Notice: Dump process now! Signal[", .int sig.toInt, .text "]"])

/-! ## The two ends of the pipe -/

/-- The bytes of an `int32_t` in the memory of a little-endian host. -/
def leBytes (x : BitVec 32) : List UInt8 :=
  [⟨x.extractLsb' 0 8⟩, ⟨x.extractLsb' 8 8⟩, ⟨x.extractLsb' 16 8⟩, ⟨x.extractLsb' 24 8⟩]

/-- An `int32_t` after its first byte in memory was overwritten. -/
def storeFirst (x : BitVec 32) (b : UInt8) : BitVec 32 := x.extractLsb' 8 24 ++ b.toBitVec

/-- The process, the bytes in the pipe and the signals delivered so far. -/
structure SignalState where
  world : World
  /-- `g_signal_pipefd[1]`. -/
  writeEnd : ℤ
  pipe : List UInt8
  delivered : List (BitVec 32)

/-- `gt_signal_deliver`.  `write` is the number of bytes the call transferred, or
its error. -/
def gtSignalDeliver (write : Except Errno ℕ) (sig : BitVec 32) (s : SignalState) : SignalState :=
  let s := { s with delivered := s.delivered ++ [sig] }
  match write with
  | .ok n => { s with pipe := s.pipe ++ (leBytes sig).take n }
  | .error errnum => { s with world := s.world.logs (gtErrorLog "gt_signal_deliver" 182
      [.text "Failed to write signal to pipefd[", .int s.writeEnd, .text "]! errno:", .int errnum,
        .text ", ", .strerror errnum]) }

/-- `gt_signal_ops_read`.  `sig` is what the local variable holds before the call,
`read` the bytes `read` returned, of which the call asks for one. -/
def gtSignalOpsRead (sig : BitVec 32) (read : Except Errno (List UInt8)) (ge : EventPtr)
    (w : World) : Option (ℤ × World) :=
  (w.events ge).map fun _ =>
    match read with
    | .ok (b :: _) =>
        let sig := storeFirst sig b
        if sig ∈ [GtSig.hup.num, GtSig.quit.num, GtSig.usr1.num, GtSig.usr2.num] then
          (gtOk, gtProcessSnap sig w)
        else if sig ∈ [GtSig.ill.num, GtSig.abrt.num, GtSig.bus.num, GtSig.fpe.num,
            GtSig.segv.num, GtSig.sys.num] then
          (gtOk, gtProcessDump sig w)
        else (gtOk, w)
    | .ok [] => (gtOk, w)
    | .error errnum => (gtError, w.logs (gtErrorLog "gt_signal_ops_read" 226
        [.text "Failed to get Signal from pipefd, errno:", .int errnum, .text ", ",
          .strerror errnum]))

/-! ## Deliveries and reads -/

/-- A delivery, or a call of the handler with what its variable holds before and
with the error of `read`, if it fails. -/
inductive SignalOp
  | deliver (sig : BitVec 32)
  | read (fail : Option Errno) (sig : BitVec 32)
  deriving DecidableEq, Repr

/-- Deliveries that write all four bytes, and reads of one byte from the other end.
On an empty pipe a read that does not fail waits, and nothing has happened yet. -/
def signalSystem (ge : EventPtr) : GuardedSystem SignalState SignalOp where
  legal _
    | .deliver sig => sig ∈ registeredSignals
    | .read _ _ => True
  exec s
    | .deliver sig => some (gtSignalDeliver (.ok 4) sig s)
    | .read (some errnum) sig =>
        (gtSignalOpsRead sig (.error errnum) ge s.world).map fun r => { s with world := r.2 }
    | .read none sig =>
        (gtSignalOpsRead sig (.ok (s.pipe.take 1)) ge s.world).map fun r =>
          { s with world := r.2, pipe := s.pipe.drop 1 }

/-- The numbers of the signals that were processed. -/
def processedSignals (s : SignalState) : List (BitVec 32) := s.world.processed.map Prod.snd

/-- The signals processed are a prefix of the signals delivered, and all of them
once the pipe is empty. -/
def InOrder (s : SignalState) : Prop :=
  processedSignals s <+: s.delivered ∧ (s.pipe = [] → processedSignals s = s.delivered)

/-- The condition on a read: when the byte is not zero, the other three bytes of the
variable are. -/
def CleanRead (s : SignalState) : SignalOp → Prop
  | .read none sig => ∀ b rest, s.pipe = b :: rest → b ≠ 0 → sig.extractLsb' 8 24 = 0
  | _ => True

/-! ## One byte -/

/-- A byte as an `int32_t`. -/
def widen (b : UInt8) : BitVec 32 := b.toBitVec.setWidth 32

theorem toNat_storeFirst (x : BitVec 32) (b : UInt8) :
    (storeFirst x b).toNat = (x.extractLsb' 8 24).toNat * 256 + b.toNat := by
  have hb : b.toBitVec.toNat < 2 ^ 8 := b.toBitVec.isLt
  rw [storeFirst, BitVec.toNat_append, ← Nat.shiftLeft_add_eq_or_of_lt hb, Nat.shiftLeft_eq]
  rfl

theorem toNat_widen (b : UInt8) : (widen b).toNat = b.toNat := by
  have hb : b.toBitVec.toNat < 2 ^ 8 := b.toBitVec.isLt
  rw [widen, BitVec.toNat_setWidth, Nat.mod_eq_of_lt (by omega)]
  rfl

/-- Signal numbers fit in a byte and are not zero. -/
theorem registeredSignals_bounds {sig : BitVec 32} (h : sig ∈ registeredSignals) :
    0 < sig.toNat ∧ sig.toNat < 256 := by
  obtain ⟨g, -, rfl⟩ := List.mem_map.mp h
  cases g <;> exact ⟨by decide, by decide⟩

/-- The four bytes of a small number are the number and three zeros. -/
theorem leBytes_of_lt {x : BitVec 32} (h : x.toNat < 256) :
    ∃ b : UInt8, b.toNat = x.toNat ∧ leBytes x = [b, 0, 0, 0] := by
  have hfirst : (UInt8.ofBitVec (x.extractLsb' 0 8)).toNat = x.toNat := by
    rw [UInt8.toNat_ofBitVec, BitVec.extractLsb'_toNat]
    simp [Nat.mod_eq_of_lt h]
  have hzero : ∀ k, 8 ≤ k → x.extractLsb' k 8 = 0 := by
    intro k hk
    apply BitVec.eq_of_toNat_eq
    have hpow : 2 ^ 8 ≤ 2 ^ k := Nat.pow_le_pow_right (by decide) hk
    rw [BitVec.extractLsb'_toNat, Nat.shiftRight_eq_div_pow, Nat.div_eq_of_lt (by omega)]
    rfl
  refine ⟨_, hfirst, ?_⟩
  rw [leBytes, hzero 8 (by decide), hzero 16 (by decide), hzero 24 (by decide)]
  rfl

/-- The four bytes of a signal are its number and three zeros. -/
theorem leBytes_of_registered {sig : BitVec 32} (h : sig ∈ registeredSignals) :
    ∃ b : UInt8, b ≠ 0 ∧ widen b = sig ∧ leBytes sig = [b, 0, 0, 0] := by
  obtain ⟨hpos, hlt⟩ := registeredSignals_bounds h
  obtain ⟨b, hb, hbytes⟩ := leBytes_of_lt hlt
  refine ⟨b, ?_, ?_, hbytes⟩
  · rintro rfl
    rw [UInt8.toNat_zero] at hb
    omega
  · apply BitVec.eq_of_toNat_eq
    rw [toNat_widen, hb]

theorem storeFirst_eq_widen {sig : BitVec 32} (h : sig.extractLsb' 8 24 = 0) (b : UInt8) :
    storeFirst sig b = widen b := by
  apply BitVec.eq_of_toNat_eq
  rw [toNat_storeFirst, toNat_widen, h]
  simp

/-- With leftover bytes, the variable is never the number of a signal; without them
it is the byte. -/
theorem storeFirst_mem_iff (sig : BitVec 32) (b : UInt8) :
    storeFirst sig b ∈ registeredSignals ↔
      sig.extractLsb' 8 24 = 0 ∧ widen b ∈ registeredSignals := by
  by_cases hhigh : sig.extractLsb' 8 24 = 0
  · rw [storeFirst_eq_widen hhigh]
    exact ⟨fun h => ⟨hhigh, h⟩, fun h => h.2⟩
  · refine iff_of_false ?_ (fun h => hhigh h.1)
    intro hmem
    have hlt := (registeredSignals_bounds hmem).2
    have hpos : 0 < (sig.extractLsb' 8 24).toNat := by
      rw [Nat.pos_iff_ne_zero]
      intro hz
      exact hhigh (BitVec.eq_of_toNat_eq (by simpa using hz))
    rw [toNat_storeFirst] at hlt
    omega

/-- **One read.**  The handler acts on the variable exactly when it is the number
of a signal. -/
theorem exists_gtSignalOpsRead_cons {w : World} {ge : EventPtr} {ev : GtEvent}
    (h : w.events ge = some ev) (sig : BitVec 32) (b : UInt8) (rest : List UInt8) :
    ∃ ret w', gtSignalOpsRead sig (.ok (b :: rest)) ge w = some (ret, w') ∧
      w'.events = w.events ∧ w'.processed.map Prod.snd = w.processed.map Prod.snd ++
        if storeFirst sig b ∈ registeredSignals then [storeFirst sig b] else [] := by
  have hsplit : storeFirst sig b ∈ registeredSignals ↔
      storeFirst sig b ∈ [GtSig.hup.num, GtSig.quit.num, GtSig.usr1.num, GtSig.usr2.num] ∨
      storeFirst sig b ∈ [GtSig.ill.num, GtSig.abrt.num, GtSig.bus.num, GtSig.fpe.num,
        GtSig.segv.num, GtSig.sys.num] := by
    rw [← List.mem_append]
    rfl
  simp only [gtSignalOpsRead, h, Option.map_some, hsplit]
  split
  · exact ⟨_, _, rfl, rfl, by simp [gtProcessSnap, World.logs, *]⟩
  · split
    · exact ⟨_, _, rfl, rfl, by simp [gtProcessDump, World.logs, *]⟩
    · exact ⟨_, _, rfl, rfl, by simp [*]⟩

/-! ## The signals that are in the pipe -/

/-- The numbers in the pipe. -/
def pending (pipe : List UInt8) : List (BitVec 32) := (pipe.filter (· ≠ 0)).map widen

/-- The event of the read end is live, and what is in the pipe are signals. -/
structure PipeInv (ge : EventPtr) (s : SignalState) : Prop where
  live : ∃ ev, s.world.events ge = some ev
  bytes : ∀ b ∈ s.pipe, b ≠ 0 → widen b ∈ registeredSignals

/-- The signals that are processed or in the pipe are those from before and the ones
just sent. -/
def Moved (s s' : SignalState) : Prop :=
  ∃ sent, s'.delivered = s.delivered ++ sent ∧
    processedSignals s' ++ pending s'.pipe = processedSignals s ++ pending s.pipe ++ sent

/-- The first signal of the pipe is gone and was not processed. -/
def Lost (s s' : SignalState) : Prop :=
  s'.delivered = s.delivered ∧ processedSignals s' = processedSignals s ∧
    ∃ sig, pending s.pipe = sig :: pending s'.pipe

section Step

variable {ge : EventPtr} {s : SignalState} (h : PipeInv ge s)
include h

/-- A delivery adds its signal at the end of the pipe. -/
theorem exists_deliver {sig : BitVec 32} (hsig : sig ∈ registeredSignals) :
    ∃ s', (signalSystem ge).exec s (.deliver sig) = some s' ∧ PipeInv ge s' ∧ Moved s s' := by
  obtain ⟨b, hb, hwiden, hbytes⟩ := leBytes_of_registered hsig
  have hpipe : (gtSignalDeliver (.ok 4) sig s).pipe = s.pipe ++ [b, 0, 0, 0] := by
    simp [gtSignalDeliver, hbytes]
  refine ⟨_, rfl, ⟨h.live, ?_⟩, [sig], rfl, ?_⟩
  · intro c hc hne
    rw [hpipe, List.mem_append] at hc
    rcases hc with hold | hnew
    · exact h.bytes c hold hne
    · have hcb : c = b := by simpa [hne] using hnew
      rwa [hcb, hwiden]
  · rw [hpipe]
    simp [pending, hb, hwiden, processedSignals, gtSignalDeliver]

/-- A read takes a byte off the pipe. -/
theorem exists_read {b : UInt8} {rest : List UInt8} (hpipe : s.pipe = b :: rest)
    (sig : BitVec 32) :
    ∃ s', (signalSystem ge).exec s (.read none sig) = some s' ∧ PipeInv ge s' ∧
      s'.delivered = s.delivered ∧ s'.pipe = rest ∧
      processedSignals s' = processedSignals s ++
        if b ≠ 0 ∧ sig.extractLsb' 8 24 = 0 then [widen b] else [] := by
  obtain ⟨ev, hev⟩ := h.live
  obtain ⟨ret, w', hread, hevents, hproc⟩ := exists_gtSignalOpsRead_cons hev sig b []
  have hiff : storeFirst sig b ∈ registeredSignals ↔ b ≠ 0 ∧ sig.extractLsb' 8 24 = 0 := by
    rw [storeFirst_mem_iff]
    constructor
    · rintro ⟨hhigh, hmem⟩
      refine ⟨?_, hhigh⟩
      rintro rfl
      exact absurd (registeredSignals_bounds hmem).1 (by decide)
    · rintro ⟨hb, hhigh⟩
      exact ⟨hhigh, h.bytes b (by simp [hpipe]) hb⟩
  refine ⟨{ s with world := w', pipe := rest }, ?_, ⟨⟨ev, hevents ▸ hev⟩, ?_⟩, rfl, rfl, ?_⟩
  · simp [signalSystem, hpipe, hread]
  · intro c hc
    exact h.bytes c (by simp [hpipe, hc])
  · simp only [processedSignals, hproc, hiff]
    congr 1
    by_cases hgood : b ≠ 0 ∧ sig.extractLsb' 8 24 = 0
    · rw [if_pos hgood, if_pos hgood, storeFirst_eq_widen hgood.2]
    · rw [if_neg hgood, if_neg hgood]

/-- **One step.**  It moves a signal along when it is clean, and loses one when it
is not. -/
theorem exists_signalStep {op : SignalOp} (hlegal : (signalSystem ge).legal s op) :
    ∃ s', (signalSystem ge).exec s op = some s' ∧ PipeInv ge s' ∧
      (CleanRead s op → Moved s s') ∧ (¬ CleanRead s op → Lost s s') := by
  cases op with
  | deliver sig =>
      obtain ⟨s', hrun, hinv, hmove⟩ := exists_deliver h hlegal
      exact ⟨s', hrun, hinv, fun _ => hmove, fun hc => absurd trivial hc⟩
  | read fail sig =>
      obtain ⟨ev, hev⟩ := h.live
      cases fail with
      | some errnum =>
          let w' := s.world.logs (gtErrorLog "gt_signal_ops_read" 226
            [.text "Failed to get Signal from pipefd, errno:", .int errnum, .text ", ",
              .strerror errnum])
          refine ⟨{ s with world := w' }, by simp [signalSystem, gtSignalOpsRead, hev, w'],
            ⟨h.live, h.bytes⟩, fun _ => ⟨[], ?_⟩, fun hc => absurd trivial hc⟩
          simp [processedSignals, World.logs, w']
      | none =>
          cases hpipe : s.pipe with
          | nil =>
              have hrun : (signalSystem ge).exec s (.read none sig) =
                  some { s with pipe := [] } := by
                simp [signalSystem, gtSignalOpsRead, hev, hpipe]
              refine ⟨_, hrun, ⟨h.live, by simp⟩, fun _ => ⟨[], ?_⟩, fun hc => ?_⟩
              · simp [processedSignals, hpipe]
              · simp [CleanRead, hpipe] at hc
          | cons b rest =>
              obtain ⟨s', hrun, hinv, hdel, hrest, hproc⟩ := exists_read h hpipe sig
              have hclean : CleanRead s (.read none sig) ↔
                  (b ≠ 0 → sig.extractLsb' 8 24 = 0) := by
                simp [CleanRead, hpipe]
              refine ⟨s', hrun, hinv, ?_, ?_⟩ <;> rw [hclean]
              · intro hc
                refine ⟨[], by simp [hdel], ?_⟩
                by_cases hb : b = 0 <;> simp [hproc, hrest, hpipe, pending, hb, hc]
              · intro hc
                obtain ⟨hb, hhigh⟩ : b ≠ 0 ∧ sig.extractLsb' 8 24 ≠ 0 := by
                  simpa using hc
                refine ⟨hdel, ?_, widen b, ?_⟩
                · rw [hproc, if_neg (fun hg => hhigh hg.2), List.append_nil]
                · simp [hrest, hpipe, pending, hb]

end Step

/-! ## Runs -/

/-- Every delivered signal is processed or in the pipe. -/
def Accounted (s : SignalState) : Prop :=
  processedSignals s ++ pending s.pipe = s.delivered

theorem Accounted.moved {s s' : SignalState} (h : Accounted s) (hm : Moved s s') :
    Accounted s' := by
  obtain ⟨sent, hsent, hmove⟩ := hm
  rw [Accounted, hmove, hsent, h]

theorem Accounted.inOrder {s : SignalState} (h : Accounted s) : InOrder s := by
  refine ⟨⟨_, h⟩, ?_⟩
  intro hpipe
  rw [← h, hpipe]
  simp [pending]

/-- How many delivered signals are neither processed nor in the pipe. -/
def missing (s : SignalState) : ℤ :=
  s.delivered.length - (processedSignals s).length - (pending s.pipe).length

theorem missing_of_moved {s s' : SignalState} (h : Moved s s') : missing s' = missing s := by
  obtain ⟨sent, hsent, hmove⟩ := h
  have hlen := congrArg List.length hmove
  simp only [List.length_append] at hlen
  simp only [missing, hsent, List.length_append]
  omega

theorem missing_of_lost {s s' : SignalState} (h : Lost s s') : missing s' = missing s + 1 := by
  obtain ⟨hsent, hsame, sig, hlost⟩ := h
  simp only [missing, hsent, hsame, hlost, List.length_cons]
  omega

/-- Along a run signals are only ever lost, and one is lost by every read that is
not clean. -/
theorem missing_run {ge : EventPtr} {s s' : SignalState} {ops : List SignalOp}
    (hrun : (signalSystem ge).Run s ops s') : PipeInv ge s →
    missing s ≤ missing s' ∧
      (¬ (signalSystem ge).Meets CleanRead s ops → missing s < missing s') := by
  induction hrun with
  | nil s => exact fun _ => ⟨Int.le_refl _, fun hm => absurd trivial hm⟩
  | @cons s t _ op _ hl he _ ih =>
      intro h
      obtain ⟨t', ht', hinv, hmoved, hlost⟩ := exists_signalStep h hl
      obtain rfl : t = t' := Option.some.inj (he.symm.trans ht')
      obtain ⟨hle, hlt⟩ := ih hinv
      rw [GuardedSystem.meets_cons_iff hl he]
      by_cases hc : CleanRead s op
      · rw [missing_of_moved (hmoved hc)] at hle hlt
        exact ⟨hle, fun hm => hlt (fun hrest => hm ⟨hc, hrest⟩)⟩
      · rw [missing_of_lost (hlost hc)] at hle
        exact ⟨by omega, fun _ => by omega⟩

/-- **When signals are processed in order.**  From a pipe through which nothing was
sent yet, in every interleaving of deliveries and reads: while all reads are
clean, the signals processed are a prefix of the signals delivered, and all of
them whenever the pipe is empty.  A run that ends with an empty pipe has processed
all signals only if all its reads were clean. -/
theorem signals_processed_in_order {ge : EventPtr} {s : SignalState} {ev : GtEvent}
    (hlive : s.world.events ge = some ev) (hpipe : s.pipe = []) (hdel : s.delivered = [])
    (hproc : s.world.processed = []) (ops : List SignalOp) :
    ((signalSystem ge).Meets CleanRead s ops →
      (signalSystem ge).Always (fun _ _ s' => InOrder s') s ops) ∧
    ∀ s', (signalSystem ge).Run s ops s' → s'.pipe = [] →
      (processedSignals s' = s'.delivered ↔ (signalSystem ge).Meets CleanRead s ops) := by
  have hinv : PipeInv ge s := ⟨⟨ev, hlive⟩, by simp [hpipe]⟩
  have hacc : Accounted s := by simp [Accounted, processedSignals, hpipe, hdel, hproc, pending]
  constructor
  · refine GuardedSystem.always_of_meets (I := fun s => PipeInv ge s ∧ Accounted s) ?_ ops s
      ⟨hinv, hacc⟩
    rintro t op ⟨h, ha⟩ hl hc
    obtain ⟨t', hrun, h', hmoved, -⟩ := exists_signalStep h hl
    exact ⟨t', hrun, (ha.moved (hmoved hc)).inOrder, h', ha.moved (hmoved hc)⟩
  · intro s' hrun hempty
    constructor
    · intro heq
      by_contra hm
      have hlt := (missing_run hrun hinv).2 hm
      have hzero : missing s = 0 := by
        simp [missing, hdel, hpipe, pending, processedSignals, hproc]
      have hzero' : missing s' = 0 := by simp [missing, heq, hempty, pending]
      omega
    · intro hm
      have h' := hrun.invariant_of_meets (I := fun s => PipeInv ge s ∧ Accounted s) ?_ hm
        ⟨hinv, hacc⟩
      · exact h'.2.inOrder.2 hempty
      · rintro t op u ⟨h, ha⟩ hl hc he
        obtain ⟨t', ht', hinv', hmoved, -⟩ := exists_signalStep h hl
        obtain rfl : u = t' := Option.some.inj (he.symm.trans ht')
        exact ⟨hinv', ha.moved (hmoved hc)⟩

/-- A pipe between descriptors 5 and 4, with an event for the read end. -/
def signalPipeReady : SignalState where
  world :=
    { World.boot with
      events := Function.update World.boot.events 1
        (some ⟨4, ⟨some .gtSignalOpsRead, none⟩, ⟨epollin, some 1⟩, .core⟩) }
  writeEnd := 5
  pipe := []
  delivered := []

/-- `SIGUSR1` is delivered and read into a variable that holds zero; the next byte
is read into one that does not. -/
theorem signals_processed_in_order_usr1 :
    (signalSystem 1).Always (fun _ _ s' => InOrder s') signalPipeReady
      [.deliver GtSig.usr1.num, .read none 0, .read none 0xdeadbeef] := by
  have hlive : signalPipeReady.world.events 1 =
      some ⟨4, ⟨some .gtSignalOpsRead, none⟩, ⟨epollin, some 1⟩, .core⟩ := rfl
  refine (signals_processed_in_order hlive rfl rfl rfl _).1 ?_
  intro _
  refine ⟨trivial, ?_⟩
  intro s₁ h₁ _
  refine ⟨fun _ _ _ _ => by decide, ?_⟩
  intro s₂ h₂ _
  refine ⟨?_, fun _ _ => trivial⟩
  intro b rest hpipe hb
  cases h₁
  cases h₂
  cases hpipe
  exact absurd rfl hb

/-- `SIGUSR1` is delivered and the pipe drained, the first byte being read into a
variable whose second byte is not zero: no function is called for the signal. -/
theorem leftover_byte_loses_usr1 :
    ∃ s', (signalSystem 1).Run signalPipeReady
        [.deliver GtSig.usr1.num, .read none 0x100, .read none 0, .read none 0, .read none 0] s' ∧
      s'.pipe = [] ∧ s'.delivered = [GtSig.usr1.num] ∧ s'.world.processed = [] ∧ ¬ InOrder s' := by
  have hlegal : GtSig.usr1.num ∈ registeredSignals := List.mem_map_of_mem (by decide)
  refine ⟨_, .cons hlegal rfl (.cons trivial rfl (.cons trivial rfl (.cons trivial rfl
    (.cons trivial rfl (.nil _))))), rfl, rfl, rfl, ?_⟩
  intro h
  exact absurd (h.2 rfl) (by decide)

end GuitarTea
