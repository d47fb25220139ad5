import GuitarTea.Ownership
import Mathlib.Data.List.Perm.Subperm

/-!
# How connections are spread

`gt_network_round_dispatch` picks the datanet thread by the descriptor of the connection,
modulo the number of threads.  There is no counter, so nothing else matters: neither the
order of the connections nor how many a thread has already.

A descriptor is therefore always served by the same thread, also when its number is used
again, and a limit on descriptors is a limit on the events of each poller.  But the load
may be as uneven as that limit allows.

## Main definitions

* `Sharded` — every connection is where its descriptor says.
* `HandlerOp.Below` — the limit on descriptors.
* `TakesLowest` — the descriptors a kernel gives.

## Main results

* `shards_bounded` — along every run, and with it the load of each poller.
* `shards_skewed` — all connections on one thread.
-/

namespace GuitarTea

/-! ## The residues -/

/-- Numbers below a limit with the same residue. -/
theorem length_le_of_mod {n r i : ℕ} (hi : i < n) {l : List ℕ} (hl : l.Nodup)
    (hlt : ∀ x ∈ l, x < r) (hmod : ∀ x ∈ l, x % n = i) : l.length ≤ (r + (n - 1 - i)) / n := by
  have hinj : ∀ x ∈ l, ∀ y ∈ l, x / n = y / n → x = y := by
    intro x hx y hy hxy
    rw [← Nat.div_add_mod x n, ← Nat.div_add_mod y n, hxy, hmod x hx, hmod y hy]
  have hrange : l.map (· / n) ⊆ List.range ((r + (n - 1 - i)) / n) := by
    intro q hq
    obtain ⟨x, hx, rfl⟩ := List.mem_map.mp hq
    have hxr := hlt x hx
    have hdiv : n * (x / n) + i = x := by
      rw [← hmod x hx, Nat.div_add_mod]
    rw [List.mem_range, Nat.lt_iff_add_one_le, Nat.le_div_iff_mul_le (by omega)]
    have hmul : (x / n + 1) * n = n * (x / n) + n := by
      rw [Nat.add_mul, Nat.one_mul, Nat.mul_comm]
    omega
  have hsub := (hl.map_on hinj).subperm hrange
  simpa using hsub.length_le

/-- The thread of a descriptor. -/
theorem val_datanetIdx {fd : ℤ} (h : 0 ≤ fd) : (datanetIdx fd : ℕ) = fd.toNat % 4 := by
  simp only [datanetIdx, toSizeT]
  omega

/-! ## The invariant -/

/-- The events of a datanet poller, and what is registered with it, are those whose
descriptors belong to it. -/
structure Sharded (w : World) : Prop where
  event : ∀ ge ev i, w.events ge = some ev → ev.gpoller = .datanet i → datanetIdx ev.efd = i
  registered : ∀ i fd, w.kernel.sets (w.datanetEpfd i) fd ≠ none → datanetIdx fd = i

/-- The descriptor `accept` returns is below the limit. -/
def HandlerOp.Below (r : ℕ) : HandlerOp → Prop
  | .accept a => ∀ cfd, a.accept = .ok cfd → 0 ≤ cfd ∧ cfd < r
  | .read _ _ _ _ _ => True

/-- What holds between calls. -/
structure ShardInv (lge : EventPtr) (r : ℕ) (w : World) : Prop where
  conn : ConnInv lge w
  event : ∀ ge ev i, w.events ge = some ev → ev.gpoller = .datanet i →
    datanetIdx ev.efd = i ∧ 0 ≤ ev.efd ∧ ev.efd < r

/-- The descriptor of an event. -/
def World.efdOf (w : World) (ge : EventPtr) : ℕ :=
  match w.events ge with
  | some ev => ev.efd.toNat
  | none => 0

section Steps

variable {lge : EventPtr} {r : ℕ} {w w' : World}

/-- A registration leads to an event. -/
theorem ShardInv.sharded (h : ShardInv lge r w) : Sharded w where
  event ge ev i hev hp := (h.event ge ev i hev hp).1
  registered i fd hne := by
    obtain ⟨e, he⟩ := Option.ne_none_iff_exists'.mp hne
    obtain ⟨ge, ev, -, hev, rfl, hp⟩ := h.conn.registered i fd e he
    exact (h.event ge ev i hev hp).1

/-- Calls that create no event. -/
theorem ShardInv.mono (h : ShardInv lge r w) (h' : ConnInv lge w')
    (hevents : ∀ ge ev, w'.events ge = some ev → w.events ge = some ev) : ShardInv lge r w' :=
  ⟨h', fun ge ev i hev hp => h.event ge ev i (hevents ge ev hev) hp⟩

/-- **One call**, whatever the answers. -/
theorem ShardInv.step {op : HandlerOp} (h : ShardInv lge r w) (hl : (handlerSystem lge).legal w op)
    (hop : op.Below r) :
    ∃ w', (handlerSystem lge).exec w op = some w' ∧ ShardInv lge r w' := by
  cases op with
  | read ge errno read ctl ctl' =>
      obtain ⟨ev, hconn⟩ := hl
      obtain ⟨ret, w', hrun, hcases⟩ := h.conn.exists_gtDatanetOpsRead hconn errno read ctl ctl'
      refine ⟨w', by simp only [handlerSystem, hrun, Option.map_some], ?_⟩
      rcases hcases with ⟨-, -, rfl | ⟨c, rfl⟩⟩ | ⟨-, -, hd⟩
      · exact h
      · exact h.mono (h.conn.congr rfl rfl rfl rfl) fun _ _ hev => hev
      · refine h.mono (h.conn.destroyed hconn hd) fun g e hg => ?_
        rw [hd.events_eq] at hg
        by_cases hgge : g = ge
        · simp [hgge] at hg
        · rwa [Function.update_of_ne hgge] at hg
  | accept a =>
      obtain ⟨ret, w', hrun, ho⟩ := h.conn.exists_gtNetworkOpsRead a
      have h' := h.conn.outcome hl ho
      refine ⟨w', by simp only [handlerSystem, hrun, Option.map_some], ?_⟩
      cases ho with
      | none errnum haccept hret hw' =>
          obtain rfl | ⟨c, rfl⟩ := hw'
          · exact h
          · exact h.mono h' fun _ _ hev => hev
      | closed cfd c haccept hopts hret hw' =>
          subst hw'
          exact h.mono h' fun _ _ hev => hev
      | noMemory cfd log haccept hopts hmalloc hret hw' =>
          subst hw'
          exact h.mono h' fun _ _ hev => hev
      | dispatched cfd ge haccept hopts hmalloc hret hd =>
          refine ⟨h', fun g e i hg hp => ?_⟩
          rw [hd.events_eq] at hg
          by_cases hgge : g = ge
          · obtain rfl : connEvent cfd ge = e := by simpa [hgge] using hg
            exact ⟨PollerId.datanet.inj hp, hop cfd haccept⟩
          · rw [Function.update_of_ne hgge] at hg
            exact h.event g e i hg hp

end Steps

/-- The descriptors of the events of a poller are different numbers with its residue. -/
theorem ShardInv.length_le {lge : EventPtr} {r : ℕ} {w : World} (h : ShardInv lge r w) {i : Fin 4}
    {l : List EventPtr} (hl : l.Nodup) (hlive : ∀ ge ∈ l, w.LiveOn (.datanet i) ge) :
    l.length ≤ (r + (3 - (i : ℕ))) / 4 := by
  have hfd : ∀ ge ∈ l, ∃ ev, w.events ge = some ev ∧ w.efdOf ge = ev.efd ∧
      w.efdOf ge < r ∧ w.efdOf ge % 4 = (i : ℕ) := by
    intro ge hge
    obtain ⟨ev, hev, hp⟩ := hlive ge hge
    obtain ⟨hidx, hnonneg, hlt⟩ := h.event ge ev i hev hp
    have hefd : w.efdOf ge = ev.efd.toNat := by simp [World.efdOf, hev]
    have hres := val_datanetIdx hnonneg
    rw [hidx] at hres
    exact ⟨ev, hev, by omega, by omega, by rw [hefd, hres]⟩
  have hinj : ∀ ge ∈ l, ∀ ge' ∈ l, w.efdOf ge = w.efdOf ge' → ge = ge' := by
    intro ge hge ge' hge' heq
    obtain ⟨ev, hev, hefd, -⟩ := hfd ge hge
    obtain ⟨ev', hev', hefd', -⟩ := hfd ge' hge'
    exact h.conn.efd_inj ge ge' ev ev' hev hev' (by omega)
  have hlen := length_le_of_mod (n := 4) (r := r) i.isLt (hl.map_on hinj) ?_ ?_
  · simpa using hlen
  · intro x hx
    obtain ⟨ge, hge, rfl⟩ := List.mem_map.mp hx
    obtain ⟨-, -, -, hlt, -⟩ := hfd ge hge
    exact hlt
  · intro x hx
    obtain ⟨ge, hge, rfl⟩ := List.mem_map.mp hx
    obtain ⟨-, -, -, -, hmod⟩ := hfd ge hge
    exact hmod

/-- **The load of the pollers.**  From a server that has accepted nothing yet, along every
run of the handlers with descriptors below a limit, whatever the other answers are: every
connection is on the poller its descriptor says, and so is every registration, and no
poller ever has more events than there are descriptors with its residue. -/
theorem shards_bounded {lge : EventPtr} {w : World} (h : ServerReady lge w) {r : ℕ}
    (ops : List HandlerOp) (hops : ∀ op ∈ ops, op.Below r) :
    (handlerSystem lge).Always (fun _ _ w' => Sharded w' ∧
      ∀ (i : Fin 4) (l : List EventPtr), l.Nodup → (∀ ge ∈ l, w'.LiveOn (.datanet i) ge) →
        l.length ≤ (r + (3 - (i : ℕ))) / 4) w ops := by
  have hinv : ShardInv lge r w :=
    ⟨h.connInv, fun ge ev i hev hp => absurd ⟨hev, i, hp⟩ (h.no_conn ge ev)⟩
  refine GuardedSystem.always_of_meets (C := fun _ op => op.Below r) ?_ ops w hinv
    (GuardedSystem.meets_of_forall (fun op hop _ => hops op hop) w)
  intro w op hinv hl hop
  obtain ⟨w', he, hinv'⟩ := hinv.step hl hop
  exact ⟨w', he, ⟨hinv'.sharded, fun i l hnodup hlive => hinv'.length_le hnodup hlive⟩, hinv'⟩

/-- With 1024 descriptors, the usual limit of a process, no poller has more than 256
events. -/
theorem shards_bounded_connect12 :
    (handlerSystem 1).Always (fun _ _ w' => Sharded w' ∧
      ∀ (i : Fin 4) (l : List EventPtr), l.Nodup → (∀ ge ∈ l, w'.LiveOn (.datanet i) ge) →
        l.length ≤ (1024 + (3 - (i : ℕ))) / 4) serverReady
      [.accept connect12, .read 2 0 (.ok []) none none] := by
  refine shards_bounded serverReady_ready _ ?_
  intro op hop
  obtain rfl | rfl : op = .accept connect12 ∨ op = .read 2 0 (.ok []) none none := by
    simpa using hop
  · rintro cfd hcfd
    obtain rfl : 12 = cfd := Except.ok.inj hcfd
    decide
  · trivial

/-! ## How uneven the load can be -/

/-- The kernel's rule: `accept` returns the lowest descriptor that is free. -/
def TakesLowest (w : World) : HandlerOp → Prop
  | .accept a => ∀ cfd, a.accept = .ok cfd → ∀ fd, 0 ≤ fd → fd < cfd → w.kernel.files fd ≠ none
  | .read _ _ _ _ _ => True

/-- A connection on a descriptor, with its event at the address of the same number. -/
def connectOn (n : ℕ) : AcceptAnswers :=
  { accept := .ok n
    sAddr := 0
    sinPort := 0
    setsockopt := none
    setfl := none
    malloc := some n
    ctl := none }

/-- The server has the connections of these descriptors and no others. -/
structure Serving (conns : ℕ → Prop) (w : World) : Prop where
  conn : ConnInv 1 w
  /-- The server itself has the first ten. -/
  above : ∀ n, conns n → 10 ≤ n
  files : ∀ n : ℕ, w.kernel.files n ≠ none ↔ n < 10 ∨ conns n
  live : ∀ n, conns n → w.events n = some (connEvent n n)
  dead : ∀ n, ¬ conns n → n ≠ 1 → w.events n = none

theorem serving_serverReady : Serving (fun _ => False) serverReady where
  conn := serverReady_ready.connInv
  above _ h := h.elim
  files n := by
    simp only [serverReady, World.boot, Kernel.openFile, Kernel.files_epollCtl,
      Function.update_apply, or_false]
    split_ifs <;> simp <;> omega
  live _ h := h.elim
  dead n _ hn := by simp [serverReady, World.boot, hn]

section Serving

variable {conns : ℕ → Prop} {w : World} (h : Serving conns w)
include h

/-- The event of the listening socket is another one. -/
theorem Serving.liveOn_iff {i : Fin 4} {ge : EventPtr} :
    w.LiveOn (.datanet i) ge ↔ conns ge ∧ ge % 4 = (i : ℕ) := by
  constructor
  · rintro ⟨ev, hev, hp⟩
    by_cases hc : conns ge
    · obtain rfl : connEvent ge ge = ev := Option.some.inj ((h.live ge hc).symm.trans hev)
      obtain rfl := PollerId.datanet.inj hp
      exact ⟨hc, (val_datanetIdx (Int.natCast_nonneg ge)).symm⟩
    · by_cases hge : ge = 1
      · obtain ⟨lev, hlev, hnet⟩ := h.conn.listening
        obtain rfl : lev = ev := Option.some.inj (hlev.symm.trans (hge ▸ hev))
        rw [hnet] at hp
        cases hp
      · rw [h.dead ge hc hge] at hev
        cases hev
  · rintro ⟨hc, hi⟩
    refine ⟨connEvent ge ge, h.live ge hc, congrArg PollerId.datanet (Fin.ext ?_)⟩
    rw [val_datanetIdx (Int.natCast_nonneg ge), Int.toNat_natCast, hi]

/-- A connection on the lowest descriptor that is free. -/
theorem Serving.accept {n : ℕ} (hn : 10 ≤ n) (hnot : ¬ conns n)
    (hlow : ∀ m, 10 ≤ m → m < n → conns m) :
    ∃ w', (handlerSystem 1).legal w (.accept (connectOn n)) ∧
      (handlerSystem 1).exec w (.accept (connectOn n)) = some w' ∧
      TakesLowest w (.accept (connectOn n)) ∧ Serving (fun m => m = n ∨ conns m) w' := by
  have hfree : w.kernel.files n = none := by
    by_contra hne
    rcases (h.files n).mp hne with hlt | hc
    · omega
    · exact hnot hc
  have hfresh : w.events n = none := h.dead n hnot (by omega)
  have hl : LegalAnswers (connectOn n) w :=
    ⟨fun cfd hcfd => by obtain rfl := Except.ok.inj hcfd; exact hfree,
      fun ge hge => by obtain rfl := Option.some.inj hge; exact hfresh⟩
  obtain ⟨ret, w', hrun, ho⟩ := h.conn.exists_gtNetworkOpsRead (connectOn n)
  have h' := h.conn.outcome hl ho
  refine ⟨w', hl, by simp only [handlerSystem, hrun, Option.map_some], ?_, ?_⟩
  · rintro cfd hcfd fd hnonneg hlt
    obtain rfl : (n : ℤ) = cfd := Except.ok.inj hcfd
    obtain ⟨m, rfl⟩ := Int.eq_ofNat_of_zero_le hnonneg
    refine (h.files m).mpr ?_
    by_cases hm : m < 10
    · exact .inl hm
    · exact .inr (hlow m (by omega) (by omega))
  · cases ho with
    | none errnum haccept => cases haccept
    | closed cfd c haccept hopts => simp [connectOn] at hopts
    | noMemory cfd log haccept hopts hmalloc => cases hmalloc
    | dispatched cfd ge haccept hopts hmalloc hret hd =>
        obtain rfl : (n : ℤ) = cfd := Except.ok.inj haccept
        obtain rfl : n = ge := Option.some.inj hmalloc
        refine ⟨h', ?_, ?_, ?_, ?_⟩
        · rintro m (rfl | hm)
          · exact hn
          · exact h.above m hm
        · intro m
          rw [hd.sameBut.files_eq, Kernel.files_accept]
          by_cases hm : m = n
          · simp [hm]
          · have hne : (m : ℤ) ≠ n := by exact_mod_cast hm
            rw [Function.update_of_ne hne, h.files m]
            simp [hm]
        · rintro m hm
          rw [hd.events_eq]
          by_cases hmn : m = n
          · simp [hmn]
          · rw [Function.update_of_ne hmn]
            exact h.live m (hm.resolve_left hmn)
        · intro m hm hne
          obtain ⟨hmn, hm⟩ := not_or.mp hm
          rw [hd.events_eq, Function.update_of_ne hmn]
          exact h.dead m hm hne

/-- A connection that its peer closes. -/
theorem Serving.close {n : ℕ} (hn : conns n) :
    ∃ w', (handlerSystem 1).legal w (.read n 0 (.ok []) none none) ∧
      (handlerSystem 1).exec w (.read n 0 (.ok []) none none) = some w' ∧
      Serving (fun m => conns m ∧ m ≠ n) w' := by
  have hc : w.IsConn n (connEvent n n) := ⟨h.live n hn, _, rfl⟩
  obtain ⟨ret, w', hrun, hcases⟩ := h.conn.exists_gtDatanetOpsRead hc 0 (.ok []) none none
  refine ⟨w', ⟨_, hc⟩, by simp only [handlerSystem, hrun, Option.map_some], ?_⟩
  rcases hcases with ⟨hkeeps, -⟩ | ⟨-, -, hd⟩
  · exact absurd ⟨rfl, by decide⟩ hkeeps
  · refine ⟨h.conn.destroyed hc hd, fun m hm => h.above m hm.1, ?_, ?_, ?_⟩
    · intro m
      rw [hd.kernel_agrees.files_eq, Kernel.files_close]
      by_cases hm : m = n
      · subst hm
        have habove := h.above m hn
        simp [connEvent]
        omega
      · have hne : (m : ℤ) ≠ n := by exact_mod_cast hm
        rw [connEvent, Function.update_of_ne hne, h.files m]
        simp [hm]
    · rintro m ⟨hm, hmn⟩
      rw [hd.events_eq, Function.update_of_ne hmn]
      exact h.live m hm
    · intro m hm hne
      rw [hd.events_eq]
      by_cases hmn : m = n
      · simp [hmn]
      · rw [Function.update_of_ne hmn]
        exact h.dead m (fun hc => hm ⟨hc, hmn⟩) hne

theorem Serving.congr {conns' : ℕ → Prop} (hiff : ∀ n, conns' n ↔ conns n) : Serving conns' w := by
  obtain rfl : conns' = conns := funext fun n => propext (hiff n)
  exact h

end Serving

/-- Connections one after the other. -/
theorem Serving.fill {n : ℕ} (hn : 10 ≤ n) (k : ℕ) {w : World}
    (h : Serving (fun m => 10 ≤ m ∧ m < n) w) :
    ∃ ops w', (handlerSystem 1).Run w ops w' ∧ (handlerSystem 1).Meets TakesLowest w ops ∧
      (∀ op ∈ ops, op.Below (n + k)) ∧ Serving (fun m => 10 ≤ m ∧ m < n + k) w' := by
  induction k generalizing n w with
  | zero => exact ⟨[], w, .nil w, trivial, by simp, h⟩
  | succ k ih =>
      obtain ⟨w₁, hl, he, hlow, h₁⟩ := h.accept hn (by omega) (fun m hm hlt => ⟨hm, hlt⟩)
      have hnext : Serving (fun m => 10 ≤ m ∧ m < n + 1) w₁ := h₁.congr fun m => by omega
      obtain ⟨ops, w', hrun, hmeets, hbelow, h'⟩ := ih (by omega) hnext
      refine ⟨_, w', .cons hl he hrun, (GuardedSystem.meets_cons_iff hl he).mpr ⟨hlow, hmeets⟩,
        ?_, h'.congr fun m => by omega⟩
      rw [show n + (k + 1) = n + 1 + k by omega]
      refine List.forall_mem_cons.mpr ⟨?_, hbelow⟩
      rintro cfd ⟨⟩
      omega

/-- The connections of a list are closed one after the other. -/
theorem Serving.drain {conns : ℕ → Prop} {l : List ℕ} (hl : l.Nodup) {w : World}
    (h : Serving conns w) (hmem : ∀ n ∈ l, conns n) :
    ∃ ops w', (handlerSystem 1).Run w ops w' ∧ (handlerSystem 1).Meets TakesLowest w ops ∧
      (∀ r, ∀ op ∈ ops, op.Below r) ∧ Serving (fun m => conns m ∧ m ∉ l) w' := by
  induction l generalizing conns w with
  | nil => exact ⟨[], w, .nil w, trivial, by simp, h.congr fun m => by simp⟩
  | cons n l ih =>
      obtain ⟨hnot, hl⟩ := List.nodup_cons.mp hl
      obtain ⟨w₁, hlegal, he, h₁⟩ := h.close (hmem n List.mem_cons_self)
      obtain ⟨ops, w', hrun, hmeets, hbelow, h'⟩ := ih hl h₁ fun m hm => by
        refine ⟨hmem m (List.mem_cons_of_mem n hm), ?_⟩
        rintro rfl
        exact hnot hm
      refine ⟨_, w', .cons hlegal he hrun,
        (GuardedSystem.meets_cons_iff hlegal he).mpr ⟨trivial, hmeets⟩,
        fun r => List.forall_mem_cons.mpr ⟨trivial, hbelow r⟩, h'.congr fun m => ?_⟩
      rw [List.mem_cons]
      tauto

/-- **All connections on one thread.**  For each thread and each number `k` there is a run in
which `accept` always returns the lowest free descriptor, and never one from `10 + 4 * k` on,
after which this thread has `k` connections and the others have none. -/
theorem shards_skewed (i : Fin 4) (k : ℕ) :
    ∃ ops w, (handlerSystem 1).Run serverReady ops w ∧
      (handlerSystem 1).Meets TakesLowest serverReady ops ∧
      (∀ op ∈ ops, op.Below (10 + 4 * k)) ∧
      (∃ l : List EventPtr, l.Nodup ∧ l.length = k ∧ ∀ ge, w.LiveOn (.datanet i) ge ↔ ge ∈ l) ∧
      ∀ j ≠ i, ∀ ge, ¬ w.LiveOn (.datanet j) ge := by
  have hempty : Serving (fun m => 10 ≤ m ∧ m < 10) serverReady :=
    serving_serverReady.congr fun m => iff_of_false (by omega) id
  obtain ⟨ops, w, hrun, hmeets, hbelow, hfull⟩ := hempty.fill (Nat.le_refl 10) (4 * k)
  let others := (List.range' 10 (4 * k)).filter fun m : ℕ => m % 4 ≠ (i : ℕ)
  have hothers : others.Nodup := (List.nodup_range' (s := 10)).filter _
  obtain ⟨ops', w', hrun', hmeets', hbelow', hserving⟩ := hfull.drain hothers fun n hn => by
    simpa using (List.mem_filter.mp hn).1
  have hconns : ∀ m, ((10 ≤ m ∧ m < 10 + 4 * k) ∧ m ∉ others) ↔
      (10 ≤ m ∧ m < 10 + 4 * k) ∧ m % 4 = (i : ℕ) := by
    intro m
    simp only [others, List.mem_filter, List.mem_range'_1, decide_eq_true_eq]
    tauto
  let first : ℕ := 10 + ((i : ℕ) + 2) % 4
  have hinj : Function.Injective fun q : ℕ => first + 4 * q := by
    intro p q hpq
    have hpq : first + 4 * p = first + 4 * q := hpq
    omega
  have hmem : ∀ m : ℕ, m ∈ (List.range k).map (fun q : ℕ => first + 4 * q) ↔
      (10 ≤ m ∧ m < 10 + 4 * k) ∧ m % 4 = (i : ℕ) := by
    intro m
    have hi := i.isLt
    rw [List.mem_map]
    constructor
    · rintro ⟨q, hq, rfl⟩
      rw [List.mem_range] at hq
      simp only [first]
      omega
    · intro hm
      refine ⟨(m - first) / 4, List.mem_range.mpr ?_, ?_⟩ <;> simp only [first] <;> omega
  refine ⟨ops ++ ops', w', hrun.append hrun', hrun.meets_append hmeets hmeets', ?_, ?_, ?_⟩
  · exact List.forall_mem_append.mpr ⟨hbelow, hbelow' _⟩
  · refine ⟨_, List.nodup_range.map hinj, (List.length_map _).trans List.length_range, ?_⟩
    intro ge
    rw [hserving.liveOn_iff, hconns, hmem]
    tauto
  · intro j hj ge hlive
    obtain ⟨hc, hmod⟩ := hserving.liveOn_iff.mp hlive
    exact hj (Fin.ext (hmod.symm.trans ((hconns ge).mp hc).2))

end GuitarTea
