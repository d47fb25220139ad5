import GuitarTea.InitSystem
import GuitarTea.Lib.CString

/-!
# The address the server binds to

The address goes from the command line through `inet_aton` and `ntohl` to a
`uint32_t`, as an `int32_t` to `gt_network_listenning` and through `htonl` to the
`sockaddr_in` that `bind` gets: the two swaps of the bytes cancel.

The port goes through `atoi` to a `uint16_t`.  `gt_parse_parameters` rejects an
address that `inet_aton` does not know, but it takes what `atoi` makes of any text,
and the upper half of the number is dropped.

## Main definitions

* `atoi` — the function of the C library.
* `bindCalls` — the calls of `bind` in `gt_network_listenning`.
* `BindsAsGiven` — what was given is a port, and the server binds to it.
-/

namespace GuitarTea

open CString

/-- `atoi`: the number at the front of a string, as an `int`. -/
def atoi (s : List UInt8) : ℤ := toInt32 (strtol s)

/-- The calls of `bind` in `gt_network_listenning`: one, unless there is no socket to
bind. -/
def bindCalls (a : ListenAnswers) (saddr : SockaddrIn) : List (ℤ × SockaddrIn) :=
  match a.socket, a.setsockopt with
  | .ok lfd, none => [(lfd, saddr)]
  | _, _ => []

/-- If `gt_parse_parameters` accepts an address and a port, the port is a decimal number
up to 65535, and what `gt_network_listenning` then passes to `bind` has the address
of `inet_aton` and that port, whatever its calls answer.  If it does not, the
globals are what they were. -/
def BindsAsGiven (inetAton : List UInt8 → Option (BitVec 32)) (argv0 argv1 argv2 : List UInt8)
    (rest : List (List UInt8)) (g : ServerAddr) : Prop :=
  let r := gtParseParameters inetAton atoi (argv0 :: argv1 :: argv2 :: rest) g
  (r.1 = gtOk → ∃ addr p, inetAton argv1 = some addr ∧ IsDecimal argv2 p ∧ p ≤ 65535 ∧
    ∀ a s ret s', gtNetworkListenning a r.2.1.gGtServerIp (r.2.1.gGtServerPort.setWidth 32) s =
        some (ret, s') →
      s'.bound = s.bound ++ bindCalls a ⟨afInet, htons (BitVec.ofNat 16 p), addr⟩) ∧
  (r.1 = gtError → r.2.1 = g)

/-! ## Byte orders -/

/-- Each byte goes to the other end, with its bits in order. -/
theorem getLsbD_ntohl (x : BitVec 32) {i : ℕ} (hi : i < 32) :
    (ntohl x).getLsbD i = x.getLsbD (24 - i / 8 * 8 + i % 8) := by
  simp only [ntohl, BitVec.getLsbD_append, BitVec.getLsbD_extractLsb']
  obtain h | h | h | h : i / 8 = 0 ∨ i / 8 = 1 ∨ i / 8 = 2 ∨ i / 8 = 3 := by omega
  · grind
  · grind
  · grind
  · grind

/-- Swapping the bytes twice changes nothing. -/
theorem htonl_ntohl (x : BitVec 32) : htonl (ntohl x) = x := by
  apply BitVec.eq_of_getLsbD_eq
  intro i hi
  rw [htonl, getLsbD_ntohl _ hi, getLsbD_ntohl _ (by omega)]
  congr 1
  omega

/-! ## The calls of `bind` -/

theorem bound_listenStarted (lfd : ℤ) (started : Option ℤ) (s : InitState) :
    (listenStarted lfd started s).2.bound = s.bound := by
  cases started with
  | none => rfl
  | some ret =>
      rw [listenStarted]
      split <;> rfl

/-- Whatever the calls of `gt_network_listenning` answer, this is what `bind` gets. -/
theorem bound_gtNetworkListenning {a : ListenAnswers} {ip port : BitVec 32} {s s' : InitState}
    {ret : ℤ} (h : gtNetworkListenning a ip port s = some (ret, s')) :
    s'.bound = s.bound ++ bindCalls a ⟨afInet, htons (port.setWidth 16), htonl ip⟩ := by
  obtain ⟨socket, setsockopt, bind, listen, event⟩ := a
  cases socket with
  | error errnum =>
      obtain ⟨-, rfl⟩ := Prod.mk.inj (Option.some.inj h)
      exact (List.append_nil s.bound).symm
  | ok lfd =>
      cases setsockopt with
      | some errnum =>
          obtain ⟨-, rfl⟩ := Prod.mk.inj (Option.some.inj h)
          exact (List.append_nil s.bound).symm
      | none =>
          cases bind with
          | some errnum =>
              obtain ⟨-, rfl⟩ := Prod.mk.inj (Option.some.inj h)
              rfl
          | none =>
              cases listen with
              | some errnum =>
                  obtain ⟨-, rfl⟩ := Prod.mk.inj (Option.some.inj h)
                  rfl
              | none =>
                  simp only [gtNetworkListenning, Option.bind_eq_bind,
                    Option.bind_eq_some_iff] at h
                  obtain ⟨⟨started, w⟩, -, hend⟩ := h
                  have hs' : (listenStarted lfd started _).2 = s' :=
                    congrArg Prod.snd (Option.some.inj hend)
                  rw [← hs', bound_listenStarted]
                  rfl

/-! ## The port -/

/-- A decimal number up to 65535 is what `atoi` returns. -/
theorem atoi_of_isDecimal {s : List UInt8} {p : ℕ} (h : IsDecimal s p) (hp : p ≤ 65535) :
    atoi s = p := by
  rw [atoi, strtol_of_isDecimal h, min_eq_left (by omega), toInt32_of_range (by omega) (by omega)]

/-- **When the server binds to what it was given.**  For every command line with an address
and a port, and every `inet_aton`: exactly when the address is rejected or the port
is a decimal number up to 65535. -/
theorem bindsAsGiven_iff (inetAton : List UInt8 → Option (BitVec 32))
    (argv0 argv1 argv2 : List UInt8) (rest : List (List UInt8)) (g : ServerAddr) :
    BindsAsGiven inetAton argv0 argv1 argv2 rest g ↔
      inetAton argv1 = none ∨ ∃ p, IsDecimal argv2 p ∧ p ≤ 65535 := by
  cases haddr : inetAton argv1 with
  | none =>
      refine iff_of_true ?_ (.inl rfl)
      simp [BindsAsGiven, gtParseParameters, haddr, gtError, gtOk]
  | some addr =>
      have hrun : gtParseParameters inetAton atoi (argv0 :: argv1 :: argv2 :: rest) g =
          (gtOk, ⟨ntohl addr, BitVec.ofInt 16 (atoi argv2)⟩, []) := by
        simp only [gtParseParameters, haddr]
      simp only [BindsAsGiven, hrun, reduceCtorEq, false_or, haddr]
      constructor
      · rintro ⟨hok, -⟩
        obtain ⟨_, p, -, hdec, hp, -⟩ := hok trivial
        exact ⟨p, hdec, hp⟩
      · rintro ⟨p, hdec, hp⟩
        refine ⟨fun _ => ⟨addr, p, rfl, hdec, hp, ?_⟩, fun h => absurd h (by decide)⟩
        intro a s ret s' hlisten
        have hport : ((BitVec.ofInt 16 (atoi argv2)).setWidth 32).setWidth 16 =
            BitVec.ofNat 16 p := by
          rw [atoi_of_isDecimal hdec hp, BitVec.setWidth_setWidth_of_le _ (by decide),
            BitVec.setWidth_eq, BitVec.ofInt_natCast]
        rw [bound_gtNetworkListenning hlisten, hport, htonl_ntohl]

/-- `inet_aton` for one address. -/
def knowsLocalhost (s : List UInt8) : Option (BitVec 32) :=
  if s = cstr "127.0.0.1" then some 0x0100007f else none

/-- The port 70000 is accepted, and becomes 4464. -/
theorem port_not_checked :
    gtParseParameters knowsLocalhost atoi [cstr "gt_main", cstr "127.0.0.1", cstr "70000"]
      ⟨0, 0⟩ = (gtOk, ⟨0x7f000001, 4464⟩, []) ∧
    ¬ BindsAsGiven knowsLocalhost (cstr "gt_main") (cstr "127.0.0.1") (cstr "70000") [] ⟨0, 0⟩ := by
  have hrun : gtParseParameters knowsLocalhost atoi
      [cstr "gt_main", cstr "127.0.0.1", cstr "70000"] ⟨0, 0⟩ =
        (gtOk, ⟨0x7f000001, 4464⟩, []) := by
    decide +kernel
  refine ⟨hrun, ?_⟩
  rintro ⟨hok, -⟩
  obtain ⟨_, p, -, ⟨-, -, hvalue⟩, hp, -⟩ := hok (congrArg Prod.fst hrun)
  have hp' : digitsValue (cstr "70000") = 70000 := by decide +kernel
  omega

end GuitarTea
