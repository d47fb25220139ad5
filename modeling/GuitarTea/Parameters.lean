import GuitarTea.Log

/-!
# The command line

`gt_parse_parameters` reads the address and the port of the server from the
command line.  It runs before anything else, on text of arbitrary length, and
reports a rejected address by logging it back.

`inet_aton` and `atoi` belong to the C library and are parameters here.

## Main definitions

* `gtParseParameters` — the function, with the logging calls it makes.
* `invalidIpLog` — the call that logs a rejected address.
-/

namespace GuitarTea

/-- `g_gt_server_ip` and `g_gt_server_port`. -/
structure ServerAddr where
  gGtServerIp : BitVec 32
  gGtServerPort : BitVec 16
  deriving DecidableEq, Repr

/-- The call that logs a command line with too few arguments. -/
def usageLog (argv0 : List UInt8) : LogCall :=
  gtErrorLog "gt_parse_parameters" 42
    [.text "Invalid Parameters. Usage: ", .str argv0, .text " [ip] [port]"]

/-- The call that logs an address `inet_aton` rejects. -/
def invalidIpLog (argv0 argv1 : List UInt8) : LogCall :=
  gtErrorLog "gt_parse_parameters" 49
    [.text "Invalid ip[", .str argv1, .text "]. Usage: ", .str argv0, .text " [ip] [port]"]

/-- `gt_parse_parameters`: the return code, the two globals and the logging calls.
An absent `argv[0]` is a null pointer, which `%s` prints as `(null)`. -/
def gtParseParameters (inetAton : List UInt8 → Option (BitVec 32)) (atoi : List UInt8 → ℤ)
    (argv : List (List UInt8)) (g : ServerAddr) : ℤ × ServerAddr × List LogCall :=
  match argv with
  | argv0 :: argv1 :: argv2 :: _ =>
    match inetAton argv1 with
    | none => (gtError, g, [invalidIpLog argv0 argv1])
    | some addr =>
      (gtOk, ⟨ntohl addr, BitVec.ofInt 16 (atoi argv2)⟩, [])
  | _ => (gtError, g, [usageLog (argv.headD (cstr "(null)"))])

/-- The length of the message about a rejected address. -/
theorem length_render_invalidIpLog (strerror : Errno → List UInt8) (argv0 argv1 : List UInt8) :
    ((invalidIpLog argv0 argv1).render strerror).length = 58 + argv0.length + argv1.length := by
  have hline : toString (49 : ℕ) = "49" := by decide
  simp only [LogCall.render, invalidIpLog, gtErrorLog, hline, List.flatMap_cons, List.flatMap_nil,
    LogPiece.render, List.length_append, length_cstr, List.length_nil]
  have h₁ : "[".length = 1 := by decide
  have h₂ : "gt_parse_parameters".length = 19 := by decide
  have h₃ : ":".length = 1 := by decide
  have h₄ : "49".length = 2 := by decide
  have h₅ : "] ".length = 2 := by decide
  have h₆ : "Invalid ip[".length = 11 := by decide
  have h₇ : "]. Usage: ".length = 10 := by decide
  have h₈ : " [ip] [port]".length = 12 := by decide
  omega

/-- The only call `gt_parse_parameters` logs on three arguments. -/
theorem mem_gtParseParameters_logs {inetAton : List UInt8 → Option (BitVec 32)}
    {atoi : List UInt8 → ℤ} {argv0 argv1 argv2 : List UInt8} {rest : List (List UInt8)}
    {g : ServerAddr} {c : LogCall}
    (h : c ∈ (gtParseParameters inetAton atoi (argv0 :: argv1 :: argv2 :: rest) g).2.2) :
    c = invalidIpLog argv0 argv1 := by
  cases haddr : inetAton argv1 with
  | none => simpa [gtParseParameters, haddr] using h
  | some addr => simp [gtParseParameters, haddr] at h

/-- **When a log record stays inside the buffer of `gt_log_print`.**  In general:
exactly when timestamp, level tag and message together have at most 1024 bytes.
For the message about a rejected address: exactly when the timestamp and the two
arguments it quotes have at most 958. -/
theorem logRecord_inside_iff (t : ℕ) :
    (∀ l n : ℕ, t + l < 1024 → n < 2147483648 →
      ((gtLogOffsets t l n (printfLen (cstr "\n"))).Inside ↔ t + l + n ≤ 1024)) ∧
    (∀ (inetAton : List UInt8 → Option (BitVec 32)) (atoi : List UInt8 → ℤ)
      (strerror : Errno → List UInt8) (argv0 argv1 argv2 : List UInt8)
      (rest : List (List UInt8)) (g : ServerAddr) (c : LogCall),
      c ∈ (gtParseParameters inetAton atoi (argv0 :: argv1 :: argv2 :: rest) g).2.2 →
      t + (levelTag c.level).length < 1024 → (c.render strerror).length < 2147483648 →
      ((gtLogOffsets t (levelTag c.level).length (c.render strerror).length
          (printfLen (cstr "\n"))).Inside ↔ t + argv0.length + argv1.length ≤ 958)) := by
  constructor
  · intro l n hfit hn
    rw [printfLen_newline]
    exact inside_gtLogOffsets_iff hfit hn
  · intro inetAton atoi strerror argv0 argv1 argv2 rest g c hc hfit hlen
    rw [printfLen_newline, inside_gtLogOffsets_iff hfit hlen]
    have hlevel : (invalidIpLog argv0 argv1).level = .error := rfl
    have htag : (levelTag .error).length = 8 := by decide
    rw [mem_gtParseParameters_logs hc, length_render_invalidIpLog, hlevel]
    omega

/-- A short rejected address is logged inside the buffer, and so is the longest
message that fits behind a timestamp and an `INFO` tag. -/
theorem logRecord_inside_short :
    (gtLogOffsets 20 7 997 (printfLen (cstr "\n"))).Inside ∧
    (gtLogOffsets (20 : ℕ) (levelTag (invalidIpLog (cstr "gt_main") (cstr "localhost")).level).length
      ((invalidIpLog (cstr "gt_main") (cstr "localhost")).render fun _ => []).length
      (printfLen (cstr "\n"))).Inside := by
  refine ⟨((logRecord_inside_iff 20).1 7 997 (by decide) (by decide)).mpr (by decide), ?_⟩
  refine ((logRecord_inside_iff 20).2 (fun _ => none) (fun _ => 0) (fun _ => []) (cstr "gt_main")
    (cstr "localhost") (cstr "80") [] ⟨0, 0⟩ (invalidIpLog (cstr "gt_main") (cstr "localhost"))
    ?_ (by decide) ?_).mpr (by decide)
  · simp [gtParseParameters]
  · rw [length_render_invalidIpLog]
    decide

/-- An address of a thousand letters, rejected by `inet_aton`, makes
`gt_log_print` compute offsets past its buffer and store there. -/
theorem rejected_address_overruns_buf :
    let argv1 := List.replicate 1000 97
    let c := invalidIpLog (cstr "gt_main") argv1
    (gtParseParameters (fun _ => none) (fun _ => 0) [cstr "gt_main", argv1, cstr "80"]
        ⟨0, 0⟩).2.2 = [c] ∧
      ¬ (gtLogOffsets (20 : ℕ) (levelTag c.level).length (c.render fun _ => []).length
          (printfLen (cstr "\n"))).Inside ∧
      gtLogPrint 1 (some (cstr "2017-10-11 12:00:00 ")) c.stdfdFlag c.level
        (c.render fun _ => []) = none := by
  intro argv1 c
  have htag : (levelTag c.level).length = 8 := by decide
  have hlen : (c.render fun _ => []).length = 1065 := by
    rw [length_render_invalidIpLog, List.length_replicate]
    decide
  have htime : (cstr "2017-10-11 12:00:00 ").length = 20 := by decide
  have hout : ¬ (gtLogOffsets (20 : ℕ) (levelTag c.level).length (c.render fun _ => []).length
      1).Inside := by
    rw [inside_gtLogOffsets_iff (by omega) (by omega)]
    omega
  refine ⟨rfl, ?_, ?_⟩
  · rwa [printfLen_newline]
  · have hiff : (gtLogPrint 1 (some (cstr "2017-10-11 12:00:00 ")) c.stdfdFlag c.level
        (c.render fun _ => [])).isSome ↔ (gtLogOffsets (cstr "2017-10-11 12:00:00 ").length
          (levelTag c.level).length (c.render fun _ => []).length 1).Inside :=
      isSome_gtLogPrint_iff (by omega) (by omega) (by omega) 1 c.stdfdFlag
    rw [htime] at hiff
    simpa using mt hiff.mp hout

end GuitarTea
