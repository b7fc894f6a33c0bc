import Blocksnoop.Support.Libc
import Mathlib.Data.UInt

/-!
# The collector `blocksnoop-ebpf`

The command line and the output lines of `native/blocksnoop_ebpf.c`.  Fields
that are `uint32_t` or `uint64_t` in C have the same width here, and `printf`
writes them as decimal numerals.
-/

namespace Blocksnoop.Native

open Blocksnoop.Support

def protocolVersion : ℕ := 2

/-- `struct detector_config` -/
structure DetectorConfig where
  targetTgid : UInt32 := 0
  targetTid : UInt32 := 0
  thresholdNs : UInt64 := 0
  pidnsDev : UInt64 := 0
  pidnsIno : UInt64 := 0
  deriving Repr, DecidableEq

/-- `struct blocking_event` -/
structure BlockingEvent where
  startNs : UInt64
  endNs : UInt64
  pid : UInt32
  tid : UInt32
  deriving Repr, DecidableEq

/-- The epoll system calls in the order of the variant table. -/
inductive EpollVariant where
  | epollWait
  | epollPwait
  | epollPwait2
  deriving Repr, DecidableEq

namespace EpollVariant

def name : EpollVariant → String
  | .epollWait => "epoll_wait"
  | .epollPwait => "epoll_pwait"
  | .epollPwait2 => "epoll_pwait2"

/-- The rows of the variant table. -/
def table : List EpollVariant :=
  [.epollWait, .epollPwait, .epollPwait2]

theorem mem_table (v : EpollVariant) : v ∈ table := by
  cases v <;> decide

end EpollVariant

/-! ## Output lines -/

def emitFatal (message : String) : String :=
  "\x7b\"version\":" ++ Nat.repr protocolVersion ++
    ",\"type\":\"fatal\",\"message\":\"" ++ message ++ "\"\x7d\n"

/-- The loop over the variant table: every name but the first follows a comma. -/
def emitTracepoints (enabled : EpollVariant → Bool) :
    Bool → List EpollVariant → String
  | _, [] => ""
  | first, v :: rest =>
      if enabled v then
        (if first then "" else ",") ++ "\"" ++ v.name ++ "\"" ++
          emitTracepoints enabled false rest
      else emitTracepoints enabled first rest

def emitReady (config : DetectorConfig) (enabled : EpollVariant → Bool) : String :=
  "\x7b\"version\":" ++ Nat.repr protocolVersion ++
    ",\"type\":\"ready\",\"pid\":" ++ Nat.repr config.targetTgid.toNat ++
    ",\"tid\":" ++ Nat.repr config.targetTid.toNat ++
    ",\"pidns_dev\":" ++ Nat.repr config.pidnsDev.toNat ++
    ",\"pidns_ino\":" ++ Nat.repr config.pidnsIno.toNat ++
    ",\"threshold_ns\":" ++ Nat.repr config.thresholdNs.toNat ++
    ",\"tracepoints\":[" ++ emitTracepoints enabled true EpollVariant.table ++
    "]\x7d\n"

def emitEvent (event : BlockingEvent) (config : DetectorConfig) : String :=
  "\x7b\"version\":" ++ Nat.repr protocolVersion ++
    ",\"type\":\"event\",\"start_ns\":" ++ Nat.repr event.startNs.toNat ++
    ",\"end_ns\":" ++ Nat.repr event.endNs.toNat ++
    ",\"pid\":" ++ Nat.repr event.pid.toNat ++
    ",\"tid\":" ++ Nat.repr event.tid.toNat ++
    ",\"pidns_dev\":" ++ Nat.repr config.pidnsDev.toNat ++
    ",\"pidns_ino\":" ++ Nat.repr config.pidnsIno.toNat ++ "\x7d\n"

def emitLost (count : UInt64) (source : String) (config : DetectorConfig) : String :=
  "\x7b\"version\":" ++ Nat.repr protocolVersion ++
    ",\"type\":\"lost\",\"count\":" ++ Nat.repr count.toNat ++
    ",\"source\":\"" ++ source ++
    "\",\"pidns_dev\":" ++ Nat.repr config.pidnsDev.toNat ++
    ",\"pidns_ino\":" ++ Nat.repr config.pidnsIno.toNat ++ "\x7d\n"

/-- A sample of the perf buffer: the bytes beyond the struct are alignment, and
a truncated sample is dropped. -/
def handleSample (event : BlockingEvent) (size : ℕ) (config : DetectorConfig) :
    Option String :=
  if size < 24 then none else some (emitEvent event config)

def handleLost (count : UInt64) (config : DetectorConfig) : String :=
  emitLost count "perf_buffer" config

/-! ## The command line -/

def parseU32 (value : String) : Option UInt32 :=
  let parsed := strtoull value.toList
  if parsed.erange || value.toList = [] || parsed.rest ≠ [] || parsed.value = 0 ||
      0xFFFFFFFF < parsed.value then none
  else some parsed.value.toUInt32

def parseU64 (value : String) : Option UInt64 :=
  match value.toList with
  | [] => none
  | '-' :: _ => none
  | '+' :: _ => none
  | cs =>
      let parsed := strtoull cs
      if parsed.erange || parsed.rest ≠ [] then none else some parsed.value

/-- The long options of `main`. -/
def longOptions : List LongOption :=
  [⟨"protocol-version", true, 'V'⟩, ⟨"pid", true, 'p'⟩, ⟨"tid", true, 't'⟩,
    ⟨"pidns-dev", true, 'd'⟩, ⟨"pidns-ino", true, 'i'⟩, ⟨"threshold-ns", true, 'n'⟩,
    ⟨"bpf-object", true, 'b'⟩, ⟨"help", false, 'h'⟩]

/-- The local variables of the option loop. -/
structure Options where
  config : DetectorConfig := {}
  objectPath : Option String := none
  protocolVersion : UInt32 := 0
  havePid : Bool := false
  haveTid : Bool := false
  havePidnsDev : Bool := false
  havePidnsIno : Bool := false
  haveThreshold : Bool := false
  deriving Repr, DecidableEq

/-- One turn of the option loop; an error is the exit status of `main`. -/
def applyOption (o : Options) : Getopt → Except ℕ Options
  | .option 'V' (some arg) =>
      match parseU32 arg with
      | none => .error 2
      | some v => .ok { o with protocolVersion := v }
  | .option 'p' (some arg) =>
      match parseU32 arg with
      | none => .error 2
      | some v => .ok { o with config.targetTgid := v, havePid := true }
  | .option 't' (some arg) =>
      match parseU32 arg with
      | none => .error 2
      | some v => .ok { o with config.targetTid := v, haveTid := true }
  | .option 'd' (some arg) =>
      match parseU64 arg with
      | none => .error 2
      | some v =>
          if v = 0 then .error 2
          else .ok { o with config.pidnsDev := v, havePidnsDev := true }
  | .option 'i' (some arg) =>
      match parseU64 arg with
      | none => .error 2
      | some v =>
          if v = 0 then .error 2
          else .ok { o with config.pidnsIno := v, havePidnsIno := true }
  | .option 'n' (some arg) =>
      match parseU64 arg with
      | none => .error 2
      | some v => .ok { o with config.thresholdNs := v, haveThreshold := true }
  | .option 'b' (some arg) => .ok { o with objectPath := some arg }
  | .option 'h' _ => .error 0
  | _ => .error 2

/-- The option loop and the check after it, on the words after `argv[0]`. -/
def parseOptions (arguments : List String) : Except ℕ Options := do
  let (options, operands) := getoptLong longOptions arguments
  let o ← options.foldlM applyOption {}
  if operands ≠ [] ∨ o.protocolVersion ≠ 2 ∨ !o.havePid ∨ !o.haveTid ∨
      !o.havePidnsDev ∨ !o.havePidnsIno ∨ !o.haveThreshold then .error 2
  else .ok o

end Blocksnoop.Native
