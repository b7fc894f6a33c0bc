import Blocksnoop.Core

/-!
# The ring buffer of stack samples

`StackRingBuffer` of `profiler.py`.  The sampler pushes one entry for each sample
of the target thread; the correlator reads the entries of a time window.
-/

namespace Blocksnoop

open Blocksnoop.Support

/-- A sample with its time. -/
abbrev Entry := ℤ × PythonStackTrace

structure StackRingBuffer where
  size : ℕ
  buffer : List (Option Entry)
  head : ℕ
  count : ℕ
  overflowCount : ℕ
  deriving Repr

namespace StackRingBuffer

def new (size : ℕ) : StackRingBuffer where
  size := size
  buffer := List.replicate size none
  head := 0
  count := 0
  overflowCount := 0

def push (b : StackRingBuffer) (timestampNs : ℤ) (stack : PythonStackTrace) :
    StackRingBuffer :=
  { b with
    buffer := b.buffer.set b.head (some (timestampNs, stack))
    head := (b.head + 1) % b.size
    count := if b.count < b.size then b.count + 1 else b.count
    overflowCount := if b.count < b.size then b.overflowCount else b.overflowCount + 1 }

/-- The entries in the order they were pushed. -/
def orderedEntries (b : StackRingBuffer) : List Entry :=
  if b.count = 0 then []
  else if b.count < b.size then
    (List.range b.count).filterMap fun i => b.buffer.getD i none
  else
    (List.range b.size).filterMap fun i => b.buffer.getD ((b.head + i) % b.size) none

/-- The samples within the bounds, oldest first. -/
def findAllInRange (b : StackRingBuffer) (startNs endNs : ℤ) : List PythonStackTrace :=
  let entries := b.orderedEntries
  let timestamps := entries.map (·.1)
  let lo := bisectLeft timestamps startNs
  let hi := bisectRight timestamps endNs
  ((entries.drop lo).take (hi - lo)).map (·.2)

/-- One turn of the loop over the candidates: the best entry so far and its distance
to the target. -/
def examine (entries : List Entry) (targetNs startNs endNs : ℤ) (best : Option Entry × ℤ)
    (idx : ℤ) : Option Entry × ℤ :=
  if 0 ≤ idx ∧ idx < entries.length then
    match entries[idx.toNat]? with
    | some (ts, stack) =>
        if startNs ≤ ts ∧ ts ≤ endNs ∧ |ts - targetNs| < best.2 then
          (some (ts, stack), |ts - targetNs|)
        else best
    | none => best
  else best

/-- The sample closest to the target within the bounds. -/
def findNearest (b : StackRingBuffer) (targetNs startNs endNs : ℤ) :
    Option PythonStackTrace :=
  let entries := b.orderedEntries
  if entries = [] then none
  else
    let pos := bisectLeft (entries.map (·.1)) targetNs
    let best := [(pos : ℤ) - 1, (pos : ℤ)].foldl (examine entries targetNs startNs endNs)
      (none, endNs - startNs + 1)
    best.1.map (·.2)

def findInRange (b : StackRingBuffer) (startNs endNs : ℤ) : Option PythonStackTrace :=
  b.findNearest startNs startNs endNs

end StackRingBuffer

end Blocksnoop
