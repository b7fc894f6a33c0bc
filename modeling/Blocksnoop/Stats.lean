import Blocksnoop.Core
import Blocksnoop.Support.Bisection

/-!
# The statistics collector

`stats.py`: the durations of the events in a sorted array, and what is printed of them
once a second.  The timer that prints is not followed here.
-/

namespace Blocksnoop

open Blocksnoop.Support

/-- The float operations of the statistics beside those of the runtime. -/
class StatsRuntime (F : Type) extends PyRuntime F where
  /-- `sum(d)` -/
  sum : List F → F
  /-- `x / n` -/
  divNat : F → ℕ → F
  /-- `n / x` -/
  natDiv : ℕ → F → F
  /-- `format(x, "width.digitsf")` -/
  format : ℕ → ℕ → F → String

def warnThreshold : ℕ := 10000000

/-- The constants `0.50`, `0.90`, `0.95` and `0.99`. -/
structure Percents (F : Type) where
  p50 : F
  p90 : F
  p95 : F
  p99 : F

/-- The printed figures, in their order. -/
structure Figures (F : Type) where
  min : F
  avg : F
  p50 : F
  p90 : F
  p95 : F
  p99 : F
  max : F
  deriving DecidableEq

namespace Figures

def map {F G : Type} (f : F → G) (figures : Figures F) : Figures G where
  min := f figures.min
  avg := f figures.avg
  p50 := f figures.p50
  p90 := f figures.p90
  p95 := f figures.p95
  p99 := f figures.p99
  max := f figures.max

def toList {F : Type} (figures : Figures F) : List F :=
  [figures.min, figures.avg, figures.p50, figures.p90, figures.p95, figures.p99, figures.max]

end Figures

/-- The record of the JSON mode; the figures are missing when there are no events. -/
structure StatsRecord (F : Type) where
  pid : ℤ
  elapsedS : F
  count : ℕ
  rate : F
  figures : Option (Figures F)
  deriving DecidableEq

/-- One write to the stream. -/
inductive Written (F : Type) where
  | frame (text : String)
  | record (record : StatsRecord F)
  deriving DecidableEq

structure StatsCollector (F : Type) where
  pid : ℤ
  jsonMode : Bool
  stream : List (Written F) := []
  durations : List F := []
  startTime : F
  linesPrinted : ℕ := 0
  warned : Bool := false

section

variable {F : Type}

/-- `d[idx]`, where a negative index counts from the end. -/
def arrayGet (d : List F) (idx : ℤ) : Except PyException F :=
  match (if 0 ≤ idx then d[idx.toNat]?
    else if 0 ≤ idx + d.length then d[(idx + d.length).toNat]? else none) with
  | some x => .ok x
  | none => .error (.other "IndexError")

end

section

variable {F : Type} [PyRuntime F]

/-- `bisect.insort(d, x)` -/
def insort (d : List F) (x : F) : List F :=
  insertAt d
    (searchLoop (fun mid => !PyRuntime.lt x (d.getD mid PyRuntime.zero)) d.length 0 d.length) x

/-- `_percentile`: the entry at `int(p * (n - 1))`. -/
def percentile (sortedArr : List F) (p : F) : Except PyException F := do
  let idx ← PyRuntime.toInt (PyRuntime.mulInt p ((sortedArr.length : ℤ) - 1))
  arrayGet sortedArr idx

/-- `event.duration_ms` -/
def BlockingEvent.durationMs (event : BlockingEvent) : Except PyException F :=
  PyRuntime.divInt (event.endNs - event.startNs) 1000000

end

namespace StatsCollector

variable {F : Type} [StatsRuntime F]

/-- The part of `on_event` under the lock. -/
def addDuration (c : StatsCollector F) (durationMs : F) : StatsCollector F :=
  let durations := insort c.durations durationMs
  { c with
    durations := durations
    warned := c.warned || warnThreshold ≤ durations.length }

def onEvent (c : StatsCollector F) (event : BlockingEvent) :
    Except PyException (StatsCollector F) := do
  let durationMs ← event.durationMs
  return c.addDuration durationMs

/-- The figures that both printing functions read off the array. -/
def figures (percents : Percents F) (d : List F) : Except PyException (Figures F) := do
  let avg := StatsRuntime.divNat (StatsRuntime.sum d) d.length
  let min ← arrayGet d 0
  let p50 ← percentile d percents.p50
  let p90 ← percentile d percents.p90
  let p95 ← percentile d percents.p95
  let p99 ← percentile d percents.p99
  let max ← arrayGet d (-1)
  return { min, avg, p50, p90, p95, p99, max }

/-- The figures of a non-empty array. -/
def figures? (percents : Percents F) (d : List F) : Except PyException (Option (Figures F)) :=
  if d.length = 0 then pure none else some <$> figures percents d

def rate (count : ℕ) (elapsed : F) : F :=
  if PyRuntime.lt PyRuntime.zero elapsed then StatsRuntime.natDiv count elapsed
  else PyRuntime.zero

def printJson (percents : Percents F) (c : StatsCollector F) (elapsed : F) :
    Except PyException (StatsCollector F) := do
  let count := c.durations.length
  let printed ← figures? percents c.durations
  return { c with
    stream := c.stream ++ [.record
      { pid := c.pid
        elapsedS := PyRuntime.round elapsed 1
        count := count
        rate := PyRuntime.round (rate count elapsed) 1
        figures := printed.map (·.map fun x => PyRuntime.round x 3) }] }

def statLabels : List String :=
  ["min", "avg", "p50", "p90", "p95", "p99", "max"]

/-- The escape codes that erase the previous frame. -/
def eraseFrame (linesPrinted : ℕ) : String :=
  if linesPrinted = 0 then ""
  else
    "\x1b[" ++ Nat.repr linesPrinted ++ "A" ++
      String.join (List.replicate linesPrinted "\x1b[2K\n") ++
      "\x1b[" ++ Nat.repr linesPrinted ++ "A"

def headline (c : StatsCollector F) (count : ℕ) (elapsed : F) : String :=
  "blocksnoop stats — PID " ++ strInt c.pid ++ " — " ++ StatsRuntime.format 0 1 elapsed ++
    "s — " ++ Nat.repr count ++ " events (" ++ StatsRuntime.format 0 0 (rate count elapsed) ++
    "/s)"

def statLine (label : String) (value : String) : String :=
  "  " ++ label ++ "    " ++ value ++ "ms"

def printConsole (percents : Percents F) (c : StatsCollector F) (elapsed : F) :
    Except PyException (StatsCollector F) := do
  let count := c.durations.length
  let printed ← figures? percents c.durations
  let values := match printed with
    | none => statLabels.map fun _ => "       ---"
    | some figures => figures.toList.map (StatsRuntime.format 10 1)
  let lines := [c.headline count elapsed, ""] ++ List.zipWith statLine statLabels values ++
    if c.warned then
      ["", "  warning: 10,000,000 events collected (~" ++ Nat.repr (count * 8 / 1000000) ++
        " MB)"]
    else []
  return { c with
    stream := c.stream ++
      [.frame (eraseFrame c.linesPrinted ++ "\n".intercalate lines ++ "\n")]
    linesPrinted := lines.length }

/-- `_print_stats` at the time `now`, under the lock. -/
def printStats (percents : Percents F) (c : StatsCollector F) (now : F) :
    Except PyException (StatsCollector F) :=
  let elapsed := PyRuntime.sub now c.startTime
  if c.jsonMode then c.printJson percents elapsed else c.printConsole percents elapsed

end StatsCollector

end Blocksnoop
