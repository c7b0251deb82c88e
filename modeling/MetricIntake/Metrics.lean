import MetricIntake.Double.Arith
import MetricIntake.Double.Display
import MetricIntake.Log
import MetricIntake.Named

/-!
# Metrics

Counts of how requests ended and statistics of how long fetches took: `Outcome`, `Counts`,
`LatencyStats` and `Metrics`, which has one `LatencyStats` per timer.  `Metrics.summary` is what is
said about them at the end of a job.
-/

namespace MetricIntake

/-- How a request ended. -/
inductive Outcome
  | succeeded
  | noData
  | failed
deriving DecidableEq, Repr

/-- What an outcome is called. -/
def Outcome.name : Outcome → String
  | succeeded => "succeeded"
  | noData => "no_data"
  | failed => "failed"

/-- How many requests ended in each way. -/
structure Counts where
  succeeded : Nat
  noData : Nat
  failed : Nat
deriving DecidableEq, Repr, Inhabited

namespace Counts

/-- No requests. -/
def zero : Counts := ⟨0, 0, 0⟩

/-- One more request that ended so. -/
def add (c : Counts) : Outcome → Counts
  | .succeeded => { c with succeeded := c.succeeded + 1 }
  | .noData => { c with noData := c.noData + 1 }
  | .failed => { c with failed := c.failed + 1 }

/-- How many requests ended so. -/
def get (c : Counts) : Outcome → Nat
  | .succeeded => c.succeeded
  | .noData => c.noData
  | .failed => c.failed

/-- How many requests ended in any way. -/
def total (c : Counts) : Nat := c.succeeded + c.noData + c.failed

/-- One outcome grows by one and the others stay. -/
theorem get_add (c : Counts) (o p : Outcome) :
    (c.add o).get p = c.get p + if p = o then 1 else 0 := by
  cases o <;> cases p <;> rfl

end Counts

/-- Statistics of durations in milliseconds. -/
structure LatencyStats where
  count : Nat
  total : Double
  min : Double
  max : Double
deriving DecidableEq, Inhabited

namespace LatencyStats

/-- Statistics of nothing: no duration is as long as the smallest one yet. -/
def empty : LatencyStats :=
  { count := 0, total := .zero, min := .infinite false, max := .zero }

/-- The statistics with one more duration. -/
def record (s : LatencyStats) (millis : Double) : LatencyStats :=
  { count := s.count + 1
    total := s.total.add millis
    min := s.min.min millis
    max := s.max.max millis }

/-- The mean duration, zero of nothing. -/
def average (s : LatencyStats) : Double :=
  if s.count = 0 then .zero else s.total.div (.ofWhole s.count)

end LatencyStats

/-- The counts and timers of one worker. -/
structure Metrics where
  /-- The name under which they are reported. -/
  meter : String
  counts : Counts
  /-- The statistics of each timer, in the order of first use. -/
  timers : List (String × LatencyStats)
deriving DecidableEq, Inhabited

namespace Metrics

/-- Nothing counted and nothing timed. -/
def fresh (meter : String) : Metrics := { meter, counts := .zero, timers := [] }

/-- One more request that ended so. -/
def add (m : Metrics) (o : Outcome) : Metrics := { m with counts := m.counts.add o }

/-- The statistics of a timer. -/
def latency (m : Metrics) (timer : String) : LatencyStats :=
  (Named.lookup timer m.timers).getD .empty

/-- One more duration of a timer. -/
def record (m : Metrics) (timer : String) (millis : Double) : Metrics :=
  { m with timers := Named.put timer ((m.latency timer).record millis) m.timers }

/-- The timers that were used, in the order of their characters. -/
def timerNames (m : Metrics) : List String :=
  (m.timers.map (·.1)).mergeSort fun a b => !(b < a)

/-- What is said about one more outcome. -/
def outcomeRecord (m : Metrics) (o : Outcome) : LogRecord :=
  ⟨.debug, .metrics, m.meter ++ ": " ++ o.name⟩

/-- What is said about the counts. -/
def countsText (m : Metrics) : String :=
  m.meter ++ " outcomes: succeeded=" ++ toString m.counts.succeeded ++ " no_data=" ++
    toString m.counts.noData ++ " failed=" ++ toString m.counts.failed

/-- What is said about a timer. -/
def timerText (m : Metrics) (timer : String) : String :=
  let s := m.latency timer
  m.meter ++ " " ++ timer ++ ": count=" ++ toString s.count ++ " avg=" ++ s.average.fixed 1 ++
    "ms min=" ++ s.min.fixed 1 ++ "ms max=" ++ s.max.fixed 1 ++ "ms"

/-- The counts, and each timer in the order of `timerNames`. -/
def summary (m : Metrics) : List LogRecord :=
  ⟨.info, .metrics, m.countsText⟩ ::
    m.timerNames.map fun timer => ⟨.info, .metrics, m.timerText timer⟩

end Metrics

end MetricIntake
