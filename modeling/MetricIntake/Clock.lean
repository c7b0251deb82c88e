import MetricIntake.Double.Arith
import MetricIntake.Time.UtcTime

/-!
# Clocks

A `Clock` shows the time of day and measures durations.  `Clock.read` is one reading of the
measuring part, in seconds, and `Clock.elapsedMillis` the milliseconds between two.
-/

namespace MetricIntake

/-- A clock for the time of day and one for durations. -/
structure Clock where
  now : UtcTime
  /-- The next reading in seconds. -/
  reading : Double
  /-- What a reading takes. -/
  tick : Double
deriving DecidableEq, Inhabited

namespace Clock

/-- A reading, and the clock after it. -/
def read (c : Clock) : Double × Clock :=
  (c.reading, { c with reading := c.reading.add c.tick })

/-- The clock so many seconds later. -/
def pass (c : Clock) (seconds : Double) : Clock :=
  { c with reading := c.reading.add seconds }

/-- The milliseconds from one reading to another. -/
def elapsedMillis (started stopped : Double) : Double :=
  (stopped.sub started).mul (.ofWhole 1000)

end Clock

end MetricIntake
