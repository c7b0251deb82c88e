/-!
# Log records

What the parts of the program say about their work: `LogRecord`.
-/

namespace MetricIntake

/-- How much a record matters. -/
inductive LogLevel
  | debug
  | info
  | warning
  | error
deriving DecidableEq, Repr

/-- The parts that keep a log of their own. -/
inductive Part
  | cache
  | endpoint
  | resolver
  | metrics
  | resolution
  | reading
  | batch
  | shutdown
deriving DecidableEq, Repr

/-- One record. -/
structure LogRecord where
  level : LogLevel
  part : Part
  text : String
deriving DecidableEq, Repr

end MetricIntake
