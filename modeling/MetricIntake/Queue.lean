import MetricIntake.Json.Basic
import MetricIntake.Settings.Basic
import MetricIntake.StoreAddress

/-!
# Queueing jobs

`Settings.jobOrder` is what is put on a queue so that a worker does a job later: the requests as
they came, and how long the job may take and its result is kept.
-/

namespace MetricIntake

/-- A job on a queue. -/
structure JobOrder where
  queue : String
  store : StoreAddress
  /-- What the worker is to call. -/
  function : String
  requests : List Json
  timeoutSeconds : Int
  resultTtlSeconds : Int
  description : String

/-- The order of a job, on the queue of the settings if none or an empty name is given. -/
def Settings.jobOrder (s : Settings) (requests : List Json) (queue : Option String) :
    Except AddressError JobOrder := do
  let store ← StoreAddress.ofUrl s.storeUrl
  return { queue := (queue.filter (!·.isEmpty)).getD s.queueName
           store
           function := "run_extract"
           requests
           timeoutSeconds := s.jobTimeoutSeconds
           resultTtlSeconds := s.resultTtlSeconds
           description := "extract " ++ toString requests.length ++ " sample(s)" }

end MetricIntake
