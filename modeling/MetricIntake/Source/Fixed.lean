import MetricIntake.Source.Basic

/-!
# Fixed sources

A source that answers with values from the settings, as of the time at which it is asked:
`Source.fixed`.
-/

namespace MetricIntake.Source

/-- The source of some named values. -/
def fixed {ω : Type} (id : String) (values : List (String × String)) : Source ω :=
  { id
    profile := .fixed
    ask := fun name now outside =>
      let sample? := (Named.lookup name values).map fun value =>
        { name, value, updatedAt := now.iso : Sample }
      (.plain (.ok sample?), outside) }

end MetricIntake.Source
