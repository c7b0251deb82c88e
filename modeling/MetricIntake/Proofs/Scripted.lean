import MetricIntake.Proofs.Run
import Mathlib.Logic.Function.Basic

/-!
# Scripted worlds

Surroundings in which each source answers from a script, and the world outside is how often each
source was asked: `Surroundings.scripted`.  What a source has in its script does not depend on other
sources, and the store can always be reached.
-/

namespace MetricIntake

/-- What a source answers for a metric when it was asked so often before. -/
abbrev Script := Nat → String → Reply

namespace Script

/-- The same sample at any time and for any metric. -/
def constant (sample : Sample) : Script := fun _ _ => .plain (.ok (some sample))

end Script

/-- The source that answers from a script. -/
def Source.scripted (id : String) (script : Script) : Source (String → Nat) :=
  { id
    profile := .named "ScriptedSource"
    ask := fun name _ asked => (script (asked id) name, Function.update asked id (asked id + 1)) }

namespace Surroundings

/-- Sources that have a script can be built, and no others. -/
def scripted (scripts : String → Option Script) : Surroundings (String → Nat) :=
  { build := fun id asked =>
      match scripts id with
      | some script => (.ok (.scripted id script), asked)
      | none => (.error (.source { kind := .config, source := id, message := "no script" }), asked)
    connect := fun asked => (.ok (), asked)
    storeUrl := "store"
    keyspace := Cache.defaultKeyspace
    depth := default }

end Surroundings

/-- A result that is no failure. -/
theorem exists_ok_of_isOk {ε α : Type} {result : Except ε α} (h : result.isOk = true) :
    ∃ value, result = .ok value := by
  cases result with
  | ok value => exact ⟨value, rfl⟩
  | error e => cases h

/-- A worker that has done nothing yet, with an empty store and sources that were never asked. -/
def Intake.unused : Intake (String → Nat) :=
  .fresh (fun _ => 0) .empty { now := default, reading := .zero, tick := .zero } "metrics"

end MetricIntake
