import MetricIntake.Shutdown

/-!
# Signals

`Signals` are shutdown flags with the handlers of signals that trigger them.  `Signals.install` puts
a flag in front of what some signals did before, and `Signals.deliver` calls the handler of a signal
with what it is called with: `Signals.call`.
-/

namespace MetricIntake

/-- What a handler is called with: the signal that arrived, and what it interrupted. -/
structure Delivery (φ : Type) where
  signal : String
  frame : φ
deriving DecidableEq, Repr

/-- One thing that was done. -/
inductive SignalDeed (φ : Type)
  | triggered (flag : Nat)
  /-- A function from elsewhere was called with what the handler was called with. -/
  | called (word : String) (delivery : Delivery φ)
deriving DecidableEq, Repr

/-- Shutdown flags, and the handlers that may trigger them. -/
structure Signals (φ : Type) where
  handlers : HandlerTable
  /-- Whether a flag is set. -/
  flags : Nat → Bool
  /-- What was done so far. -/
  deeds : List (SignalDeed φ)
  /-- What was said so far, each with the flag that it was said about. -/
  said : List (Nat × LogRecord)

namespace Signals

variable {φ : Type}

/-- No flag is set, and nothing was done. -/
def fresh (handlers : HandlerTable) : Signals φ :=
  { handlers, flags := fun _ => false, deeds := [], said := [] }

/-- A shutdown is requested of a flag. -/
def trigger (flag : Nat) (k : Signals φ) : Signals φ :=
  let (set, records) := triggerFlag (k.flags flag)
  { k with
    flags := fun other => if other = flag then set else k.flags other
    deeds := k.deeds ++ [.triggered flag]
    said := k.said ++ records.map fun record => (flag, record) }

/-- A handler is called, if it can be.  A chain triggers its flag, and then the previous handler is
called with the same. -/
def call (d : Delivery φ) : Handler → Signals φ → Signals φ
  | .standard, k => k
  | .outer word, k => { k with deeds := k.deeds ++ [.called word d] }
  | .chain flag previous, k => call d previous (k.trigger flag)

/-- A signal is delivered. -/
def deliver (d : Delivery φ) (k : Signals φ) : Signals φ := k.call d (k.handlers.get d.signal)

/-- Handlers of a flag are installed before what `before` says of each of some signals, which can
be done on the main thread only. -/
def installOver (before : HandlerTable → String → Handler) (main : Bool) (flag : Nat)
    (signals : List String) (k : Signals φ) : Bool × Signals φ :=
  if main then
    (true, { k with handlers := HandlerTable.installOver before flag signals k.handlers })
  else (false, { k with said := k.said ++ [(flag, otherThreadRecord)] })

/-- Handlers of a flag are installed before the present ones of some signals. -/
def install (main : Bool) (flag : Nat) (signals : List String) (k : Signals φ) :
    Bool × Signals φ :=
  k.installOver HandlerTable.get main flag signals

end Signals

end MetricIntake
