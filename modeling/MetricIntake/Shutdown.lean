import MetricIntake.Log
import MetricIntake.Named

/-!
# Shutdown

A shutdown flag is set once and never cleared; signals set it.  A `Handler` is what a signal does;
`Handler.chain` puts a flag in front of what the signal did before.  `HandlerTable.install` installs
chains, and `Handler.actions` lists what a delivered signal does, in order.
-/

namespace MetricIntake

/-- What is said when a shutdown is first requested. -/
def shutdownRecord : LogRecord :=
  ⟨.info, .shutdown, "Shutdown requested; skipping further fetches"⟩

/-- A flag after a shutdown was requested, and what is said about it: nothing if it was set. -/
def triggerFlag (set : Bool) : Bool × List LogRecord :=
  (true, if set then [] else [shutdownRecord])

/-- What a signal does. -/
inductive Handler
  /-- What the system does by itself; nothing that could be called. -/
  | standard
  /-- A function from elsewhere, with its name. -/
  | outer (word : String)
  /-- A flag is set, and then `previous` is called if it can be. -/
  | chain (flag : Nat) (previous : Handler)
deriving DecidableEq, Repr, Inhabited

/-- One thing that a delivered signal does. -/
inductive HandlerAction
  | trigger (flag : Nat)
  | call (word : String)
deriving DecidableEq, Repr

/-- All that a delivered signal does, in order. -/
def Handler.actions : Handler → List HandlerAction
  | standard => []
  | outer word => [.call word]
  | chain flag previous => .trigger flag :: previous.actions

/-- The handlers of signals; the others have the standard one. -/
abbrev HandlerTable := List (String × Handler)

namespace HandlerTable

/-- The handler of a signal. -/
def get (t : HandlerTable) (signal : String) : Handler :=
  (Named.lookup signal t).getD .standard

/-- The table in which a flag is chained before what `before` says of each of some signals. -/
def installOver (before : HandlerTable → String → Handler) (flag : Nat) (signals : List String)
    (t : HandlerTable) : HandlerTable :=
  signals.foldl (fun t signal => Named.put signal (.chain flag (before t signal)) t) t

/-- The table in which a flag is chained before the present handlers of some signals. -/
def install (flag : Nat) (signals : List String) (t : HandlerTable) : HandlerTable :=
  installOver get flag signals t

end HandlerTable

/-- The signals that request a shutdown. -/
def shutdownSignals : List String := ["SIGTERM", "SIGINT"]

/-- What is said where handlers cannot be installed. -/
def otherThreadRecord : LogRecord :=
  ⟨.debug, .shutdown, "Not on the main thread; shutdown signals not installed"⟩

end MetricIntake
