import SimTerm.Config.Store
/-!
# Starting Up

Before the first session the configuration is loaded, if there is one, and the journal is
started at its level. The journal always goes to its buffer, and as configured also to the
console and to a file.

## Main definitions

* `Boot`: What starting up leads to.
* `Boot.run`: Starts up with what there is under the name of the configuration.
-/

namespace SimTerm

/-- What starting up leads to. -/
structure Boot where
  /-- The store with the configuration in force. -/
  store : ConfigStore
  /-- The level of the journal. -/
  level : Level
  /-- In how many places the journal is written. -/
  places : Nat
deriving Repr

namespace Boot

/-- In how many places the journal is written. -/
def placesOf (s : LoggingSettings) : Nat :=
  1 + (if s.consoleOutput.isTruthy then 1 else 0) + (if s.logFile.isTruthy then 1 else 0)

/-- The store after the configuration is loaded, if there is one. -/
def loaded (store : ConfigStore) (path : String) (source : Source) :
    Except ConfigFault ConfigStore :=
  match source with
  | .missing => .ok store
  | _ =>
    match store.load path source with
    | (.ok _, store) => .ok store
    | (.error f, _) => .error f

/-- Starts up with what there is under the name of the configuration. -/
def run (store : ConfigStore) (path : String) (source : Source) : Except ConfigFault Boot := do
  let store ← loaded store path source
  let settings ← store.inForce.logging.demand
  match levelOf? settings.level with
  | some level => return { store, level, places := placesOf settings }
  | none => .error (Check.level.fault settings.level)

end Boot

end SimTerm
