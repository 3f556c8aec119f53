import ShipSlap.Telemetry.Config
import ShipSlap.Telemetry.Filter
/-!
Installing the logger of a process. The filter is the one `RUST_LOG` gives when it is set and
reads, and otherwise the configured level, which must read. A process has one logger: once it
is installed, installing another fails.
-/
namespace ShipSlap.Telemetry

/-- Why the logger could not be installed. -/
inductive TelemetryError where
  | filter (e : FilterError)
  | subscriberInit
  deriving DecidableEq, Repr

/-- The text of a logging error. -/
def TelemetryError.message : TelemetryError → String
  | .filter e => "Invalid log filter: " ++ e.message
  | .subscriberInit =>
    "Failed to install subscriber: a global default trace dispatcher has already been set"

/-- The filter of a logger: `RUST_LOG` when it is set and reads, else the configured level. -/
def chooseFilter (env : Environment) (c : TelemetryConfig) :
    Except FilterError (List Directive) :=
  match (env.get? "RUST_LOG").bind fun v => (parseFilter v).toOption with
  | some f => .ok f
  | none => parseFilter c.logLevel

/-- Whether a process has installed its logger. -/
structure LoggingState where
  installed : Bool := false
  deriving DecidableEq, Repr

/-- Installs the logger: the filter is checked first, then that none is installed yet. -/
def LoggingState.install (st : LoggingState) (env : Environment) (c : TelemetryConfig) :
    Except TelemetryError LoggingState := do
  let _ ← (chooseFilter env c).mapError .filter
  if st.installed then throw .subscriberInit
  return { installed := true }

end ShipSlap.Telemetry
