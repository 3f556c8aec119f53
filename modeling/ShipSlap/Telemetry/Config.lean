/-!
Logging settings of a service: its name, the id of its subsystem (`00` for the whole process),
the log level or filter, and whether events are written as JSON. They come from environment
variables, with defaults for those that are not set.
-/
namespace ShipSlap.Telemetry

/-- Environment variables with their values. -/
abbrev Environment := List (String × String)

/-- The value of an environment variable, if it is set. -/
def Environment.get? (env : Environment) (name : String) : Option String :=
  (env.find? (·.1 == name)).map (·.2)

/-- The logging settings of a service. -/
structure TelemetryConfig where
  serviceName : String := "overlay-discovery"
  subsystemId : String := "00"
  logLevel : String := "info"
  jsonLogs : Bool := false
  deriving DecidableEq, Repr

/-- Whether a flag's value turns it on: `true`, `1` or `yes`, in any case. -/
def isOnFlag (v : String) : Bool :=
  ["true", "1", "yes"].contains (v.map Char.toLower)

/-- The settings the environment gives: `OV_SERVICE_NAME`, `OV_SUBSYSTEM_ID`, the level from
`OV_LOG_LEVEL` or else `RUST_LOG`, and the flag `OV_JSON_LOGS`. -/
def TelemetryConfig.fromEnv (env : Environment) : TelemetryConfig :=
  { serviceName := (env.get? "OV_SERVICE_NAME").getD "overlay-discovery"
    subsystemId := (env.get? "OV_SUBSYSTEM_ID").getD "00"
    logLevel := ((env.get? "OV_LOG_LEVEL").orElse fun _ => env.get? "RUST_LOG").getD "info"
    jsonLogs := ((env.get? "OV_JSON_LOGS").map isOnFlag).getD false }

/-- The settings of a subsystem: those of the environment, with the subsystem's id and the
service name `ov-<id>-<name>`. -/
def TelemetryConfig.forSubsystem (env : Environment) (id name : String) : TelemetryConfig :=
  { TelemetryConfig.fromEnv env with subsystemId := id, serviceName := "ov-" ++ id ++ "-" ++ name }

/-- The service name with the subsystem id after it, unless the id is `00` or the name is
already a subsystem's (starts with `ov-`). -/
def TelemetryConfig.fullServiceName (c : TelemetryConfig) : String :=
  if c.subsystemId = "00" || c.serviceName.startsWith "ov-" then c.serviceName
  else c.serviceName ++ "-" ++ c.subsystemId

end ShipSlap.Telemetry
