import SailSim.Script.Basic
import SailSim.Telemetry.Provider

/-!
# The log provider script

The script makes a log provider (`Telemetry.Provider`) from `cfg`; a refused provider is the
answer. Each name of `ops` answers one element: `enabled`, `meter` and `loggerProvider` (whether
a log pipeline exists) as flags, `emit` as `emitted` or `no provider`, and `flush`, `shutdown`
as `ok`; `written` says whether the log writer received anything.
-/

namespace SailSim.Script

open Json Telemetry

/-- The provider's settings as requests give them. -/
def providerSettings (c : Fields) : Outcome ProviderSettings := do
  let batchTimeoutMs ← c.integer "batchTimeoutMs"
  pure { enabled := ← c.flag "enabled", serviceName := ← c.text "serviceName",
         serviceVersion := ← c.text "serviceVersion", batchTimeoutMs,
         writer := ← c.flag "writer", endpoint := ← c.text "endpoint",
         insecure := ← c.flag "insecure" }

/-- Runs one named command on the provider. -/
def providerCommand (p : Provider) (name : String) : Outcome (Json × Provider) :=
  match name with
  | "enabled" => pure (.bool p.enabled, p)
  | "meter" => pure (.bool p.hasMeter, p)
  | "loggerProvider" => pure (.bool p.pipeline.isSome, p)
  | "emit" =>
    let (emitted, p) := p.emit
    pure (.string (if emitted then "emitted" else "no provider"), p)
  | "flush" => pure (.string "ok", p.flush)
  | "shutdown" => pure (.string "ok", p.shutdown)
  | "written" => pure (.bool p.wroteLogs, p)
  | _ => badInput ("unknown otel op " ++ Text.quote name)

/-- Runs the named commands in order. -/
def providerCommands : Provider → List String → Outcome (List Json)
  | _, [] => pure []
  | p, n :: ns => do
    let (j, p) ← providerCommand p n
    pure (j :: (← providerCommands p ns))

/-- The log provider script. -/
def providerScript (r : Fields) : Outcome Json := do
  let settings ← providerSettings (← r.record "cfg" "main.OtelCfg")
  let names ← r.decode (Decoder.list "[]string" Decoder.string "") [] "ops"
  match Provider.new settings with
  | .error e => fail "error" e
  | .ok p => pure (.array (← providerCommands p names))

end SailSim.Script
