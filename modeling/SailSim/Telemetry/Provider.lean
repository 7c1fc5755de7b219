/-!
# The log provider

A process may export its log records through a log provider. The provider exists only when it
is enabled, and then needs somewhere to export to: a log writer, a collector endpoint, or both;
with neither it is refused. A disabled provider does nothing and has no log pipeline.

Emitted records wait in a batch until the provider is flushed or shut down, which exports them:
the log writer then holds them. A provider that was shut down drops what is emitted to it, and
flushing or shutting it down again succeeds without exporting anything. The collector endpoint
is only configured here, never contacted.

Meters are always available: the global meter of an enabled provider, a meter that does nothing
otherwise.
-/

namespace SailSim.Telemetry

/-- The settings of a log provider. -/
structure ProviderSettings where
  enabled : Bool := false
  serviceName : String := ""
  serviceVersion : String := ""
  /-- How long an export may take, in milliseconds; the default when not positive. -/
  batchTimeoutMs : Int := 0
  /-- Whether exported records go to a log writer. -/
  writer : Bool := false
  /-- The collector's endpoint, none when empty. -/
  endpoint : String := ""
  insecure : Bool := false
  deriving Repr, Inhabited

/-- The log pipeline of an enabled provider. -/
structure LogPipeline where
  /-- Records emitted and not yet exported. -/
  pending : Nat := 0
  /-- Records the log writer received. -/
  written : Nat := 0
  stopped : Bool := false
  deriving Repr, Inhabited

/-- A log provider. -/
structure Provider where
  settings : ProviderSettings
  pipeline : Option LogPipeline
  deriving Repr, Inhabited

namespace Provider

/-- A provider for the settings, or why there can be none. -/
def new (s : ProviderSettings) : Except String Provider :=
  if !s.enabled then .ok ⟨s, none⟩
  else if !s.writer && s.endpoint.isEmpty then
    .error "OTel enabled but no log writer or endpoint configured"
  else .ok ⟨s, some {}⟩

/-- Whether the provider is enabled. -/
def enabled (p : Provider) : Bool := p.settings.enabled

/-- Whether a meter is available: always. -/
def hasMeter (_ : Provider) : Bool := true

/-- Emits a record: false when there is no log pipeline. -/
def emit (p : Provider) : Bool × Provider :=
  match p.pipeline with
  | none => (false, p)
  | some l => (true, { p with pipeline := some (if l.stopped then l else { l with pending := l.pending + 1 }) })

/-- Exports the waiting records. -/
def flush (p : Provider) : Provider :=
  match p.pipeline with
  | none => p
  | some l =>
    let written := if p.settings.writer then l.written + l.pending else l.written
    { p with pipeline := some { l with pending := 0, written } }

/-- Exports the waiting records and stops the pipeline. -/
def shutdown (p : Provider) : Provider :=
  match p.flush.pipeline with
  | none => p
  | some l => { p with pipeline := some { l with stopped := true } }

/-- Whether the log writer received anything. -/
def wroteLogs (p : Provider) : Bool :=
  match p.pipeline with
  | some l => l.written > 0
  | none => false

end Provider

end SailSim.Telemetry
