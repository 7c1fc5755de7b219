import SailSim.Archive.Client
import SailSim.Archive.Server
import SailSim.Binary64.Basic
import SailSim.Binary64.Remainder
import SailSim.Binary64.Round
import SailSim.Binary64.Shortest
import SailSim.Boat.Clock
import SailSim.Boat.Environment
import SailSim.Boat.Instruments
import SailSim.Boat.Params
import SailSim.Boat.Step
import SailSim.Chart.Encode
import SailSim.Chart.Figure
import SailSim.Chart.Raster
import SailSim.Chart.Vector
import SailSim.Cli.Command
import SailSim.Cli.Flags
import SailSim.Cli.Plot
import SailSim.Cli.Recorded
import SailSim.Cli.Session
import SailSim.Cli.World
import SailSim.Config.Layers
import SailSim.Config.Program
import SailSim.Config.Value
import SailSim.Controls
import SailSim.Disk.Basic
import SailSim.Disk.Path
import SailSim.Dispatch.Dispatcher
import SailSim.Elementary.Arc
import SailSim.Elementary.ExpLog
import SailSim.Elementary.Power
import SailSim.Elementary.Reduction
import SailSim.Elementary.Trig
import SailSim.Geo.Ellipsoid
import SailSim.Geo.Geodetic
import SailSim.Geo.Locator
import SailSim.Geo.Track
import SailSim.Geometry.Attitude
import SailSim.Geometry.Vec3
import SailSim.Gzip
import SailSim.Heel
import SailSim.Influx.Line
import SailSim.Influx.Link
import SailSim.Json.Decode
import SailSim.Json.Fields
import SailSim.Json.Instant
import SailSim.Json.Marshal
import SailSim.Json.Read
import SailSim.Json.Value
import SailSim.Json.Write
import SailSim.Live.Stream
import SailSim.Live.Viewer
import SailSim.Log.Handler
import SailSim.Log.Value
import SailSim.Log.Zero
import SailSim.Magnetic.Coefficients
import SailSim.Magnetic.Earth
import SailSim.Magnetic.Model
import SailSim.Main
import SailSim.Monitor
import SailSim.Net.Dial
import SailSim.Net.Http
import SailSim.Net.Query
import SailSim.Net.Url
import SailSim.Queue
import SailSim.Queue.Shared
import SailSim.Run.Basic
import SailSim.Run.Decode
import SailSim.Run.Export
import SailSim.Run.Json
import SailSim.Run.Progress
import SailSim.Run.Runner
import SailSim.Sail.Curve
import SailSim.Sail.Rig
import SailSim.Scalar
import SailSim.Schedule
import SailSim.Script.Archive
import SailSim.Script.Basic
import SailSim.Script.Cli
import SailSim.Script.Config
import SailSim.Script.Influx
import SailSim.Script.Logging
import SailSim.Script.Provider
import SailSim.Script.Publisher
import SailSim.Script.Scratch
import SailSim.Script.Store
import SailSim.Script.Viewer
import SailSim.Sim.Basic
import SailSim.Sim.Settings
import SailSim.Sim.SettingsJson
import SailSim.Sim.Setup
import SailSim.Steering
import SailSim.Storage.Memory
import SailSim.Storage.Recorder
import SailSim.Store.Backend
import SailSim.Store.Database
import SailSim.Store.File
import SailSim.Store.Snapshots
import SailSim.Store.Record
import SailSim.Telemetry.Meter
import SailSim.Telemetry.Provider
import SailSim.Telemetry.Publisher
import SailSim.Text.Blank
import SailSim.Text.Number
import SailSim.Text.Quote
import SailSim.Text.ReadFloat
import SailSim.Text.ReadInt
import SailSim.Text.Utf8
import SailSim.Time.Duration
import SailSim.Time.Instant
import SailSim.Time.Rfc3339
import SailSim.Uuid
import SailSim.Wave
import SailSim.Proofs.FloatOrder
import SailSim.Proofs.Schedule
import SailSim.Proofs.RunLoop
import SailSim.Text.Split
import SailSim.Proofs.Delivery
import SailSim.Proofs.Disk
import SailSim.Proofs.Recording
import SailSim.Proofs.Exact
import SailSim.Proofs.Mirror.Frame
import SailSim.Proofs.Mirror.Step
import SailSim.Proofs.Mirror.Run
import SailSim.Proofs.SimClock
import SailSim.Proofs.FloatClass
import SailSim.Proofs.ArmedFlag
import SailSim.Proofs.CalmWater
import SailSim.Proofs.LevelTurn
import SailSim.Proofs.Surface
import SailSim.Proofs.BufferedSinks
import SailSim.Proofs.Disk.ReadBack
import SailSim.Proofs.GzipRoundTrip
import SailSim.Proofs.MemoryExport
import SailSim.Proofs.TrackLength
import SailSim.Proofs.Binary64.Pack
import SailSim.Proofs.Binary64.Round
import SailSim.Proofs.Binary64.Order
import SailSim.Proofs.Binary64.Nearest
import SailSim.Proofs.Binary64.Remainder
import SailSim.Proofs.Binary64.Interpolation
import SailSim.Proofs.WavePhase
import SailSim.Proofs.AngleWrap
import SailSim.Proofs.CurveLookup
import SailSim.Proofs.Rotation
import SailSim.Proofs.DirectRoll
import SailSim.Proofs.Turning
import SailSim.Proofs.Validation
import SailSim.Proofs.ServoOrder
import SailSim.Proofs.SharedQueue
import SailSim.Proofs.SinkRegistry
import SailSim.Proofs.SampleLedger
import SailSim.Proofs.SnapshotReplacement
import SailSim.Proofs.PositionText
import SailSim.Proofs.Binary64.Positive
import SailSim.Proofs.MonitorRates
import SailSim.Proofs.SailSigns
import SailSim.Proofs.JsonRoundTrip
import SailSim.Proofs.GenericJson
import SailSim.Proofs.StoredRecords
import SailSim.Proofs.BrokerDecimation
import SailSim.Proofs.Binary64.Interval
import SailSim.Proofs.Binary64.Scientific
import SailSim.Proofs.Binary64.Zeros
import SailSim.Proofs.Binary64.Digits
import SailSim.Proofs.FloatText
import SailSim.Proofs.Calendar
import SailSim.Proofs.ViewerAcks
