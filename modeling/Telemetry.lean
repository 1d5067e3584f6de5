import Telemetry.Instrument.Bench
import Telemetry.Log.Filter
import Telemetry.Main
import Telemetry.Proofs.DraftCalls
import Telemetry.Proofs.LineReader
import Telemetry.Transport.Outlet
import Telemetry.Proofs.LineRoundTrip
import Telemetry.Proofs.SenderFates
import Telemetry.Proofs.CycleWalk
import Telemetry.Proofs.IdleBaseline
import Telemetry.Proofs.TransformRecords
import Telemetry.Proofs.TransformTracking
import Telemetry.Proofs.AbortedCycles
import Telemetry.Proofs.FailedTransforms
import Telemetry.Proofs.QueueHistory
import Telemetry.Proofs.CheckedOptions
import Telemetry.Proofs.TrimmedText
import Telemetry.Proofs.CycleRuns
import Telemetry.Proofs.FirstObservations
import Telemetry.Proofs.SenderFigures
import Telemetry.Proofs.CycleOffers
import Telemetry.Proofs.FailingInstruments
import Telemetry.Proofs.QueueWindow
import Telemetry.Proofs.RecordStamps
import Telemetry.Proofs.CycleReports
import Telemetry.Proofs.InstrumentValues
import Telemetry.Proofs.InstrumentFields
import Telemetry.Proofs.IdleRuns
import Telemetry.Proofs.LiveNames
import Telemetry.Proofs.NewHighs
import Telemetry.Proofs.DistinctSeries
import Telemetry.Proofs.MeterReads
import Telemetry.Proofs.RelativeCounts
import Telemetry.Proofs.RegistryMaps
import Telemetry.Proofs.RecordLines
import Telemetry.Proofs.MeterAccounts
import Telemetry.Proofs.OptionSources
import Telemetry.Proofs.ReporterStops
import Telemetry.Proofs.NameSegments
import Telemetry.Proofs.SchemeText
import Telemetry.Proofs.TransformOutcomes
import Telemetry.Proofs.DraftMaps
import Telemetry.Proofs.IdleDelta
import Telemetry.Proofs.CycleOverflow
import Telemetry.Proofs.ReadableOptions
import Telemetry.Proofs.Quantiles
import Telemetry.Proofs.Unescaping
import Telemetry.Proofs.RunningMaximum
