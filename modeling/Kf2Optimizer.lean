import Kf2Optimizer.Lib.Machine
import Kf2Optimizer.Lib.Double
import Kf2Optimizer.Config.IniUpsert
import Kf2Optimizer.Telemetry.PresentWindows
import Kf2Optimizer.Telemetry.PresentDrains
import Kf2Optimizer.Telemetry.PresentOrder
import Kf2Optimizer.Telemetry.ResourceTelemetryWorker
import Kf2Optimizer.Optimizer.Actuation
import Kf2Optimizer.Optimizer.Receipts
import Kf2Optimizer.Optimizer.Breaker
import Kf2Optimizer.Optimizer.Pressure
import Kf2Optimizer.Optimizer.PressureMonotone
import Kf2Optimizer.Optimizer.Sample
import Kf2Optimizer.Optimizer.Governor
import Kf2Optimizer.Optimizer.Evaluate
import Kf2Optimizer.Optimizer.Clock
import Kf2Optimizer.Optimizer.Replay
import Kf2Optimizer.Optimizer.Evidence
import Kf2Optimizer.Optimizer.Floors
import Kf2Optimizer.Optimizer.Locks
import Kf2Optimizer.Optimizer.Response
import Kf2Optimizer.Lib.Files
import Kf2Optimizer.Optimizer.Range
import Kf2Optimizer.Optimizer.Queued
import Kf2Optimizer.Backup.Debt
import Kf2Optimizer.Backup.FinishedRecords
import Kf2Optimizer.Backup.RecoveryResumes
import Kf2Optimizer.Backup.ChangeDocumentSound
import Kf2Optimizer.Config.ApplyErrors
import Kf2Optimizer.Config.ApplyCrash
import Kf2Optimizer.Game.AdaptiveControlConnection
import Kf2Optimizer.Game.AdaptiveControlDispatcher
import Kf2Optimizer.Telemetry.GameLogPublication
import Kf2Optimizer.Telemetry.GameLogBoundary
import Kf2Optimizer.Graphics.AdaptiveResourceControl
import Kf2Optimizer.Flex.FlexRecovery
import Kf2Optimizer.Flex.ReaderSound
import Kf2Optimizer.Game.FrameRateCapRuns
import Kf2Optimizer.Game.OfflineTelemetryRuns
import Kf2Optimizer.Game.AnchorSearchSound
import Kf2Optimizer.Graphics.GraphicsInteraction
import Kf2Optimizer.Graphics.QualityMeet
import Kf2Optimizer.Graphics.OnlineCorpseMaximum
import Kf2Optimizer.Config.IniEntries
import Kf2Optimizer.Config.SettingCatalog
import Kf2Optimizer.Config.SettingsStable
import Kf2Optimizer.Update.SemanticVersion
import Kf2Optimizer.Update.ReleaseSelection
import Kf2Optimizer.Update.UpdatePersistence
import Kf2Optimizer.Telemetry.CorpseTelemetry
import Kf2Optimizer.Game.VideoChanges
import Kf2Optimizer.Diagnostics.EventLogPromises
