import IntruderWatch.Library.Base64
import IntruderWatch.Library.Cooldown
import IntruderWatch.Library.FloatDigits
import IntruderWatch.Library.FloatOrder
import IntruderWatch.Library.FloatText
import IntruderWatch.Library.GoText
import IntruderWatch.Library.Histories
import IntruderWatch.Library.Interaction
import IntruderWatch.Library.JsText
import IntruderWatch.Library.JsonDumps
import IntruderWatch.Library.JsonText
import IntruderWatch.Library.KeyedDiff
import IntruderWatch.Library.Monitor
import IntruderWatch.Library.PosixPath
import IntruderWatch.Library.PyFloat
import IntruderWatch.Library.PyInt
import IntruderWatch.Library.PyJson
import IntruderWatch.Library.PyNumerals
import IntruderWatch.Library.PyOps
import IntruderWatch.Library.PyRepr
import IntruderWatch.Library.PyText
import IntruderWatch.Library.PyTime
import IntruderWatch.Library.ReadFull
import IntruderWatch.Library.RunningFolds
import IntruderWatch.Library.Runs
import IntruderWatch.Library.Slices
import IntruderWatch.Library.StoreTraces
import IntruderWatch.Library.Uri
import IntruderWatch.Library.Watchers
import IntruderWatch.Library.Worlds
import IntruderWatch.AlertService
import IntruderWatch.BrokerConnect
import IntruderWatch.Capture
import IntruderWatch.CaptureFrames
import IntruderWatch.CaptureLifecycle
import IntruderWatch.Config
import IntruderWatch.Detector
import IntruderWatch.DetectorProcess
import IntruderWatch.Dispatcher
import IntruderWatch.DispatcherLinks
import IntruderWatch.Frame
import IntruderWatch.Health
import IntruderWatch.Ingestion
import IntruderWatch.Loop
import IntruderWatch.Monitoring
import IntruderWatch.Monolith
import IntruderWatch.Motion
import IntruderWatch.Pages
import IntruderWatch.Pipeline
import IntruderWatch.Schedule
import IntruderWatch.Session
import IntruderWatch.Snapshot
import IntruderWatch.StaggeredStart
import IntruderWatch.Supervision
import IntruderWatch.Viewer
import IntruderWatch.ViewerPage
import IntruderWatch.VoiceCalls
import IntruderWatch.Webhook
import IntruderWatch.Zones
import IntruderWatch.Proofs.AlertCallback
import IntruderWatch.Proofs.AlertCooldown
import IntruderWatch.Proofs.AlertDelivery
import IntruderWatch.Proofs.AlertLinks
import IntruderWatch.Proofs.AlertMemory
import IntruderWatch.Proofs.AlertPublishing
import IntruderWatch.Proofs.AlertSurvival
import IntruderWatch.Proofs.BrokerSupervision
import IntruderWatch.Proofs.BufferEviction
import IntruderWatch.Proofs.CallReports
import IntruderWatch.Proofs.CallSelection
import IntruderWatch.Proofs.CaptureAlignment
import IntruderWatch.Proofs.CaptureFiltering
import IntruderWatch.Proofs.CaptureProcesses
import IntruderWatch.Proofs.CaptureSessions
import IntruderWatch.Proofs.CapturedFrames
import IntruderWatch.Proofs.CapturerMessages
import IntruderWatch.Proofs.ConnectAttempts
import IntruderWatch.Proofs.ConnectionLeaks
import IntruderWatch.Proofs.DetectorCallback
import IntruderWatch.Proofs.DetectorDecisions
import IntruderWatch.Proofs.DetectorLife
import IntruderWatch.Proofs.DetectorReset
import IntruderWatch.Proofs.DispatcherBuffer
import IntruderWatch.Proofs.DispatcherWorker
import IntruderWatch.Proofs.EndpointLabels
import IntruderWatch.Proofs.FileNameDetails
import IntruderWatch.Proofs.FrameAccounting
import IntruderWatch.Proofs.FrameAcknowledgement
import IntruderWatch.Proofs.FrameDelivery
import IntruderWatch.Proofs.FrameLayout
import IntruderWatch.Proofs.FrameMessages
import IntruderWatch.Proofs.FrameOwnership
import IntruderWatch.Proofs.GridSync
import IntruderWatch.Proofs.ImageContainment
import IntruderWatch.Proofs.LightboxIdentity
import IntruderWatch.Proofs.LoginAgreement
import IntruderWatch.Proofs.LoopDispatch
import IntruderWatch.Proofs.MonolithAlarms
import IntruderWatch.Proofs.MotionCoverage
import IntruderWatch.Proofs.MotionMasking
import IntruderWatch.Proofs.MotionMonotone
import IntruderWatch.Proofs.MotionScan
import IntruderWatch.Proofs.MotionSpecification
import IntruderWatch.Proofs.OverlayBounds
import IntruderWatch.Proofs.OverlayMarks
import IntruderWatch.Proofs.OverlayTrace
import IntruderWatch.Proofs.PageSessions
import IntruderWatch.Proofs.PhotoAccounting
import IntruderWatch.Proofs.PhotoSelection
import IntruderWatch.Proofs.PipelineMoves
import IntruderWatch.Proofs.PublishRetry
import IntruderWatch.Proofs.ReadInstants
import IntruderWatch.Proofs.ScheduleAgreement
import IntruderWatch.Proofs.ScheduleIntervals
import IntruderWatch.Proofs.SessionTokens
import IntruderWatch.Proofs.Shutdown
import IntruderWatch.Proofs.SnapshotFreshness
import IntruderWatch.Proofs.StartDelays
import IntruderWatch.Proofs.StreamHealth
import IntruderWatch.Proofs.SuppressionCounts
import IntruderWatch.Proofs.UnauthenticatedRequests
import IntruderWatch.Proofs.WebhookBatches
import IntruderWatch.Proofs.ZoneBounds
