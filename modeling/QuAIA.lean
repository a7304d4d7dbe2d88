import QuAIA.Orchestrator.TestGroup.Conservation
import QuAIA.Orchestrator.TestGroup.Stranding
import QuAIA.Orchestrator.Recovery
import QuAIA.Orchestrator.SendTask
import QuAIA.Orchestrator.System
import QuAIA.Orchestrator.Discovery
import QuAIA.Orchestrator.Reservation
import QuAIA.Library.Semaphore
import QuAIA.Library.Substring
import QuAIA.Orchestrator.PipelineConsumer
import QuAIA.Orchestrator.Slots.Account
import QuAIA.Orchestrator.Slots.Bound
import QuAIA.Orchestrator.Slots.Exact
import QuAIA.Orchestrator.Attribution
import QuAIA.Common.MeegoClient
import QuAIA.Library.Compaction
import QuAIA.Orchestrator.WriteBack
import QuAIA.Common.AgentBase
import QuAIA.Common.AgentExecutor
import QuAIA.Agents.IncidentCreation
import QuAIA.Common.Messages
import QuAIA.Common.CustomLlmWrapper
import QuAIA.Library.CoalescingBuffer
import QuAIA.Library.RefIndex
import QuAIA.Library.Text
import QuAIA.Common.TraceRedaction
import QuAIA.Common.RedactionStructure
import QuAIA.Common.Streaming
import QuAIA.Common.AgentLogCapture
import QuAIA.Library.BoundedDeque
import QuAIA.Common.LogDrain
import QuAIA.Common.TaskExecution
import QuAIA.Common.TaskEvents
import QuAIA.Common.TaskSequence
import QuAIA.Common.LogDelivery
import QuAIA.Orchestrator.LogStream
import QuAIA.Orchestrator.StreamingHub
import QuAIA.Orchestrator.HubSharing
import QuAIA.Orchestrator.HubDelivery
import QuAIA.Orchestrator.TaskHistory
import QuAIA.Orchestrator.TaskRetention
import QuAIA.Orchestrator.GlobalStream
import QuAIA.Orchestrator.StreamConsumer
import QuAIA.Library.Json
import QuAIA.Library.Json.RoundTrip
import QuAIA.Library.Json.Fragments
import QuAIA.Library.Json.Walking
import QuAIA.Library.Brackets
import QuAIA.Common.ModelDump
import QuAIA.Agents.TestCaseReview
import QuAIA.Agents.ReviewDocument
import QuAIA.Orchestrator.AgentLogs
import QuAIA.Services.RagSync
import QuAIA.Services.RagConvergence
import QuAIA.Orchestrator.StuckTasks
import QuAIA.Orchestrator.RunningTasks
import QuAIA.Library.SlidingWindow
import QuAIA.Orchestrator.ReviewGuard
import QuAIA.Orchestrator.ReviewWebhook
import QuAIA.Orchestrator.SubscriberBuffer
import QuAIA.Library.Retry
import QuAIA.Services.ZephyrClient
import QuAIA.Services.ZephyrSearch
import QuAIA.Library.Fallible
import QuAIA.Services.XrayClient
import QuAIA.Services.XrayTests
import QuAIA.Services.XrayLabels
import QuAIA.Library.Digits
import QuAIA.Library.Binary64
import QuAIA.Library.Pattern
import QuAIA.Services.TimeText
import QuAIA.Services.ReportedTime
import QuAIA.Orchestrator.LogLine
import QuAIA.Orchestrator.BrokenContext
import QuAIA.Orchestrator.RegistryMaps
import QuAIA.Orchestrator.RecoveredAgents
import QuAIA.Library.StableSort
import QuAIA.Library.Paging
import QuAIA.Orchestrator.LogViews
import QuAIA.Orchestrator.LogPages
import QuAIA.Orchestrator.TaskLifecycle
import QuAIA.Library.Scanning
import QuAIA.Agents.TestCaseGeneration
import QuAIA.Agents.SectionWords
import QuAIA.Library.Absorbing
import QuAIA.Agents.SectionMerging
import QuAIA.Library.Windows
import QuAIA.Services.PromptGuard
import QuAIA.Library.SingleFlight
import QuAIA.Scripts.FeishuToken
import QuAIA.Library.ExitStack
import QuAIA.Common.AgentLifespan
import QuAIA.Orchestrator.SseStream
import QuAIA.Library.Gathering
import QuAIA.Agents.BatchedCalls
import QuAIA.Library.ExpiringStore
import QuAIA.Orchestrator.DashboardAuth
import QuAIA.Orchestrator.StreamAuthorization
import QuAIA.Library.KeysetPaging
import QuAIA.Services.VectorDb
import QuAIA.Library.Grouping
import QuAIA.Orchestrator.ExecutionRound
import QuAIA.Orchestrator.IncidentRound
import QuAIA.Orchestrator.Slots.Watched
import QuAIA.Orchestrator.EventSources
import QuAIA.Common.ServiceKeys
import QuAIA.Common.PromptGuardClient
import QuAIA.Library.PosixPath
import QuAIA.Common.AttachmentHandler
import QuAIA.Agents.SharedAttachments
import QuAIA.Orchestrator.StartupDiscovery
import QuAIA.Services.AllureReport
import QuAIA.Library.Json.Unescaped
import QuAIA.Library.RotatingFile
import QuAIA.Common.LogFiles
import QuAIA.Library.ChangingPages
import QuAIA.Orchestrator.GrowingLog
import QuAIA.Orchestrator.DashboardSession
