import ModernSapi.Library.Machine
import ModernSapi.Protocol.ControlEvent
import ModernSapi.Worker.Context
import ModernSapi.Worker.StatePolicy
import ModernSapi.Worker.DeliveryPolicy
import ModernSapi.Worker.EventPolicy
import ModernSapi.Worker.FrameAssembler
import ModernSapi.Worker.Locked
import ModernSapi.Worker.LockedSpec
import ModernSapi.Worker.Threads
import ModernSapi.Worker.Invariant
import ModernSapi.Worker.Quarantine
import ModernSapi.Worker.CancelDrain
import ModernSapi.Library.Trace
import ModernSapi.Worker.Delivery
import ModernSapi.Session.Provider
import ModernSapi.Session.Session
import ModernSapi.Worker.RequestMove
import ModernSapi.Session.Attribution
import ModernSapi.Session.CountedBytes
import ModernSapi.Session.Lifecycle
import ModernSapi.Session.StuckCancellation
import ModernSapi.Session.CompliantProvider
import ModernSapi.Engine.Callbacks
import ModernSapi.Engine.SiteOwnership
import ModernSapi.Worker.Classification
import ModernSapi.Worker.Watchdog
import ModernSapi.Engine.EventIsolation
import ModernSapi.Library.History
import ModernSapi.Worker.SpeakResult
import ModernSapi.Engine.Recovery
import ModernSapi.Engine.StaleRecords
import ModernSapi.Library.Records
import ModernSapi.Protocol.ControlReader
import ModernSapi.Library.Threads
import ModernSapi.Unload.DllModule
import ModernSapi.Unload.EntryExclusion
import ModernSapi.Logger.AsyncLogger
import ModernSapi.Logger.MessageOrder
import ModernSapi.Unload.LoggerUnload
import ModernSapi.Engine.AudioFormat
import ModernSapi.Library.Fallible
import ModernSapi.Engine.ProviderSession
import ModernSapi.Session.Inactivity
import ModernSapi.Engine.WaveFormatEx
import ModernSapi.Worker.CancelBudget
import ModernSapi.Worker.StoppedRequest
import ModernSapi.Engine.SpanCalls
import ModernSapi.Protocol.RecordSize
import ModernSapi.Engine.ObjectTokens
import ModernSapi.Logger.Quiescence
import ModernSapi.Unload.EntryLeases
import ModernSapi.Library.Handles
import ModernSapi.Logger.WorkerHandles
import ModernSapi.Logger.StartedWorkers
import ModernSapi.Unload.DllGate
import ModernSapi.Protocol.WireInteger
import ModernSapi.Protocol.PipeConnection
import ModernSapi.Manager.LineReader
import ModernSapi.Library.Xml
import ModernSapi.V1.SsmlParser
import ModernSapi.V1.SsmlDocument
import ModernSapi.V1.SourceOffsets
import ModernSapi.Library.KeyTree
import ModernSapi.Manager.VoiceTokens
import ModernSapi.Library.Recency
import ModernSapi.Library.NodeList
import ModernSapi.Library.ByteStream
import ModernSapi.V1.CacheFile
import ModernSapi.V1.PcmCache
import ModernSapi.V1.CacheIntegrity
import ModernSapi.V1.CacheRoundTrip
import ModernSapi.Library.WindowsPath
import ModernSapi.Library.FixedPath
import ModernSapi.Manager.ProviderInstaller
import ModernSapi.Manager.InstallEffects
import ModernSapi.Manager.ContainedInstall
import ModernSapi.Library.Unicode
import ModernSapi.Engine.StringUtils
import ModernSapi.Engine.FragmentSerializer
import ModernSapi.Session.CommittedBytes
import ModernSapi.Session.AskedOnce
import ModernSapi.Mock.Synthesis
import ModernSapi.Mock.Transcript
import ModernSapi.Mock.HandleSpeak
import ModernSapi.Mock.Records
import ModernSapi.Mock.MockSession
import ModernSapi.Mock.RequestBooks
import ModernSapi.Mock.Refinement
import ModernSapi.Mock.SapiFragments
import ModernSapi.Mock.WordOffsets
import ModernSapi.Library.Leases
import ModernSapi.V1.PcmTrimmer
import ModernSapi.V1.SynthesizerPool
import ModernSapi.V1.PoolInvariant
import ModernSapi.V1.Syntheses
import ModernSapi.V1.CallDelivery
import ModernSapi.V1.BookmarkMarks
import ModernSapi.Protocol.OverlappedRead
import ModernSapi.Mock.ProviderLifetime
import ModernSapi.Manager.Uninstall
import ModernSapi.V1.SpeakFragments
import ModernSapi.V1.ProxyEngine
