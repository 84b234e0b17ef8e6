import SatelIntegra.PairSearch
import SatelIntegra.IncrementalSplit
import SatelIntegra.CheckedAccess
import SatelIntegra.Codec
import SatelIntegra.CodecSegments
import SatelIntegra.CodecRoundTrip
import SatelIntegra.CodecChunks
import SatelIntegra.Command
import SatelIntegra.Config
import SatelIntegra.Telemetry
import SatelIntegra.State
import SatelIntegra.MaskParsers
import SatelIntegra.SystemParsers
import SatelIntegra.TroubleLayout
import SatelIntegra.CacheUpdates
import SatelIntegra.AutoRequester
import SatelIntegra.CacheLog
import SatelIntegra.CacheOrder
import SatelIntegra.TroubleCache
import SatelIntegra.AutoRead
import SatelIntegra.ProgramLogic
import SatelIntegra.World
import SatelIntegra.Worker
import SatelIntegra.WorkerExchange
import SatelIntegra.WorkerConnect
import SatelIntegra.WorkerTelemetry
import SatelIntegra.ByteStreamSafety
import SatelIntegra.RwLocks
import SatelIntegra.LockPrograms
import SatelIntegra.BlockMode
import SatelIntegra.EncryptedStream
import SatelIntegra.EncryptedPackets
import SatelIntegra.EncryptedSession
import SatelIntegra.EncryptedFraming
import SatelIntegra.KeyedWrites
import SatelIntegra.TroubleCodes
import SatelIntegra.TroubleReplay
import SatelIntegra.TroubleParts
import SatelIntegra.TroubleAgreement
import SatelIntegra.WorkerAttempts
import SatelIntegra.WorkerLedger
import SatelIntegra.WorkerFailures
import SatelIntegra.WorkerPings
import SatelIntegra.WorkerPushes
import SatelIntegra.EncryptedLengths
import SatelIntegra.TruncatedFrames
import SatelIntegra.AutoReadTables
import SatelIntegra.WorkerRouting
import SatelIntegra.AtomicCalls
import SatelIntegra.Catalogs
import SatelIntegra.NameParsers
import SatelIntegra.ItemCache
import SatelIntegra.ConfigValidation
import SatelIntegra.Client
import SatelIntegra.Queries
import SatelIntegra.QueryRuns
import SatelIntegra.QueryFailures
import SatelIntegra.Temperatures
import SatelIntegra.CircuitBreaker
import SatelIntegra.ProbeBlocking
import SatelIntegra.ProbeRetry
import SatelIntegra.QueryFrames
import SatelIntegra.QueryAnswers
import SatelIntegra.ProbeResets
import SatelIntegra.QueryLevels
import SatelIntegra.CipherLoops
import SatelIntegra.PanelClock
import SatelIntegra.ParserBounds
import SatelIntegra.StatusEvents
import SatelIntegra.UserCodes
import SatelIntegra.ControlCommands
import SatelIntegra.TemperaturePolling
import SatelIntegra.SensorFaults
import SatelIntegra.HotReload
import SatelIntegra.WorkerInvariants
import SatelIntegra.MaskConvergence
import SatelIntegra.HandshakeVersions
import SatelIntegra.WorkerStatuses
import SatelIntegra.BulkSync
import SatelIntegra.LevelAgreement
import SatelIntegra.StatisticsEvents
import SatelIntegra.WorkerCommands
import SatelIntegra.StateQueries
import SatelIntegra.StateTasks
import SatelIntegra.CountingStream
import SatelIntegra.TroubleCatalog
import SatelIntegra.WireBytes
import SatelIntegra.SessionKeys
import SatelIntegra.SealedSessions
