import OmpMySQL.Library.Transition
import OmpMySQL.Query
import OmpMySQL.Proofs.EngineFlow
import OmpMySQL.Engine
import OmpMySQL.Proofs.EngineOrder
import OmpMySQL.Proofs.Delivery
import OmpMySQL.Proofs.OneCommand
import OmpMySQL.Library.Monitor
import OmpMySQL.Proofs.Wakeup
import OmpMySQL.Guards
import OmpMySQL.Library.Lexical
import OmpMySQL.Proofs.StackedGuard
import OmpMySQL.Proofs.Staging
import OmpMySQL.Proofs.Snapshot
import OmpMySQL.Amx
import OmpMySQL.Dispatch
import OmpMySQL.Proofs.Upcalls
import OmpMySQL.Proofs.HookConvention
import OmpMySQL.Proofs.CallbackScript
import OmpMySQL.Proofs.QueryReports
import OmpMySQL.Journal
import OmpMySQL.Proofs.JournalNotes
import OmpMySQL.Proofs.PlayerSessions
import OmpMySQL.Handles
import OmpMySQL.Proofs.HandleStability
import OmpMySQL.Library.Table
import OmpMySQL.Connections
import OmpMySQL.Proofs.GuardPolicy
import OmpMySQL.Proofs.ConnectionRegistry
import OmpMySQL.Proofs.PendingCount
import OmpMySQL.Library.SqlTokens
import OmpMySQL.ModelSql
import OmpMySQL.Proofs.ModelText
import OmpMySQL.Submissions
import OmpMySQL.Proofs.RejectReports
import OmpMySQL.Gate
import OmpMySQL.Proofs.GuardGate
import OmpMySQL.Proofs.GuardAtomicity
import OmpMySQL.Connection
import OmpMySQL.ResultCache
import OmpMySQL.Proofs.ResultBounds
import OmpMySQL.HashPool
import OmpMySQL.Library.Custody
import OmpMySQL.Proofs.HashDelivery
import OmpMySQL.ModelVariables
import OmpMySQL.Proofs.VariableLifetime
import OmpMySQL.Statements
import OmpMySQL.Proofs.ConnectionAddresses
import OmpMySQL.Proofs.StatementLifetime
import OmpMySQL.Proofs.StatementHome
import OmpMySQL.Proofs.WholeResults
import OmpMySQL.Proofs.Reconciliation
import OmpMySQL.Proofs.StatementHandles
import OmpMySQL.RateHistory
import OmpMySQL.Proofs.RateWindow
import OmpMySQL.ConfigFile
import OmpMySQL.Connect
import OmpMySQL.Proofs.Encryption
import OmpMySQL.OptionHistory
import OmpMySQL.Proofs.TlsVersions
import OmpMySQL.Proofs.GuardOptions
import OmpMySQL.Library.Lexemes
import OmpMySQL.Proofs.MultiStatement
import OmpMySQL.Library.Scanning
import OmpMySQL.Proofs.ScannerAgreement
import OmpMySQL.Library.ShiftRegister
import OmpMySQL.Proofs.Keystream
import OmpMySQL.Library.OrderedMap
import OmpMySQL.Proofs.ModelBindings
import OmpMySQL.Natives
import OmpMySQL.Proofs.KeyWriteBack
import OmpMySQL.Proofs.FormatRendering
import OmpMySQL.Library.SqlLiterals
import OmpMySQL.Proofs.Escaping
import OmpMySQL.Proofs.CallbackArguments
import OmpMySQL.Proofs.ConfigText
import OmpMySQL.Proofs.SqlMeaning
import OmpMySQL.Proofs.FindUpdate
import OmpMySQL.Library.Binary32
import OmpMySQL.Library.Decimals
import OmpMySQL.Vectors
import OmpMySQL.Proofs.VectorText
import OmpMySQL.Library.BumpHeap
import OmpMySQL.MainThread
import OmpMySQL.Library.Lanes
import OmpMySQL.Backlog
import OmpMySQL.Proofs.NestedUpcalls
import OmpMySQL.Proofs.ScriptHeaps
import OmpMySQL.Proofs.NestedReads
import OmpMySQL.Proofs.UpcallOrder
import OmpMySQL.Proofs.ConfinedRows
import OmpMySQL.Proofs.CallbackEntry
import OmpMySQL.Proofs.CallbackRows
import OmpMySQL.Proofs.NestedReports
import OmpMySQL.Proofs.WorkConservation
import OmpMySQL.Library.Budget
import OmpMySQL.Proofs.MainProgress
import OmpMySQL.Proofs.EngineBacklog
import OmpMySQL.Proofs.MainBacklog
import OmpMySQL.Proofs.CallOrder
import OmpMySQL.Proofs.QuietScripts
import OmpMySQL.Proofs.RetainedResults
import OmpMySQL.Proofs.Arrival
import OmpMySQL.Library.SqlTemplates
import OmpMySQL.Proofs.FormatTemplates
import OmpMySQL.Proofs.AnswerReads
import OmpMySQL.Proofs.ResultOrigins
