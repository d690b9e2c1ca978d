import BimodalArbitrage.Coop.Coro
import BimodalArbitrage.Coop.Loop
import BimodalArbitrage.Coop.Rely
import BimodalArbitrage.Coop.Frame
import BimodalArbitrage.Coop.Outside
import BimodalArbitrage.Coop.History
import BimodalArbitrage.Coop.Paced
import BimodalArbitrage.Coop.Parking
import BimodalArbitrage.Coop.Play
import BimodalArbitrage.Coop.Hiding
import BimodalArbitrage.Coop.Mutex
import BimodalArbitrage.Coop.Embed
import BimodalArbitrage.Ladder.Cost
import BimodalArbitrage.Ladder.Greedy
import BimodalArbitrage.Quota.Meter
import BimodalArbitrage.Quota.Saturating
import BimodalArbitrage.Quota.Tickets
import BimodalArbitrage.Store.Expiring
import BimodalArbitrage.Store.Latest
import BimodalArbitrage.Window.Suffix
import BimodalArbitrage.Numbers.Undefined
import BimodalArbitrage.Rounding.Nearest
import BimodalArbitrage.Rounding.Floating
import BimodalArbitrage.Histogram.Bins
import BimodalArbitrage.Text.Trim
import BimodalArbitrage.Text.Join
import BimodalArbitrage.Codec.Base64
import BimodalArbitrage.Codec.Hex
import BimodalArbitrage.Tensor.Basic
import BimodalArbitrage.Python
import BimodalArbitrage.Schemas
import BimodalArbitrage.Config
import BimodalArbitrage.Config.Grammar
import BimodalArbitrage.Security.KeyValidation
import BimodalArbitrage.Security.FailClosed
import BimodalArbitrage.Security.GateOutcomes
import BimodalArbitrage.Security.Kms
import BimodalArbitrage.Security.KeyMaterial
import BimodalArbitrage.Security.LiveMode
import BimodalArbitrage.Security.Envelope
import BimodalArbitrage.Security.SecretScope
import BimodalArbitrage.Api.Contracts
import BimodalArbitrage.Api.RateLimit
import BimodalArbitrage.Api.RateBound
import BimodalArbitrage.Api.KeyIsolation
import BimodalArbitrage.Api.Pacing
import BimodalArbitrage.Api.ExactLimit
import BimodalArbitrage.Api.Auth
import BimodalArbitrage.Api.RequestPipeline
import BimodalArbitrage.Api.MeteredRequests
import BimodalArbitrage.Execution.Decision
import BimodalArbitrage.Execution.UndefinedNumbers
import BimodalArbitrage.Execution.Orders
import BimodalArbitrage.Execution.Alpha
import BimodalArbitrage.Execution.CycleAlpha
import BimodalArbitrage.Runtime.Trace
import BimodalArbitrage.Execution.BrokenLeg
import BimodalArbitrage.Execution.Triangular
import BimodalArbitrage.Execution.Exposure
import BimodalArbitrage.Execution.HedgeRuns
import BimodalArbitrage.Execution.HedgeOrders
import BimodalArbitrage.Execution.Hedging
import BimodalArbitrage.Execution.PairedOrders
import BimodalArbitrage.Execution.BrokenLegSafety
import BimodalArbitrage.Execution.TrianglePosition
import BimodalArbitrage.Execution.TriangleUnwind
import BimodalArbitrage.Execution.ExecutedVolume
import BimodalArbitrage.Execution.RealizedPnl
import BimodalArbitrage.Marketdata.Microstructure
import BimodalArbitrage.Marketdata.Depth
import BimodalArbitrage.Marketdata.Vwap
import BimodalArbitrage.Marketdata.VwapFormula
import BimodalArbitrage.Marketdata.Features
import BimodalArbitrage.Marketdata.FeatureRows
import BimodalArbitrage.Marketdata.DepthRows
import BimodalArbitrage.Marketdata.OrderFlow
import BimodalArbitrage.Marketdata.OrderbookCache
import BimodalArbitrage.Marketdata.CacheText
import BimodalArbitrage.Marketdata.SnapshotText
import BimodalArbitrage.Marketdata.SampleLog
import BimodalArbitrage.Ml.Signal
import BimodalArbitrage.Ml.SignalWindow
import BimodalArbitrage.Ml.DepthHazard
import BimodalArbitrage.Ml.Inference
import BimodalArbitrage.Ml.ModalWorker
import BimodalArbitrage.Ml.SharedModel
import BimodalArbitrage.Execution.PaperExchange
import BimodalArbitrage.Execution.PaperFills
import BimodalArbitrage.Runtime.State
import BimodalArbitrage.Api.Dashboard
import BimodalArbitrage.Marketdata.RoundedVwap
import BimodalArbitrage.Marketdata.Runner
import BimodalArbitrage.Marketdata.EvaluationErrors
import BimodalArbitrage.Marketdata.Trades
import BimodalArbitrage.Marketdata.PairTrade
import BimodalArbitrage.Marketdata.PairCap
import BimodalArbitrage.Marketdata.LimitPrices
import BimodalArbitrage.Marketdata.PaperPnl
import BimodalArbitrage.Marketdata.TriangleSizing
import BimodalArbitrage.Marketdata.Footprint
import BimodalArbitrage.Marketdata.Provenance
import BimodalArbitrage.Api.Gateway
import BimodalArbitrage.Android.ArbitrageDtos
import BimodalArbitrage.Android.Agreement
import BimodalArbitrage.Android.ExecuteTrade
import BimodalArbitrage.Runtime.Process
import BimodalArbitrage.Runtime.Tasks
import BimodalArbitrage.Runtime.Moves
import BimodalArbitrage.Runtime.SignalLedger
import BimodalArbitrage.Runtime.Guarded
import BimodalArbitrage.Runtime.Recorded
import BimodalArbitrage.Runtime.CacheAccess
import BimodalArbitrage.Runtime.BookTexts
import BimodalArbitrage.Runtime.LatestBook
import BimodalArbitrage.Runtime.OneBook
import BimodalArbitrage.Runtime.DegenerateBooks
import BimodalArbitrage.Runtime.KillSwitchLaw
import BimodalArbitrage.Runtime.DailyCap
import BimodalArbitrage.Runtime.DeadMonitor
import BimodalArbitrage.Runtime.ErrorReports
import BimodalArbitrage.Db.Repository
import BimodalArbitrage.Calendar.Gregorian
import BimodalArbitrage.Calendar.IsoFormat
import BimodalArbitrage.Json.Text
import BimodalArbitrage.Json.Numeral
import BimodalArbitrage.Json.Escape
import BimodalArbitrage.Json.Print
import BimodalArbitrage.Crash.File
import BimodalArbitrage.Crash.Lines
import BimodalArbitrage.Execution.KillSwitchFile
import BimodalArbitrage.Runtime.Lock
import BimodalArbitrage.Runtime.Evaluations
import BimodalArbitrage.Runtime.TradeTraces
import BimodalArbitrage.Runtime.Persistence
import BimodalArbitrage.Runtime.Progress
import BimodalArbitrage.Runtime.CalendarDays
