import Datafeed.Session.SessionManager
import Datafeed.Server.SessionLifetime
import Datafeed.LiveSource.SwitchExchange
import Datafeed.Storage.RoundTrips
import Datafeed.Storage.AuditLog
import Datafeed.Storage.FeedMetrics
import Datafeed.Metrics.ExchangeMonitor
import Datafeed.Metrics.PersistedOnce
import Datafeed.Metrics.Retention
import Datafeed.Server.WriteQueue
import Datafeed.Server.Sessions
import Datafeed.Server.Ownership
import Datafeed.Server.Handshake
import Datafeed.Core.Text
import Datafeed.Server.OnRead
import Datafeed.Server.Subscriptions
import Datafeed.Server.Relay
import Datafeed.Backtest.Replay
import Datafeed.Metrics.MetricAggregator
import Datafeed.Metrics.RingBuffer
import Datafeed.Metrics.StateManager
import Datafeed.Storage.Clients
import Datafeed.Storage.CreateCommit
import Datafeed.Core.SqlLexer
import Datafeed.Api.ComposedStatements
import Datafeed.Broker.AdapterRun
import Datafeed.Broker.ReadLoop
import Datafeed.Core.Quantile
import Datafeed.Metrics.LatencyTracker
import Datafeed.Metrics.ThroughputTracker
import Datafeed.Metrics.MetricsCollector
import Datafeed.Metrics.CollectorReset
import Datafeed.Metrics.LatencySummary
import Datafeed.Storage.TimestampCodec
import Datafeed.Storage.IntervalText
import Datafeed.Storage.Intervals
import Datafeed.Server.Commands
import Datafeed.Core.ReadModifyWrite
import Datafeed.Storage.RowUpdates
import Datafeed.Api.ConcurrentUpdates
import Datafeed.Broker.Backoff
import Datafeed.Broker.FirstConnect
import Datafeed.Broker.Resubscribe
import Datafeed.Metrics.AggregatorHistory
import Datafeed.Metrics.CumulativeFields
import Datafeed.Metrics.MeasuredLatency
import Datafeed.Api.QueryParam
import Datafeed.Api.Router
import Datafeed.Api.Routes
import Datafeed.Session.TopicsUndone
import Datafeed.Metrics.WeekBoundary
import Datafeed.Server.Diagnostics
import Datafeed.Storage.Connection
import Datafeed.Core.Block
import Datafeed.Server.Reading
import Datafeed.Backtest.ReplayWindow
import Datafeed.Api.PutThresholds
import Datafeed.Core.Ranking
import Datafeed.Core.Select
import Datafeed.Api.Conditions
import Datafeed.Storage.Selecting
import Datafeed.Api.SortedLists
import Datafeed.Storage.HistoryReaders
import Datafeed.Api.Histories
import Datafeed.Metrics.RateExtrema
import Datafeed.LiveSource.ReportedExchange
import Datafeed.Metrics.ClientConnections
import Datafeed.Core.Interleaving
import Datafeed.Metrics.ConcurrentDepth
import Datafeed.Metrics.ConcurrentSessions
import Datafeed.Broker.Polling
import Datafeed.Core.PubSub
import Datafeed.Core.Simulation
import Datafeed.Core.SqlEscape
import Datafeed.Core.Worker
import Datafeed.Metrics.SnapshotScheduler
import Datafeed.Metrics.StateManagerThread
import Datafeed.Server.Delivery
import Datafeed.Storage.TextStatements
import Datafeed.Api.ClientRoutes
import Datafeed.Metrics.SnapshotConverter
import Datafeed.Metrics.SummaryPersistence
import Datafeed.Server.HttpSession
import Datafeed.Api.FeedStatus
import Datafeed.Api.SteadyStatus
import Datafeed.Server.Lifetimes
