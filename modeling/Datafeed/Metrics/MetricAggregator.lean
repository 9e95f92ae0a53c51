import Datafeed.Metrics.ExchangeMonitor
import Mathlib.Data.List.Induction
import Mathlib.Data.Rat.Floor

/-!
# Aggregating snapshots

A snapshot has about ninety fields, which `MetricAggregator` folds in a few
ways: rates and gauges are summed and divided by the number of samples, counters
keep their last value, flags are decided by majority.  Fields treated alike are
families here, indexed by their names.  Doubles are rationals, sums of 64-bit
fields wrap; the numbers of samples stay far below the range of their type.
-/

namespace Datafeed.MetricAggregator

open ExchangeMonitor (ExchangeStats)

/-! ## The families of fields -/

inductive LatencyCategory
  | exchange
  | parsing
  | normalization
  | processing
  | broadcast
  | serialization
  | socketSend
  | general
  deriving DecidableEq

/-- The per-second rates, in the order in which they are accumulated. -/
inductive Rate
  | messagesReceived
  | messagesSent
  | bytesReceived
  | bytesSent
  | packetsReceived
  | packetsSent
  | ticks
  | trades
  | orderbookUpdates
  | subscriptions
  | broadcasts
  | databaseWrites
  | databaseReads
  deriving DecidableEq

def Rate.all : List Rate :=
  [.messagesReceived, .messagesSent, .bytesReceived, .bytesSent,
    .packetsReceived, .packetsSent, .ticks, .trades, .orderbookUpdates,
    .subscriptions, .broadcasts, .databaseWrites, .databaseReads]

/-- The flags `rates_…_initialized_`. -/
inductive RateFlag
  | messages
  | bytes
  | packets
  | ticks
  | trades
  | orderbook
  | subscriptions
  | broadcasts
  | databaseWrites
  | databaseReads
  deriving DecidableEq

/-- The flag that a rate is accumulated with. -/
def Rate.flag : Rate → RateFlag
  | messagesReceived | messagesSent => .messages
  | bytesReceived | bytesSent => .bytes
  | packetsReceived | packetsSent => .packets
  | ticks => .ticks
  | trades => .trades
  | orderbookUpdates => .orderbook
  | subscriptions => .subscriptions
  | broadcasts => .broadcasts
  | databaseWrites => .databaseWrites
  | databaseReads => .databaseReads

/-- The counters, of which the last value is kept. -/
inductive Counter
  | totalMessagesReceived
  | totalMessagesSent
  | totalBytesReceived
  | totalBytesSent
  | totalPacketsReceived
  | totalPacketsSent
  | totalTicks
  | totalTrades
  | totalOrderbookUpdates
  | totalSubscriptions
  | totalBroadcasts
  | totalDatabaseWrites
  | totalDatabaseReads
  | packetDrops
  | duplicatePackets
  | outOfOrderPackets
  | sequenceGaps
  | missingTicks
  | invalidMessages
  | corruptedPackets
  | parseFailures
  | totalConnections
  | totalDisconnections
  | authenticationFailures
  | reconnectCount
  | tcpReconnects
  | socketErrors
  | readErrors
  | writeErrors
  | tlsHandshakeFailures
  | bytesTransmitted
  | networkBytesReceived
  | connectionFailures
  | successfulWrites
  | failedWrites
  | dbConnectionFailures
  | transactionCount
  deriving DecidableEq

/-- The groups of fields with a first-sample flag of their own. -/
inductive Group
  | system
  | queue
  | session
  | network
  | database
  deriving DecidableEq

/-- The fields of type `double` that are averaged. -/
inductive Gauge
  | cpuUsagePercent
  | memoryGrowthRate
  | uptimeSeconds
  | queueWaitTimeMs
  | queueProcessingTimeMs
  | averageSessionDurationMs
  | longestSessionDurationMs
  | socketRttMs
  | networkBandwidthBps
  | insertLatencyMs
  | queryLatencyMs
  | writesPerSec
  | readsPerSec
  deriving DecidableEq

def Gauge.group : Gauge → Group
  | cpuUsagePercent | memoryGrowthRate | uptimeSeconds => .system
  | queueWaitTimeMs | queueProcessingTimeMs => .queue
  | averageSessionDurationMs | longestSessionDurationMs => .session
  | socketRttMs | networkBandwidthBps => .network
  | insertLatencyMs | queryLatencyMs | writesPerSec | readsPerSec => .database

/-- The integral fields that are averaged. -/
inductive Level
  | memoryRss
  | peakRss
  | virtualMemory
  | heapUsage
  | threadCount
  | incomingQueueDepth
  | outgoingQueueDepth
  | serializationQueueDepth
  | maxIncomingQueueDepth
  | maxOutgoingQueueDepth
  | maxSerializationQueueDepth
  | queueOverflowCount
  | activeClients
  | activeSessions
  | activeSubscriptions
  | activeDbConnections
  | dbQueueWaiting
  deriving DecidableEq

def Level.group : Level → Group
  | memoryRss | peakRss | virtualMemory | heapUsage | threadCount => .system
  | incomingQueueDepth | outgoingQueueDepth | serializationQueueDepth
  | maxIncomingQueueDepth | maxOutgoingQueueDepth | maxSerializationQueueDepth
  | queueOverflowCount => .queue
  | activeClients | activeSessions | activeSubscriptions => .session
  | activeDbConnections | dbQueueWaiting => .database

/-! ## Snapshots -/

structure LatencyStats where
  average : ℚ := 0
  min : ℚ := 0
  max : ℚ := 0
  p50 : ℚ := 0
  p95 : ℚ := 0
  p99 : ℚ := 0
  count : UInt64 := 0
  deriving DecidableEq

inductive HealthStatus
  | healthy
  | degraded
  | critical
  deriving DecidableEq

structure FeedMetricsSnapshot where
  latencyStats : LatencyCategory → Option LatencyStats := fun _ => none
  rates : Rate → ℚ := fun _ => 0
  counters : Counter → UInt64 := fun _ => 0
  gauges : Gauge → ℚ := fun _ => 0
  levels : Level → UInt64 := fun _ => 0
  queueBackpressure : Bool := false
  staleFeed : Bool := false
  feedHealthScore : UInt32 := 0
  feedHealthStatus : HealthStatus := .healthy
  exchangeStats : String → Option ExchangeStats := fun _ => none

instance : Inhabited FeedMetricsSnapshot := ⟨{}⟩

/-! ## The accumulators -/

structure LatencyRunning where
  sumAvg : ℚ := 0
  sumMin : ℚ := 0
  sumMax : ℚ := 0
  sumP50 : ℚ := 0
  sumP95 : ℚ := 0
  sumP99 : ℚ := 0
  sumCount : UInt64 := 0
  minMin : ℚ := 0
  maxMax : ℚ := 0
  minP50 : ℚ := 0
  maxP50 : ℚ := 0
  minP95 : ℚ := 0
  maxP95 : ℚ := 0
  minP99 : ℚ := 0
  maxP99 : ℚ := 0
  initialized : Bool := false
  deriving DecidableEq

def LatencyRunning.add (stats : LatencyStats) (running : LatencyRunning) :
    LatencyRunning :=
  if running.initialized then
    { sumAvg := running.sumAvg + stats.average
      sumMin := running.sumMin + stats.min
      sumMax := running.sumMax + stats.max
      sumP50 := running.sumP50 + stats.p50
      sumP95 := running.sumP95 + stats.p95
      sumP99 := running.sumP99 + stats.p99
      sumCount := running.sumCount + stats.count
      minMin := min running.minMin stats.min
      maxMax := max running.maxMax stats.max
      minP50 := min running.minP50 stats.p50
      maxP50 := max running.maxP50 stats.p50
      minP95 := min running.minP95 stats.p95
      maxP95 := max running.maxP95 stats.p95
      minP99 := min running.minP99 stats.p99
      maxP99 := max running.maxP99 stats.p99
      initialized := true }
  else
    { sumAvg := stats.average
      sumMin := stats.min
      sumMax := stats.max
      sumP50 := stats.p50
      sumP95 := stats.p95
      sumP99 := stats.p99
      sumCount := stats.count
      minMin := stats.min
      maxMax := stats.max
      minP50 := stats.p50
      maxP50 := stats.p50
      minP95 := stats.p95
      maxP95 := stats.p95
      minP99 := stats.p99
      maxP99 := stats.p99
      initialized := true }

structure ExchangeRunning where
  sumUptime : ℚ := 0
  sumReconn : UInt64 := 0
  sumHbFail : UInt64 := 0
  sumWsDisc : UInt64 := 0
  sumMsgsRecv : UInt64 := 0
  sumMsgsDrop : UInt64 := 0
  sumParseErr : UInt64 := 0
  sumFeedLag : ℚ := 0
  sumExLat : ℚ := 0
  connectedCount : ℕ := 0
  staleCount : ℕ := 0
  sampleCount : ℕ := 0
  lastConnected : Bool := false
  lastStale : Bool := false
  deriving DecidableEq

/-- `if (flag) ++number`. -/
def countIf (flag : Bool) (number : ℕ) : ℕ :=
  if flag then number + 1 else number

def ExchangeRunning.add (stats : ExchangeStats) (running : ExchangeRunning) :
    ExchangeRunning where
  sumUptime := running.sumUptime + stats.uptimeSeconds
  sumReconn := running.sumReconn + stats.reconnectCount
  sumHbFail := running.sumHbFail + stats.heartbeatFailures
  sumWsDisc := running.sumWsDisc + stats.websocketDisconnects
  sumMsgsRecv := running.sumMsgsRecv + stats.messagesReceived
  sumMsgsDrop := running.sumMsgsDrop + stats.messagesDropped
  sumParseErr := running.sumParseErr + stats.parseErrors
  sumFeedLag := running.sumFeedLag + stats.feedLagMs
  sumExLat := running.sumExLat + stats.exchangeLatencyMs
  connectedCount := countIf stats.connected running.connectedCount
  staleCount := countIf stats.stale running.staleCount
  sampleCount := running.sampleCount + 1
  lastConnected := stats.connected
  lastStale := stats.stale

/-- The sums and extrema of the rates. -/
structure RateRunning where
  sum : Rate → ℚ := fun _ => 0
  min : Rate → ℚ := fun _ => 0
  max : Rate → ℚ := fun _ => 0
  initialized : RateFlag → Bool := fun _ => false

structure Aggregator where
  count : ℕ := 0
  latencyRunning : LatencyCategory → Option LatencyRunning := fun _ => none
  rates : RateRunning := {}
  last : Counter → UInt64 := fun _ => 0
  sumGauge : Gauge → ℚ := fun _ => 0
  sumLevel : Level → UInt64 := fun _ => 0
  minCpu : ℚ := 0
  maxCpu : ℚ := 0
  minMemRss : UInt64 := 0
  maxMemRss : UInt64 := 0
  bpTrueCount : ℕ := 0
  initialized : Group → Bool := fun _ => false
  staleTrueCount : ℕ := 0
  sumHealthScore : UInt64 := 0
  healthyCount : ℕ := 0
  degradedCount : ℕ := 0
  criticalCount : ℕ := 0
  exchangeRunning : String → Option ExchangeRunning := fun _ => none

/-! ## Adding a snapshot -/

/-- The lambda `accum_rate` on the accumulators of one rate. -/
def accumRate (values : Rate → ℚ) (running : RateRunning) (rate : Rate) :
    RateRunning :=
  let value := values rate
  { sum := Function.update running.sum rate (running.sum rate + value)
    min := Function.update running.min rate
      (if running.initialized rate.flag then Min.min (running.min rate) value
      else value)
    max := Function.update running.max rate
      (if running.initialized rate.flag then Max.max (running.max rate) value
      else value)
    initialized := Function.update running.initialized rate.flag true }

/-- `sum = value` for the first sample of a group, `sum += value` later. -/
def accumulate {Value : Type} [Add Value] (initialized : Bool)
    (sum value : Value) : Value :=
  if initialized then sum + value else value

/-- Adds a sample to the entry of a map, which `operator[]` creates. -/
def addEntry {Key Sample Running : Type} (add : Sample → Running → Running)
    (initial : Running) (samples : Key → Option Sample)
    (entries : Key → Option Running) (key : Key) : Option Running :=
  match samples key with
  | some sample => some (add sample ((entries key).getD initial))
  | none => entries key

def addSnapshot (aggregator : Aggregator) (s : FeedMetricsSnapshot) :
    Aggregator where
  count := aggregator.count + 1
  latencyRunning :=
    addEntry LatencyRunning.add {} s.latencyStats aggregator.latencyRunning
  rates := Rate.all.foldl (accumRate s.rates) aggregator.rates
  last := s.counters
  sumGauge gauge :=
    accumulate (aggregator.initialized gauge.group)
      (aggregator.sumGauge gauge) (s.gauges gauge)
  sumLevel level :=
    accumulate (aggregator.initialized level.group)
      (aggregator.sumLevel level) (s.levels level)
  minCpu :=
    if aggregator.initialized .system then
      min aggregator.minCpu (s.gauges .cpuUsagePercent)
    else s.gauges .cpuUsagePercent
  maxCpu :=
    if aggregator.initialized .system then
      max aggregator.maxCpu (s.gauges .cpuUsagePercent)
    else s.gauges .cpuUsagePercent
  minMemRss :=
    if aggregator.initialized .system then
      min aggregator.minMemRss (s.levels .memoryRss)
    else s.levels .memoryRss
  maxMemRss :=
    if aggregator.initialized .system then
      max aggregator.maxMemRss (s.levels .memoryRss)
    else s.levels .memoryRss
  bpTrueCount :=
    if aggregator.initialized .queue then
      countIf s.queueBackpressure aggregator.bpTrueCount
    else if s.queueBackpressure then 1 else 0
  initialized _ := true
  staleTrueCount := countIf s.staleFeed aggregator.staleTrueCount
  sumHealthScore := aggregator.sumHealthScore + s.feedHealthScore.toUInt64
  healthyCount :=
    countIf (s.feedHealthStatus = .healthy) aggregator.healthyCount
  degradedCount :=
    countIf (s.feedHealthStatus = .degraded) aggregator.degradedCount
  criticalCount :=
    countIf (s.feedHealthStatus = .critical) aggregator.criticalCount
  exchangeRunning :=
    addEntry ExchangeRunning.add {} s.exchangeStats aggregator.exchangeRunning

/-! ## Producing a summary -/

def LatencyRunning.summary (count : ℕ) (running : LatencyRunning) :
    LatencyStats where
  average := running.sumAvg / count
  min := running.minMin
  max := running.maxMax
  p50 := running.sumP50 / count
  p95 := running.sumP95 / count
  p99 := running.sumP99 / count
  count := running.sumCount / UInt64.ofNat count

def ExchangeRunning.summary (running : ExchangeRunning) : ExchangeStats where
  connected := running.connectedCount > running.sampleCount / 2
  stale := running.staleCount > running.sampleCount / 2
  uptimeSeconds :=
    if running.sampleCount > 0 then running.sumUptime / running.sampleCount
    else 0
  feedLagMs :=
    if running.sampleCount > 0 then running.sumFeedLag / running.sampleCount
    else 0
  exchangeLatencyMs :=
    if running.sampleCount > 0 then running.sumExLat / running.sampleCount
    else 0
  reconnectCount := running.sumReconn / UInt64.ofNat running.sampleCount
  heartbeatFailures := running.sumHbFail / UInt64.ofNat running.sampleCount
  websocketDisconnects := running.sumWsDisc / UInt64.ofNat running.sampleCount
  messagesReceived := running.sumMsgsRecv / UInt64.ofNat running.sampleCount
  messagesDropped := running.sumMsgsDrop / UInt64.ofNat running.sampleCount
  parseErrors := running.sumParseErr / UInt64.ofNat running.sampleCount

/-- The quotient of a sum; `thread_count` is 32 bits wide. -/
def levelMean (count : ℕ) (sum : UInt64) (level : Level) : UInt64 :=
  if level = .threadCount then
    (sum / UInt64.ofNat count).toUInt32.toUInt64
  else sum / UInt64.ofNat count

def majorityStatus (aggregator : Aggregator) : HealthStatus :=
  if aggregator.healthyCount ≥ aggregator.degradedCount ∧
      aggregator.healthyCount ≥ aggregator.criticalCount then .healthy
  else if aggregator.degradedCount ≥ aggregator.criticalCount then .degraded
  else .critical

def produceSummary (aggregator : Aggregator) : FeedMetricsSnapshot :=
  if aggregator.count = 0 then {}
  else
    { latencyStats := fun category =>
        (aggregator.latencyRunning category).map
          (LatencyRunning.summary aggregator.count)
      rates := fun rate => aggregator.rates.sum rate / aggregator.count
      counters := aggregator.last
      gauges := fun gauge => aggregator.sumGauge gauge / aggregator.count
      levels := fun level =>
        levelMean aggregator.count (aggregator.sumLevel level) level
      queueBackpressure := aggregator.bpTrueCount > aggregator.count / 2
      staleFeed := aggregator.staleTrueCount > aggregator.count / 2
      feedHealthScore :=
        (aggregator.sumHealthScore / UInt64.ofNat aggregator.count).toUInt32
      feedHealthStatus := majorityStatus aggregator
      exchangeStats := fun name =>
        (aggregator.exchangeRunning name).map ExchangeRunning.summary }

/-- The extrema of the rates and of the resident memory are not assigned. -/
def reset (aggregator : Aggregator) : Aggregator :=
  { aggregator with
    count := 0
    latencyRunning := fun _ => none
    rates :=
      { aggregator.rates with
        sum := fun _ => 0
        initialized := fun _ => false }
    last := fun _ => 0
    sumGauge := fun _ => 0
    sumLevel := fun _ => 0
    minCpu := 0
    maxCpu := 0
    bpTrueCount := 0
    initialized := fun _ => false
    staleTrueCount := 0
    sumHealthScore := 0
    healthyCount := 0
    degradedCount := 0
    criticalCount := 0
    exchangeRunning := fun _ => none }

/-! ## What a summary depends on -/

/-- The aggregator of a list of snapshots. -/
def aggregate (snapshots : List FeedMetricsSnapshot) : Aggregator :=
  snapshots.foldl addSnapshot {}

/-- Forgets the extrema that `reset` leaves behind; no summary reads them. -/
def Aggregator.withoutExtrema (aggregator : Aggregator) : Aggregator :=
  { aggregator with
    rates :=
      { aggregator.rates with
        min := fun _ => 0
        max := fun _ => 0 }
    minMemRss := 0
    maxMemRss := 0 }

/-- Two aggregators differ at most in the extrema that no summary reads. -/
def Aggregator.Agrees (first second : Aggregator) : Prop :=
  first.withoutExtrema = second.withoutExtrema

theorem aggregate_append (snapshots : List FeedMetricsSnapshot)
    (s : FeedMetricsSnapshot) :
    aggregate (snapshots ++ [s]) = addSnapshot (aggregate snapshots) s := by
  rw [aggregate, List.foldl_append]
  rfl

theorem count_aggregate (snapshots : List FeedMetricsSnapshot) :
    (aggregate snapshots).count = snapshots.length := by
  induction snapshots using List.reverseRecOn with
  | nil => rfl
  | append_singleton snapshots s ih =>
      rw [aggregate_append, List.length_append]
      exact congrArg (· + 1) ih

/-- The sums of the rates do not depend on their extrema. -/
theorem foldl_accumRate_congr (values : Rate → ℚ) (order : List Rate)
    {first second : RateRunning} (hsum : first.sum = second.sum)
    (hinitialized : first.initialized = second.initialized) :
    (order.foldl (accumRate values) first).sum =
        (order.foldl (accumRate values) second).sum ∧
      (order.foldl (accumRate values) first).initialized =
        (order.foldl (accumRate values) second).initialized := by
  induction order generalizing first second with
  | nil => exact ⟨hsum, hinitialized⟩
  | cons rate order ih =>
      apply ih
      · simp only [accumRate, hsum]
      · simp only [accumRate, hinitialized]

theorem Aggregator.Agrees.addSnapshot {first second : Aggregator}
    (hagrees : first.Agrees second) (s : FeedMetricsSnapshot) :
    (addSnapshot first s).Agrees (addSnapshot second s) := by
  simp only [Agrees, withoutExtrema, Aggregator.mk.injEq,
    RateRunning.mk.injEq, true_and] at hagrees
  obtain ⟨hcount, hlatency, ⟨hsum, hrateFlags⟩, hlast, hgauge, hlevel,
    hminCpu, hmaxCpu, hbp, hflags, hstale, hscore, hhealthy, hdegraded,
    hcritical, hexchange⟩ := hagrees
  obtain ⟨hsums, hinitialized⟩ :=
    foldl_accumRate_congr s.rates Rate.all hsum hrateFlags
  simp only [Agrees, withoutExtrema, MetricAggregator.addSnapshot, hcount,
    hlatency, hsums, hinitialized, hgauge, hlevel, hminCpu, hmaxCpu, hbp,
    hflags, hstale, hscore, hhealthy, hdegraded, hcritical, hexchange]

theorem produceSummary_withoutExtrema (aggregator : Aggregator) :
    produceSummary aggregator.withoutExtrema = produceSummary aggregator := rfl

theorem Aggregator.Agrees.produceSummary_eq {first second : Aggregator}
    (hagrees : first.Agrees second) :
    produceSummary first = produceSummary second :=
  calc
    produceSummary first = produceSummary first.withoutExtrema :=
      (produceSummary_withoutExtrema first).symm
    _ = produceSummary second.withoutExtrema := congrArg produceSummary hagrees
    _ = produceSummary second := produceSummary_withoutExtrema second

/-- After `reset` the next summary sees none of the earlier snapshots. -/
theorem agrees_reset (aggregator : Aggregator) :
    (reset aggregator).Agrees (aggregate []) := rfl

end Datafeed.MetricAggregator
