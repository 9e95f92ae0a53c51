import Datafeed.Storage.Alerts
import Datafeed.Storage.History
import Datafeed.Storage.Operations

/-!
# Round trips

The record types whose statements, parameters and readers are aligned.
-/

namespace Datafeed.Storage

open Sql

variable {Json : Type} [DecidableEq Json]

/-- What is created reads back, but for a key the server generates; an updated
alert or subscription reads back with its creation time unchanged.  JSON text
comes back as text of the same value. -/
structure RoundTrips (codec : Codec Json) : Prop where
  alert : ∀ referenced,
    CreateReads alerts referenced (createAlert codec)
      (fun store created => getAlertById codec store created.alertId)
      (Insertable codec insertAlert Alert.field)
      (fun alert result => result = { alert with alertId := result.alertId })
  alertUpdate : ∀ referenced,
    UpdateReads alerts referenced (updateAlert codec)
      (fun store alert => getAlertById codec store alert.alertId)
      (fun alert =>
        Admissible codec alerts referenced alerts.columns alert.field)
      (fun old alert result =>
        result = { alert with createdAt := old.createdAt })
  subscription : ∀ referenced,
    CreateReads subscriptions referenced (createSubscription codec)
      (fun store created =>
        getSubscriptionById codec store created.subscriptionId)
      (Insertable codec insertSubscription Subscription.field)
      (fun sub result => ∃ text, JsonEq codec sub.filtersJson text ∧
        result = { sub with filtersJson := text })
  subscriptionUpdate : ∀ referenced,
    UpdateReads subscriptions referenced (updateSubscription codec)
      (fun store sub => getSubscriptionById codec store sub.subscriptionId)
      (fun sub =>
        Admissible codec subscriptions referenced subscriptions.columns
          sub.field)
      (fun old sub result => ∃ text, JsonEq codec sub.filtersJson text ∧
        result =
          { sub with filtersJson := text, createdAt := old.createdAt })
  exchangeHealth : ∀ referenced,
    CreateReads exchangeHealthTable referenced (createExchangeHealth codec)
      (fun store created => getExchangeHealthById codec store created.id)
      (Insertable codec insertExchangeHealth ExchangeHealth.field)
      (fun health result => result = { health with id := result.id })
  backtestJob : ∀ referenced,
    CreateReads backtestJobs referenced (createBacktestJob codec)
      (fun store created => getBacktestJobById codec store created.jobId)
      (Insertable codec insertBacktestJob BacktestJob.field)
      (fun job result => result = job)
  configVersion : ∀ referenced,
    CreateReads configVersions referenced (createConfigVersion codec)
      (fun store created => getConfigVersionById codec store created.id)
      (Insertable codec insertConfigVersion ConfigVersion.field)
      (fun config result => ∃ text, JsonEq codec config.featureFlags text ∧
        result = { config with id := result.id, featureFlags := text })
  exchangeMetrics : ∀ referenced,
    CreateReads exchangeMetricsHistory referenced
      (createExchangeMetricsEntry codec)
      (fun store created => theOnly (getExchangeMetricsByCondition codec store
        fun row => row .id = stored codec .int8 (.integer created.id)))
      (Insertable codec insertExchangeMetrics ExchangeMetricsEntry.field)
      (fun entry result => result = { entry with id := result.id })
  queue : ∀ referenced,
    CreateReads queueHistory referenced (createQueueEntry codec)
      (fun store created => theOnly (getQueueEntriesByCondition codec store
        fun row => row .id = stored codec .int8 (.integer created.id)))
      (Insertable codec insertQueueEntry QueueEntry.field)
      (fun entry result => result = { entry with id := result.id })
  systemMetrics : ∀ referenced,
    CreateReads systemMetricsHistory referenced (createSystemMetricsEntry codec)
      (fun store created => theOnly (getSystemMetricsByCondition codec store
        fun row => row .id = stored codec .int8 (.integer created.id)))
      (Insertable codec insertSystemMetrics SystemMetricsEntry.field)
      (fun entry result => result = { entry with id := result.id })
  networkMetrics : ∀ referenced,
    CreateReads networkMetricsHistory referenced
      (createNetworkMetricsEntry codec)
      (fun store created => theOnly (getNetworkMetricsByCondition codec store
        fun row => row .id = stored codec .int8 (.integer created.id)))
      (Insertable codec insertNetworkMetrics NetworkMetricsEntry.field)
      (fun entry result => result = { entry with id := result.id })
  databaseMetrics : ∀ referenced,
    CreateReads databaseMetricsHistory referenced
      (createDatabaseMetricsEntry codec)
      (fun store created => theOnly (getDatabaseMetricsByCondition codec store
        fun row => row .id = stored codec .int8 (.integer created.id)))
      (Insertable codec insertDatabaseMetrics DatabaseMetricsEntry.field)
      (fun entry result => result = { entry with id := result.id })

theorem recordTypes_roundTrip (codec : Codec Json) : RoundTrips codec where
  alert _ := createAlert_reads
  alertUpdate _ := updateAlert_reads
  subscription _ := createSubscription_reads
  subscriptionUpdate _ := updateSubscription_reads
  exchangeHealth _ := createExchangeHealth_reads
  backtestJob _ := createBacktestJob_reads
  configVersion _ := createConfigVersion_reads
  exchangeMetrics _ := createExchangeMetricsEntry_reads
  queue _ := createQueueEntry_reads
  systemMetrics _ := createSystemMetricsEntry_reads
  networkMetrics _ := createNetworkMetricsEntry_reads
  databaseMetrics _ := createDatabaseMetricsEntry_reads

/-- An alert that is created on an empty table, with an absent instance and an
absent message, and then acknowledged. -/
def latencyAlert : Alert where
  alertId := ""
  instanceId := none
  severity := "warning"
  source := "feed"
  metricName := "p99_latency_ms"
  currentValue := some 120
  threshold := some 100
  message := none
  acknowledged := false
  createdAt := 1700000000000
  resolvedAt := none

theorem recordTypes_roundTrip_latencyAlert :
    ReadsBack (createAlert plainCodec)
      (fun store created => getAlertById plainCodec store created.alertId)
      (fun alert result => result = { alert with alertId := result.alertId })
      (Store.empty String alerts fun _ _ => false) .first latencyAlert := by
  apply (recordTypes_roundTrip plainCodec).alert
  · exact ⟨rfl, rfl⟩
  · exact insertable_empty (by decide) .first

end Datafeed.Storage
