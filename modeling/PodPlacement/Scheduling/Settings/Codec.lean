import PodPlacement.Config.Value
import PodPlacement.Document
import PodPlacement.Scheduling.Settings

/-!
Reading the scheduler's settings from a document and writing them as plain data. A field that is
left out keeps the value it has in the default settings as a whole.
-/

namespace PodPlacement

open Document Text

variable {δ : Type} [Document δ]

namespace PluginChoice

def read? (d : δ) : Option PluginChoice := do
  let f ← Fields.read ["name", "weight"] d
  let name ← f.required "name" text?
  let weight ← f.optional "weight" 1 (integer? .signed64)
  return { name, weight }

def toConfig (c : PluginChoice) : ConfigValue :=
  .record [("name", .text c.name), ("weight", .whole c.weight)]

end PluginChoice

namespace PluginSet

def read? (d : δ) : Option PluginSet := do
  let f ← Fields.read ["pre_filter", "filter", "pre_score", "score"] d
  let choices := listOf? (PluginChoice.read? (δ := δ))
  let preFilter ← f.optional "pre_filter" standard.preFilter choices
  let filter ← f.optional "filter" standard.filter choices
  let preScore ← f.optional "pre_score" standard.preScore choices
  let score ← f.optional "score" standard.score choices
  return { preFilter, filter, preScore, score }

def toConfig (s : PluginSet) : ConfigValue :=
  let choices (cs : List PluginChoice) : ConfigValue := .list (cs.map PluginChoice.toConfig)
  .record [("pre_filter", choices s.preFilter), ("filter", choices s.filter),
    ("pre_score", choices s.preScore), ("score", choices s.score)]

end PluginSet

namespace RetryConfig

def standard : RetryConfig := {}

def read? (d : δ) : Option RetryConfig := do
  let f ← Fields.read ["steps", "base_delay_ms", "factor", "jitter"] d
  let steps ← f.optional "steps" standard.steps (natural? .unsigned32)
  let baseDelayMs ← f.optional "base_delay_ms" standard.baseDelayMs (natural? .unsigned64)
  let factor ← f.optional "factor" standard.factor number?
  let jitter ← f.optional "jitter" standard.jitter number?
  return { steps, baseDelayMs, factor, jitter }

def toConfig (c : RetryConfig) : ConfigValue :=
  .record [("steps", .ofNat c.steps), ("base_delay_ms", .ofNat c.baseDelayMs),
    ("factor", .number c.factor), ("jitter", .number c.jitter)]

end RetryConfig

namespace PreemptionSettings

def standard : PreemptionSettings := {}

def read? (d : δ) : Option PreemptionSettings := do
  let f ← Fields.read ["grace_period_seconds", "max_poll_interval_ms"] d
  let graceSeconds ← f.optional "grace_period_seconds" standard.graceSeconds (integer? .signed64)
  let maxPollMs ← f.optional "max_poll_interval_ms" standard.maxPollMs (natural? .unsigned64)
  return { graceSeconds, maxPollMs }

def toConfig (s : PreemptionSettings) : ConfigValue :=
  .record [("grace_period_seconds", .whole s.graceSeconds),
    ("max_poll_interval_ms", .ofNat s.maxPollMs)]

end PreemptionSettings

namespace SchedulerSettings

def standard : SchedulerSettings := {}

def fieldNames : List String :=
  ["sampling_percentage", "large_cluster_threshold", "usage_reset_threshold", "seed",
    "disable_preemption", "preemption", "retry", "plugins"]

def read? (d : δ) : Option SchedulerSettings := do
  let f ← Fields.read fieldNames d
  let samplingPercentage ←
    f.optional "sampling_percentage" standard.samplingPercentage (natural? .unsigned32)
  let largeClusterThreshold ←
    f.optional "large_cluster_threshold" standard.largeClusterThreshold (natural? .unsigned64)
  let usageResetThreshold ←
    f.optional "usage_reset_threshold" standard.usageResetThreshold (natural? .unsigned64)
  let seed ← f.optional "seed" standard.seed (optional? (natural? .unsigned64))
  let disablePreemption ← f.optional "disable_preemption" standard.disablePreemption flag?
  let preemption ← f.optional "preemption" standard.preemption PreemptionSettings.read?
  let retry ← f.optional "retry" standard.retry RetryConfig.read?
  let plugins ← f.optional "plugins" standard.plugins PluginSet.read?
  return { samplingPercentage, largeClusterThreshold, usageResetThreshold, seed,
           disablePreemption, preemption, retry, plugins }

def toConfig (s : SchedulerSettings) : ConfigValue :=
  .record [("sampling_percentage", .ofNat s.samplingPercentage),
    ("large_cluster_threshold", .ofNat s.largeClusterThreshold),
    ("usage_reset_threshold", .ofNat s.usageResetThreshold),
    ("seed", .ofOption .ofNat s.seed), ("disable_preemption", .flag s.disablePreemption),
    ("preemption", s.preemption.toConfig), ("retry", s.retry.toConfig),
    ("plugins", s.plugins.toConfig)]

end SchedulerSettings

end PodPlacement
