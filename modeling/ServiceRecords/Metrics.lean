import Std.Data.ExtTreeMap
import ServiceRecords.Duration

set_option autoImplicit false

/-!
Measurements: counters by label, histograms of durations and the length of the queue, and their
samples as a monitoring system reads them. What is no count is kept as a binary fraction, and sums
of durations in seconds are shown in nanoseconds.
-/

namespace ServiceRecords

/-- Durations sorted into buckets by upper bounds, which belong to their buckets. -/
structure Histogram where
  /-- How many durations are at most each bound, in the order of the bounds -/
  counts : List Nat
  total : Nat
  /-- In seconds -/
  sum : Float

namespace Histogram

/-- An upper bound in milliseconds, and its text in seconds. -/
structure Bound where
  milliseconds : Nat
  text : String
  deriving DecidableEq, Repr

def reconciliationBounds : List Bound :=
  [⟨1, "0.001"⟩, ⟨10, "0.01"⟩, ⟨100, "0.1"⟩, ⟨500, "0.5"⟩, ⟨1000, "1"⟩, ⟨2000, "2"⟩,
   ⟨5000, "5"⟩, ⟨10000, "10"⟩, ⟨30000, "30"⟩]

def queueWaitBounds : List Bound :=
  [⟨1, "0.001"⟩, ⟨10, "0.01"⟩, ⟨100, "0.1"⟩, ⟨500, "0.5"⟩, ⟨1000, "1"⟩, ⟨5000, "5"⟩,
   ⟨30000, "30"⟩, ⟨60000, "60"⟩]

def empty (bounds : List Bound) : Histogram := ⟨bounds.map fun _ => 0, 0, 0⟩

def observe (bounds : List Bound) (histogram : Histogram) (duration : Duration) : Histogram where
  counts := (bounds.zip histogram.counts).map fun (bound, count) =>
    if duration.nanoseconds ≤ bound.milliseconds * 1000000 then count + 1 else count
  total := histogram.total + 1
  sum := histogram.sum + duration.seconds

/-- The sum in nanoseconds. -/
def sumInNanoseconds (histogram : Histogram) : Nat :=
  (histogram.sum * 1000000000).round.toUInt64.toNat

end Histogram

abbrev Tally := Std.ExtTreeMap String Nat

def Tally.increment (tally : Tally) (label : String) : Tally :=
  tally.insert label (tally[label]?.getD 0 + 1)

structure Metrics where
  reconciliations : Tally := ∅
  durations : Std.ExtTreeMap String Histogram := ∅
  requeues : Tally := ∅
  droppedKeys : Tally := ∅
  queueWait : Histogram := .empty Histogram.queueWaitBounds
  queueDepth : Float := 0
  storeWrites : Tally := ∅
  errors : Tally := ∅
  watchEvents : Tally := ∅

namespace Metrics

def recordError (metrics : Metrics) (category : String) : Metrics :=
  { metrics with errors := metrics.errors.increment category }

def recordReconciliation (metrics : Metrics) (outcome : String) (duration : Duration) : Metrics :=
  let bounds := Histogram.reconciliationBounds
  let histogram := metrics.durations[outcome]?.getD (.empty bounds)
  { metrics with
    reconciliations := metrics.reconciliations.increment outcome
    durations := metrics.durations.insert outcome (histogram.observe bounds duration) }

/-- Failed reconciliations share one outcome and are told apart as errors. -/
def recordFailure (metrics : Metrics) (category : String) (duration : Duration) : Metrics :=
  (metrics.recordReconciliation "error" duration).recordError category

def recordRequeue (metrics : Metrics) (reason : String) : Metrics :=
  { metrics with requeues := metrics.requeues.increment reason }

def recordDroppedKey (metrics : Metrics) (reason : String) : Metrics :=
  { metrics with droppedKeys := metrics.droppedKeys.increment reason }

def recordQueueWait (metrics : Metrics) (wait : Duration) : Metrics :=
  { metrics with queueWait := metrics.queueWait.observe Histogram.queueWaitBounds wait }

def recordQueueDepth (metrics : Metrics) (depth : Nat) : Metrics :=
  { metrics with queueDepth := .ofNat depth }

def recordStoreWrite (metrics : Metrics) (operation : String) : Metrics :=
  { metrics with storeWrites := metrics.storeWrites.increment operation }

def recordWatchEvent (metrics : Metrics) (kind : String) : Metrics :=
  { metrics with watchEvents := metrics.watchEvents.increment kind }

/-! ### Samples -/

/-- A named value with its labels. -/
structure Sample where
  name : String
  labels : List (String × String)
  value : Nat
  deriving DecidableEq, Repr

namespace Sample

def escape (c : Char) : List Char :=
  match c with
  | '\\' => ['\\', '\\']
  | '"' => ['\\', '"']
  | '\n' => ['\\', 'n']
  | c => [c]

def labelText (label : String × String) : String :=
  label.1 ++ "=\"" ++ .ofList (label.2.toList.flatMap escape) ++ "\""

/-- The name, followed by the labels in braces if there are any. -/
def identity (sample : Sample) : String :=
  if sample.labels.isEmpty then sample.name
  else
    sample.name ++ "\x7b" ++ String.intercalate "," (sample.labels.map labelText) ++ "\x7d"

end Sample

/-- Samples of one kind of measurement. -/
structure Family where
  name : String
  type : String
  help : String
  /-- The count of each bucket of a histogram -/
  buckets : List Sample := []
  samples : List Sample
  deriving DecidableEq, Repr

namespace Family

def ofTally (name label help : String) (tally : Tally) : Family where
  name
  type := "counter"
  help
  samples := tally.toList.map fun (text, count) => ⟨name, [(label, text)], count⟩

/-- The samples of histograms, each with its labels. Bucket counts add up, and a last bucket
without bound holds all. -/
def ofHistograms (name help : String) (bounds : List Histogram.Bound)
    (histograms : List (List (String × String) × Histogram)) : Family where
  name
  type := "histogram"
  help
  buckets := histograms.flatMap fun (labels, histogram) =>
    let bounded := (bounds.zip histogram.counts).map fun (bound, count) =>
      ⟨name ++ "_bucket", labels ++ [("le", bound.text)], count⟩
    bounded ++ [⟨name ++ "_bucket", labels ++ [("le", "+Inf")], histogram.total⟩]
  samples := histograms.flatMap fun (labels, histogram) =>
    [⟨name ++ "_sum", labels, histogram.sumInNanoseconds⟩,
     ⟨name ++ "_count", labels, histogram.total⟩]

end Family

/-- Begins the full name of every family. -/
def namePrefix : String := "rpc_firestoned_io_"

/-- All families in the order of their names, of which those without samples are left out. -/
def families (metrics : Metrics) : List Family :=
  [.ofTally "dropped_keys_total" "reason" "Total number of keys forgotten without converging"
     metrics.droppedKeys,
   .ofTally "errors_total" "error_type" "Total number of errors by category" metrics.errors,
   { name := "queue_depth", type := "gauge", help := "Number of keys waiting in the work queue",
     samples := [⟨"queue_depth", [], metrics.queueDepth.toUInt64.toNat⟩] },
   .ofHistograms "queue_wait_seconds"
     "Time between a key being queued and a worker picking it up" Histogram.queueWaitBounds
     [([], metrics.queueWait)],
   .ofHistograms "reconciliation_duration_seconds"
     "Duration of reconciliations in seconds by outcome" Histogram.reconciliationBounds
     (metrics.durations.toList.map fun (outcome, histogram) =>
       ([("outcome", outcome)], histogram)),
   .ofTally "reconciliations_total" "outcome" "Total number of reconciliations by outcome"
     metrics.reconciliations,
   .ofTally "requeues_total" "reason" "Total number of rate-limited requeues by reason"
     metrics.requeues,
   .ofTally "store_writes_total" "operation" "Total number of key-value store writes by operation"
     metrics.storeWrites,
   .ofTally "watch_events_total" "kind" "Total number of resource notifications by kind"
     metrics.watchEvents].filter fun family => !family.samples.isEmpty

/-- Samples by their identities. -/
def identified (samples : List Sample) : List (String × Nat) :=
  samples.map fun sample => (sample.identity, sample.value)

def samples (metrics : Metrics) : List (String × Nat) :=
  identified (metrics.families.flatMap fun family => family.buckets ++ family.samples)

/-- The samples without those of buckets. -/
def totals (metrics : Metrics) : List (String × Nat) :=
  identified (metrics.families.flatMap (·.samples))

/-- The samples of certain families without those of buckets. -/
def totalsOf (names : List String) (metrics : Metrics) : List (String × Nat) :=
  identified ((metrics.families.filter (names.contains ·.name)).flatMap (·.samples))

end Metrics

end ServiceRecords
