import Protogate.Lib.Assoc
import Protogate.Lib.OrderStatistics
import Protogate.Lib.Run
import Mathlib.Algebra.Field.Rat
import Mathlib.Algebra.Order.Ring.Rat

/-!
# Latency statistics

`Metrics` keeps the last latencies of each operation and computes percentiles, the
maximum and the mean of them on request.  A `double` is an exact rational here, and
an access outside a vector has no result.

## Main definitions

* `recordLatency`, `getLatencyStats`, `calculateLatencyStats`.
* `recordedLatencies` — everything that was recorded for an operation.
* `lookup_run_recordLatency` — what is kept is the last part of it.
* `Summarises` — the statistics as order statistics of a list of samples.
-/

namespace Protogate.Observability

open Protogate.Lib

/-- `Metrics::LatencyStats`, in milliseconds. -/
structure LatencyStats where
  p50Ms : ℚ := 0
  p95Ms : ℚ := 0
  p99Ms : ℚ := 0
  meanMs : ℚ := 0
  maxMs : ℚ := 0
  deriving DecidableEq

/-- `latency_samples_`: the samples of each operation, the latest last. -/
abbrev LatencySamples := Assoc String (List ℚ)

/-- `MAX_LATENCY_SAMPLES`. -/
def maxLatencySamples : ℕ := 1000

/-- A latency in microseconds, as it is kept. -/
def latencyMs (latency : ℤ) : ℚ := latency / 1000

/-- `Metrics::record_latency`. -/
def recordLatency (latencySamples : LatencySamples) (operation : String) (latency : ℤ) :
    LatencySamples :=
  let samples := (latencySamples.lookup operation).getD [] ++ [latencyMs latency]
  latencySamples.insert operation
    (if samples.length > maxLatencySamples then
      samples.drop (samples.length - maxLatencySamples)
    else samples)

/-- `Metrics::calculate_latency_stats`. -/
def calculateLatencyStats (samples : List ℚ) : Option LatencyStats :=
  if samples.isEmpty then some {}
  else do
    let sortedSamples := samples.insertionSort (· ≤ ·)
    let p50 ← sortedSamples[sortedSamples.length * 50 / 100]?
    let p95 ← sortedSamples[sortedSamples.length * 95 / 100]?
    let p99 ← sortedSamples[sortedSamples.length * 99 / 100]?
    let max ← sortedSamples.getLast?
    let sum := samples.foldl (· + ·) 0
    return { p50Ms := p50, p95Ms := p95, p99Ms := p99, maxMs := max
             meanMs := sum / samples.length }

/-- `Metrics::get_latency_stats`. -/
def getLatencyStats (latencySamples : LatencySamples) (operation : String) :
    Option LatencyStats :=
  match latencySamples.lookup operation with
  | none => some {}
  | some samples => if samples.isEmpty then some {} else calculateLatencyStats samples

/-! ## What is kept -/

/-- A call of `record_latency`: the operation and the latency. -/
abbrev LatencyCall := String × ℤ

/-- The samples after the call. -/
def recordCall (latencySamples : LatencySamples) (call : LatencyCall) : LatencySamples :=
  recordLatency latencySamples call.1 call.2

/-- Every latency the calls recorded for `operation`, in order. -/
def recordedLatencies (calls : List LatencyCall) (operation : String) : List ℚ :=
  (calls.filter fun call => call.1 = operation).map fun call => latencyMs call.2

/-- The samples kept for an operation. -/
def samplesOf (operation : String) (latencySamples : LatencySamples) : List ℚ :=
  (latencySamples.lookup operation).getD []

/-- The samples of an operation after another call for it. -/
def keepSample (samples : List ℚ) (call : LatencyCall) : List ℚ :=
  (samples ++ [latencyMs call.2]).rtake maxLatencySamples

theorem samplesOf_recordCall (m : LatencySamples) (call : LatencyCall) :
    samplesOf call.1 (recordCall m call) = keepSample (samplesOf call.1 m) call := by
  simp only [samplesOf, recordCall, recordLatency, keepSample, AList.lookup_insert,
    Option.getD_some, List.rtake]
  split
  · rfl
  · rename_i hshort
    rw [Nat.sub_eq_zero_of_le (Nat.le_of_not_lt hshort), List.drop_zero]

theorem samplesOf_recordCall_ne (m : LatencySamples) (call : LatencyCall) {operation : String}
    (h : operation ≠ call.1) : samplesOf operation (recordCall m call) = samplesOf operation m := by
  simp only [samplesOf, recordCall, recordLatency, AList.lookup_insert_ne h]

/-- The calls for one operation, one after the other. -/
theorem run_keepSample (calls : List LatencyCall) (recorded : List ℚ) :
    run keepSample (recorded.rtake maxLatencySamples) calls
      = (recorded ++ calls.map fun call => latencyMs call.2).rtake maxLatencySamples := by
  induction calls generalizing recorded with
  | nil => simp
  | cons call calls ih =>
      rw [run_cons, keepSample, rtake_append_rtake, ih, List.map_cons, List.append_assoc]
      rfl

/-- **The window.**  The samples kept for an operation are the last of those recorded. -/
theorem samplesOf_run (calls : List LatencyCall) (operation : String) :
    samplesOf operation (run recordCall ∅ calls)
      = (recordedLatencies calls operation).rtake maxLatencySamples := by
  have hview : samplesOf operation (run recordCall ∅ calls)
      = run keepSample [] (calls.filter fun call => call.1 = operation) :=
    view_run (fun call : LatencyCall => call.1) samplesOf keepSample samplesOf_recordCall
      (fun m call _ hop => samplesOf_recordCall_ne m call hop) operation ∅ calls
  rw [hview]
  exact run_keepSample (calls.filter fun call => call.1 = operation) []

/-! ## What is computed -/

/-- The statistics are order statistics of the samples, with their mean. -/
structure Summarises (samples : List ℚ) (stats : LatencyStats) : Prop where
  p50 : IsPercentile 50 samples stats.p50Ms
  p95 : IsPercentile 95 samples stats.p95Ms
  p99 : IsPercentile 99 samples stats.p99Ms
  p50_le_p95 : stats.p50Ms ≤ stats.p95Ms
  p95_le_p99 : stats.p95Ms ≤ stats.p99Ms
  p99_le_max : stats.p99Ms ≤ stats.maxMs
  max_mem : stats.maxMs ∈ samples
  le_max : ∀ x ∈ samples, x ≤ stats.maxMs
  mean : stats.meanMs = samples.sum / samples.length
  min_le_mean : ∀ x ∈ samples, (∀ y ∈ samples, x ≤ y) → x ≤ stats.meanMs
  mean_le_max : stats.meanMs ≤ stats.maxMs

/-- What is read from a sorted arrangement of the samples. -/
theorem summarises_of_sorted {samples sorted : List ℚ} (hperm : sorted.Perm samples)
    (hle : sorted.SortedLE) (hne : sorted ≠ []) (h50 : sorted.length * 50 / 100 < sorted.length)
    (h95 : sorted.length * 95 / 100 < sorted.length)
    (h99 : sorted.length * 99 / 100 < sorted.length) :
    Summarises samples
      { p50Ms := sorted[sorted.length * 50 / 100], p95Ms := sorted[sorted.length * 95 / 100]
        p99Ms := sorted[sorted.length * 99 / 100], maxMs := sorted.getLast hne
        meanMs := samples.sum / samples.length } := by
  have h50_le : sorted[sorted.length * 50 / 100] ≤ sorted[sorted.length * 95 / 100] :=
    hle.getElem_le_getElem_of_le (by omega)
  have h95_le : sorted[sorted.length * 95 / 100] ≤ sorted[sorted.length * 99 / 100] :=
    hle.getElem_le_getElem_of_le (by omega)
  have hmax : ∀ x ∈ samples, x ≤ sorted.getLast hne :=
    fun x hx => le_getLast hle hne (hperm.mem_iff.mpr hx)
  have hsamples : samples ≠ [] := fun h => hne (List.perm_nil.mp (h ▸ hperm))
  exact
    { p50 := (isPercentile_getElem hle 50 h50).perm hperm
      p95 := (isPercentile_getElem hle 95 h95).perm hperm
      p99 := (isPercentile_getElem hle 99 h99).perm hperm
      p50_le_p95 := h50_le
      p95_le_p99 := h95_le
      p99_le_max := le_getLast hle hne (List.getElem_mem h99)
      max_mem := hperm.mem_iff.mp (List.getLast_mem hne)
      le_max := hmax
      mean := rfl
      min_le_mean := fun x _ hmin => le_mean hsamples hmin
      mean_le_max := mean_le hsamples hmax }

/-- No access is out of bounds, and the results are order statistics. -/
theorem calculateLatencyStats_spec {samples : List ℚ} (hne : samples ≠ []) :
    ∃ stats, calculateLatencyStats samples = some stats ∧ Summarises samples stats := by
  have hperm := List.perm_insertionSort (· ≤ ·) samples
  have hle := (List.pairwise_insertionSort (· ≤ ·) samples).sortedLE
  simp only [calculateLatencyStats, List.isEmpty_iff, hne, if_false, ← List.sum_eq_foldl]
  generalize samples.insertionSort (· ≤ ·) = sorted at hperm hle ⊢
  have hsne : sorted ≠ [] := fun h => hne (List.perm_nil.mp (h ▸ hperm.symm))
  have hpos : 0 < sorted.length := List.length_pos_iff.mpr hsne
  have h50 := percentile_index_lt hpos (p := 50) (by omega)
  have h95 := percentile_index_lt hpos (p := 95) (by omega)
  have h99 := percentile_index_lt hpos (p := 99) (by omega)
  refine ⟨_, ?_, summarises_of_sorted hperm hle hsne h50 h95 h99⟩
  simp only [List.getElem?_eq_getElem h50, List.getElem?_eq_getElem h95,
    List.getElem?_eq_getElem h99, List.getLast?_eq_getLast_of_ne_nil hsne]
  rfl

theorem getLatencyStats_eq (m : LatencySamples) (operation : String) :
    getLatencyStats m operation = calculateLatencyStats (samplesOf operation m) := by
  cases h : m.lookup operation with
  | none => simp [getLatencyStats, samplesOf, calculateLatencyStats, h]
  | some samples =>
      simp only [getLatencyStats, samplesOf, calculateLatencyStats, h, Option.getD_some]
      split <;> rfl

/-- **Statistics over a sliding window.**  After any calls, the statistics of an operation are
computed from exactly the last 1000 latencies recorded for it, or all of them if there are
fewer; every access is in bounds, and unless nothing was recorded they are order statistics of
these samples. -/
theorem latency_stats_of_window (calls : List LatencyCall) (operation : String) :
    ∃ older window stats, recordedLatencies calls operation = older ++ window ∧
      window.length = min (recordedLatencies calls operation).length maxLatencySamples ∧
      getLatencyStats (run recordCall ∅ calls) operation = calculateLatencyStats window ∧
      calculateLatencyStats window = some stats ∧ (window = [] → stats = {}) ∧
      (window ≠ [] → Summarises window stats) := by
  set recorded := recordedLatencies calls operation with hrecorded
  have hlen : (recorded.rtake maxLatencySamples).length = min recorded.length maxLatencySamples := by
    rw [List.rtake, List.length_drop]
    omega
  have hget : getLatencyStats (run recordCall ∅ calls) operation
      = calculateLatencyStats (recorded.rtake maxLatencySamples) := by
    rw [getLatencyStats_eq, samplesOf_run]
  have hsplit : recorded = recorded.take (recorded.length - maxLatencySamples)
      ++ recorded.rtake maxLatencySamples := (List.take_append_drop _ recorded).symm
  by_cases hne : recorded.rtake maxLatencySamples = []
  · refine ⟨_, _, {}, hsplit, hlen, hget, ?_, fun _ => rfl, fun h => absurd hne h⟩
    simp [calculateLatencyStats, hne]
  · obtain ⟨stats, hstats, hsum⟩ := calculateLatencyStats_spec hne
    exact ⟨_, _, stats, hsplit, hlen, hget, hstats, fun h => absurd h hne, fun _ => hsum⟩

/-- Four samples, two of them equal. -/
example : calculateLatencyStats [3, 1, 2, 2]
    = some { p50Ms := 2, p95Ms := 3, p99Ms := 3, meanMs := 2, maxMs := 3 } := by
  decide +kernel

end Protogate.Observability
