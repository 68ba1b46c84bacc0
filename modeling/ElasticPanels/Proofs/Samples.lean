import ElasticPanels.Telemetry
import Mathlib.Algebra.Ring.Nat
import Mathlib.Data.List.Nodup

/-!
# Samples

A scrape lists a sample for each counter that has counted anything.  The value that is read under
the name and the labels of a counter (`Telemetry.reading`) is the number of its events, and zero
where the counter is not listed.
-/

namespace ElasticPanels

namespace Telemetry

/-- The sample of a name with labels. -/
def sample? (samples : List Sample) (name : String) (labels : List (String × String)) :
    Option Sample :=
  samples.find? fun s => s.name = name ∧ s.labels = labels

/-- The value of a sample, zero if nothing was recorded under its name and labels. -/
def reading (events : List Event) (name : String) (labels : List (String × String)) : ℕ :=
  (sample? (samples events) name labels).elim 0 Sample.value

variable {events : List Event} {name : String} {labels : List (String × String)}

theorem sample?_append (a b : List Sample) :
    sample? (a ++ b) name labels = (sample? a name labels).or (sample? b name labels) :=
  List.find?_append ..

theorem sample?_eq_none {samples : List Sample}
    (h : ∀ s ∈ samples, s.name = name → s.labels ≠ labels) :
    sample? samples name labels = none := by
  rw [sample?, List.find?_eq_none]
  intro s hs found
  simp only [decide_eq_true_eq] at found
  exact h s hs found.1 found.2

/-- A counter with labels of its own reads the number of its events. -/
theorem sample?_counters {labelled : List (List (String × String) × Event)} {event : Event}
    (mem : (labels, event) ∈ labelled) (distinct : (labelled.map Prod.fst).Nodup) :
    (sample? (counters name labelled events) name labels).elim 0 Sample.value =
      events.count event := by
  induction labelled with
  | nil => cases mem
  | cons first rest ih =>
    obtain ⟨own, counted⟩ := first
    rw [List.map_cons, List.nodup_cons] at distinct
    have step : counters name ((own, counted) :: rest) events =
        (if events.count counted = 0 then [] else [⟨name, own, events.count counted⟩]) ++
          counters name rest events := by
      rw [counters, List.filterMap_cons]
      split_ifs with never <;> simp [never, counters]
    rw [step, sample?_append]
    rcases List.mem_cons.1 mem with here | later
    · cases here
      split_ifs with never
      · have absent : sample? (counters name rest events) name labels = none := by
          refine sample?_eq_none ?_
          rintro s hs - rfl
          obtain ⟨⟨other, event⟩, there, made⟩ := List.mem_filterMap.1 hs
          dsimp only at made
          split_ifs at made
          cases made
          exact distinct.1 (List.mem_map.2 ⟨_, there, rfl⟩)
        rw [absent, never]
        rfl
      · simp [sample?]
    · have differs : own ≠ labels := by
        rintro rfl
        exact distinct.1 (List.mem_map.2 ⟨_, later, rfl⟩)
      have skipped : sample? (if events.count counted = 0 then []
          else [⟨name, own, events.count counted⟩]) name labels = none := by
        split_ifs <;> simp [sample?, differs]
      rw [skipped, Option.none_or, ih later distinct.2]

theorem name_of_mem_counters {labelled : List (List (String × String) × Event)} {s : Sample}
    (h : s ∈ counters name labelled events) : s.name = name := by
  obtain ⟨⟨own, event⟩, -, made⟩ := List.mem_filterMap.1 h
  dsimp only at made
  split_ifs at made
  cases made
  rfl

theorem sample?_counters_of_ne {other : String} (h : other ≠ name)
    {labelled : List (List (String × String) × Event)} :
    sample? (counters other labelled events) name labels = none :=
  sample?_eq_none fun _ hs named => absurd ((name_of_mem_counters hs).symm.trans named) h

theorem sample?_batchSamples (h : name ∉ ["esds_batch_queries_bucket",
    "esds_batch_queries_count", "esds_batch_queries_sum"]) :
    sample? (batchSamples events) name labels = none := by
  refine sample?_eq_none fun s hs named => absurd ?_ h
  subst named
  simp only [batchSamples, List.mem_append, List.mem_map, List.mem_cons, List.not_mem_nil,
    or_false] at hs
  rcases hs with ⟨_, -, rfl⟩ | rfl | rfl | rfl <;> simp

variable (events)

theorem reading_searches (kind : SearchKind) :
    reading events "esds_msearch_requests_total" [("kind", kind.name)] =
      events.count (.search kind) := by
  simp only [reading, samples, sample?_append, failureSamples, lookupSamples]
  rw [sample?_counters_of_ne (by decide), sample?_counters_of_ne (by decide),
    sample?_batchSamples (by decide)]
  simp only [Option.or_none]
  exact sample?_counters (by cases kind <;> simp) (by decide)

theorem reading_failures (kind : SearchKind) (reason : FailureReason) :
    reading events "esds_msearch_errors_total" [("kind", kind.name), ("reason", reason.name)] =
      events.count (.failure kind reason) := by
  simp only [reading, samples, sample?_append, searchSamples, lookupSamples]
  rw [sample?_counters_of_ne (by decide), sample?_counters_of_ne (by decide),
    sample?_batchSamples (by decide)]
  simp only [Option.or_none, Option.none_or]
  exact sample?_counters (by cases kind <;> cases reason <;> simp) (by decide)

theorem reading_lookups (target : Lookup.Target) :
    reading events "esds_meta_queries_total" [("find", target.name)] =
      events.count (.lookup target) := by
  simp only [reading, samples, sample?_append, searchSamples, failureSamples]
  rw [sample?_counters_of_ne (by decide), sample?_counters_of_ne (by decide),
    sample?_batchSamples (by decide)]
  simp only [Option.none_or]
  exact sample?_counters (by cases target <;> simp) (by decide)

theorem reading_batches :
    reading events "esds_batch_queries_count" [] = (batchSizes events).length := by
  simp only [reading, samples, sample?_append, searchSamples, failureSamples, lookupSamples]
  rw [sample?_counters_of_ne (by decide), sample?_counters_of_ne (by decide)]
  simp [sample?, batchSamples, batchBounds]

theorem reading_batchSizes :
    reading events "esds_batch_queries_sum" [] = (batchSizes events).sum := by
  simp only [reading, samples, sample?_append, searchSamples, failureSamples, lookupSamples]
  rw [sample?_counters_of_ne (by decide), sample?_counters_of_ne (by decide)]
  simp [sample?, batchSamples, batchBounds]
  rfl

end Telemetry

end ElasticPanels
