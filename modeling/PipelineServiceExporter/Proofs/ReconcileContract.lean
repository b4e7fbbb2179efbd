import PipelineServiceExporter.Collector.Overhead

/-! What one `ReconcileOverhead` call returns and observes. A finished run is
observed, a running one is tagged or requeued; the observations divide by the
run's duration, and only a positive numerator is ever filtered out. -/

namespace PipelineServiceExporter.Proofs.ReconcileContract
open Collector

variable {threshold : Option Int} {store : TaskRunStore} {answer : Option ApiError} {pr : PipelineRun}

theorem isDone_eq (pr : PipelineRun) :
    pr.isDone = ((getCondition pr.status.conditions conditionSucceeded).isSome &&
      !isUnknown (getCondition pr.status.conditions conditionSucceeded)) := by
  unfold PipelineRun.isDone isDone
  cases getCondition pr.status.conditions conditionSucceeded <;> simp [isUnknown]

theorem reconcileOverhead_finished (finished : pr.isDone = true) :
    reconcileOverhead threshold ⟨.ok pr, store, answer⟩ =
      if (accumulateGaps store pr).foundGaps then
        observeOverhead threshold pr
          (if isFalse (getCondition pr.status.conditions conditionSucceeded) then failed else succeeded)
          (accumulateGaps store pr).gapTotal
      else some {} := by
  rw [isDone_eq] at finished
  simp only [reconcileOverhead, finished, ite_true]

theorem reconcileOverhead_running (running : pr.isDone = false) :
    reconcileOverhead threshold ⟨.ok pr, store, answer⟩ =
      if isPipelineRunGoing pr then
        some { patch := (tagPipelineRunsWithTaskRunsGettingThrottled store answer pr).1
               error := (tagPipelineRunsWithTaskRunsGettingThrottled store answer pr).2 }
      else some { requeue := true } := by
  rw [isDone_eq] at running
  cases going : isPipelineRunGoing pr <;> simp [reconcileOverhead, running, going]

variable {reply : Reply}

theorem observeOverhead_reply {status : String} {gapTotal : Int}
    (replied : observeOverhead threshold pr status gapTotal = some reply) :
    reply.requeue = false ∧ reply.patch = none := by
  unfold observeOverhead at replied
  split at replied <;> cases replied
  exact ⟨rfl, rfl⟩

theorem reconcileOverhead_finished_reply (finished : pr.isDone = true)
    (replied : reconcileOverhead threshold ⟨.ok pr, store, answer⟩ = some reply) :
    reply.requeue = false ∧ reply.patch = none := by
  rw [reconcileOverhead_finished finished] at replied
  split at replied
  · exact observeOverhead_reply replied
  · cases replied
    exact ⟨rfl, rfl⟩

theorem reconcileOverhead_running_unobserved (running : pr.isDone = false)
    (replied : reconcileOverhead threshold ⟨.ok pr, store, answer⟩ = some reply) :
    reply.execution = none ∧ reply.scheduling = none := by
  rw [reconcileOverhead_running running] at replied
  split at replied <;> cases replied <;> exact ⟨rfl, rfl⟩

theorem reconcileOverhead_requeue_unobserved (requeued : reply.requeue = true)
    (replied : reconcileOverhead threshold ⟨.ok pr, store, answer⟩ = some reply) :
    reply.execution = none ∧ reply.scheduling = none := by
  cases done : pr.isDone
  · exact reconcileOverhead_running_unobserved done replied
  · simp [(reconcileOverhead_finished_reply done replied).1] at requeued

theorem tag_of_labelled (labelled : (pr.labels.get? throttledLabel).isSome) :
    (tagPipelineRunsWithTaskRunsGettingThrottled store answer pr).1 = none := by
  unfold tagPipelineRunsWithTaskRunsGettingThrottled
  split <;> simp [labelled]

theorem accumulateGaps_of_labelled (labelled : (pr.labels.get? throttledLabel).isSome) :
    (accumulateGaps store pr).foundGaps = false := by
  simp [accumulateGaps, skipPipelineRun, labelled]

theorem reconcileOverhead_labelled (labelled : (pr.labels.get? throttledLabel).isSome)
    (replied : reconcileOverhead threshold ⟨.ok pr, store, answer⟩ = some reply) :
    reply.patch = none ∧ reply.execution = none ∧ reply.scheduling = none := by
  cases done : pr.isDone
  · refine ⟨?_, reconcileOverhead_running_unobserved done replied⟩
    rw [reconcileOverhead_running done] at replied
    split at replied <;> cases replied
    · exact tag_of_labelled labelled
    · rfl
  · rw [reconcileOverhead_finished done, accumulateGaps_of_labelled labelled] at replied
    cases replied
    exact ⟨rfl, rfl, rfl⟩

theorem mem_observeRatio {ns status : String} {numerator totalDuration : Int} {o : Observation} :
    o ∈ observeRatio threshold ns status numerator totalDuration ↔
      filter threshold numerator totalDuration = false ∧ o = ⟨ns, status, numerator, totalDuration⟩ := by
  unfold observeRatio
  cases filter threshold numerator totalDuration <;> simp [eq_comm]

theorem not_filtered {numerator totalDuration : Int} (kept : filter none numerator totalDuration = false) :
    0 < numerator → defaultThreshold ≤ totalDuration := by
  simp only [filter, defaultThreshold, Option.getD_none, Bool.and_eq_false_iff, decide_eq_false_iff_not] at kept ⊢
  omega

theorem calculateScheduledDuration_nonneg {created started : Int} (ordered : created ≤ started) :
    0 ≤ calculateScheduledDuration created started := by
  unfold calculateScheduledDuration
  split <;> omega

theorem filter_of_nonpos {numerator : Int} (totalDuration : Int) (nonpos : numerator ≤ 0) :
    filter threshold numerator totalDuration = false := by
  simp [filter, not_lt.mpr nonpos]

/-- With `FILTER_THRESHOLD` unset, a finished run created, started and completed
in that order never panics, and every ratio it observes is its gap total or its
wait from creation to start over its duration, which is not negative and, under
a positive numerator, at least five minutes; the scheduling numerator is not
negative. A numerator that is not positive is never filtered out, whatever the
duration, so `0 / 0` reaches `Observe`. -/
theorem observed_ratios_divide_by_duration {start completion : Int} (finished : pr.isDone = true)
    (started : pr.status.startTime = some start) (completed : pr.status.completionTime = some completion)
    (ordered : pr.creationTimestamp ≤ start ∧ start ≤ completion) :
    ∃ reply, reconcileOverhead none ⟨.ok pr, store, answer⟩ = some reply ∧
      (∀ o ∈ reply.execution, o.numerator = (accumulateGaps store pr).gapTotal ∧
        o.denominator = completion - start ∧ 0 ≤ o.denominator ∧ (0 < o.numerator → defaultThreshold ≤ o.denominator)) ∧
      (∀ o ∈ reply.scheduling, o.numerator = calculateScheduledDuration pr.creationTimestamp start ∧
        o.denominator = completion - start ∧ 0 ≤ o.denominator ∧ 0 ≤ o.numerator ∧
        (0 < o.numerator → defaultThreshold ≤ o.denominator)) ∧
      ((accumulateGaps store pr).foundGaps = true →
        ((accumulateGaps store pr).gapTotal ≤ 0 → reply.execution.isSome) ∧
        (calculateScheduledDuration pr.creationTimestamp start ≤ 0 → reply.scheduling.isSome)) := by
  rw [reconcileOverhead_finished finished]
  split
  · simp only [observeOverhead, completed, started]
    refine ⟨_, rfl, fun o member => ?_, fun o member => ?_, fun _ => ⟨fun nonpos => ?_, fun nonpos => ?_⟩⟩
    · obtain ⟨kept, rfl⟩ := mem_observeRatio.mp member
      exact ⟨rfl, rfl, by dsimp only; omega, not_filtered kept⟩
    · obtain ⟨kept, rfl⟩ := mem_observeRatio.mp member
      exact ⟨rfl, rfl, by dsimp only; omega, calculateScheduledDuration_nonneg ordered.1, not_filtered kept⟩
    · simp [observeRatio, filter_of_nonpos _ nonpos]
    · simp [observeRatio, filter_of_nonpos _ nonpos]
  · next lost => exact ⟨{}, rfl, by simp, by simp, fun found => absurd found lost⟩

theorem observed_ratios_divide_by_duration_example :
    let build : PipelineRun :=
      { name := "build", creationTimestamp := 1000
        status := { conditions := [{ type := "Succeeded", status := .conditionFalse }]
                    startTime := some 6000, completionTime := some 366000
                    childReferences := [⟨"TaskRun", "a"⟩] } }
    let store := TaskRunStore.ofList [{ name := "a", creationTimestamp := 1000 }] fun _ => none
    build.isDone = true ∧ build.status.startTime = some 6000 ∧ build.status.completionTime = some 366000 ∧
      (build.creationTimestamp ≤ 6000 ∧ (6000 : Int) ≤ 366000) ∧
      ∃ reply, reconcileOverhead none ⟨.ok build, store, none⟩ = some reply ∧
        (∀ o ∈ reply.execution, o.numerator = (accumulateGaps store build).gapTotal ∧
          o.denominator = 366000 - 6000 ∧ 0 ≤ o.denominator ∧ (0 < o.numerator → defaultThreshold ≤ o.denominator)) ∧
        (∀ o ∈ reply.scheduling, o.numerator = calculateScheduledDuration build.creationTimestamp 6000 ∧
          o.denominator = 366000 - 6000 ∧ 0 ≤ o.denominator ∧ 0 ≤ o.numerator ∧
          (0 < o.numerator → defaultThreshold ≤ o.denominator)) ∧
        ((accumulateGaps store build).foundGaps = true →
          ((accumulateGaps store build).gapTotal ≤ 0 → reply.execution.isSome) ∧
          (calculateScheduledDuration build.creationTimestamp 6000 ≤ 0 → reply.scheduling.isSome)) :=
  ⟨rfl, rfl, rfl, by decide, observed_ratios_divide_by_duration rfl rfl rfl (by decide)⟩

/-- A run created, started and completed in the same second, with one TaskRun
created and completed then: both histograms observe `0 / 0`. -/
theorem zero_over_zero_observed :
    let build : PipelineRun :=
      { name := "build", creationTimestamp := 1000
        status := { conditions := [{ type := "Succeeded", status := .conditionTrue }]
                    startTime := some 1000, completionTime := some 1000
                    childReferences := [⟨"TaskRun", "a"⟩] } }
    let store := TaskRunStore.ofList
      [{ name := "a", creationTimestamp := 1000, status := { completionTime := some 1000 } }] fun _ => none
    reconcileOverhead none ⟨.ok build, store, none⟩ =
      some { execution := some ⟨"", succeeded, 0, 0⟩, scheduling := some ⟨"", succeeded, 0, 0⟩ } := by
  decide

theorem fetchTaskRuns_of_failing {refs : List ChildStatusReference} {kidRef : ChildStatusReference}
    (child : kidRef ∈ refs) (kind : kidRef.kind = "TaskRun") {err : ApiError}
    (failing : store.get kidRef.name = .error err) : fetchTaskRuns store refs = none := by
  induction refs with
  | nil => cases child
  | cons r refs ih =>
    rcases List.mem_cons.mp child with rfl | later
    · simp [fetchTaskRuns, kind, failing]
    · unfold fetchTaskRuns
      split
      · exact ih later
      · split
        · rfl
        · rw [ih later]
          rfl

/-- A done run some TaskRun child of which cannot be fetched is neither observed
nor reported: the reconcile returns an empty result and no error. -/
theorem reconcileOverhead_of_unfetchable (finished : pr.isDone = true) {kidRef : ChildStatusReference}
    (child : kidRef ∈ pr.status.childReferences) (kind : kidRef.kind = "TaskRun") {err : ApiError}
    (failing : store.get kidRef.name = .error err) :
    reconcileOverhead threshold ⟨.ok pr, store, answer⟩ = some {} := by
  have aborted : (accumulateGaps store pr).foundGaps = false := by
    simp [accumulateGaps, sortTaskRunsForGapCalculations, fetchTaskRuns_of_failing child kind failing]
  rw [reconcileOverhead_finished finished, aborted]
  rfl

theorem reconcileOverhead_of_unfetchable_transient :
    let build : PipelineRun :=
      { name := "build", creationTimestamp := 1000
        status := { conditions := [{ type := "Succeeded", status := .conditionTrue }]
                    startTime := some 1000, completionTime := some 400000
                    childReferences := [⟨"TaskRun", "a"⟩, ⟨"TaskRun", "b"⟩] } }
    let store := TaskRunStore.ofList [{ name := "a" }, { name := "b" }] fun name =>
      if name = "b" then some (.other "ServiceUnavailable") else none
    build.isDone = true ∧ (⟨"TaskRun", "b"⟩ : ChildStatusReference) ∈ build.status.childReferences ∧
      (⟨"TaskRun", "b"⟩ : ChildStatusReference).kind = "TaskRun" ∧
      store.get "b" = .error (.other "ServiceUnavailable") ∧
      reconcileOverhead none ⟨.ok build, store, none⟩ = some {} := by
  intro build store
  have child : (⟨"TaskRun", "b"⟩ : ChildStatusReference) ∈ build.status.childReferences := by simp [build]
  exact ⟨rfl, child, rfl, rfl,
    @reconcileOverhead_of_unfetchable none store none build rfl ⟨"TaskRun", "b"⟩ child rfl _ rfl⟩

/-- Two slips in the error path: a running run whose label patch finds the
PipelineRun gone returns that NotFound error, and a finished run whose TaskRun
Get fails with a transient error returns no error at all. -/
theorem reconcileOverhead_error_slips :
    let running : PipelineRun :=
      { name := "build", status := { conditions := [{ type := "Succeeded", status := .conditionUnknown }]
                                     childReferences := [⟨"TaskRun", "a"⟩] } }
    let throttled := TaskRunStore.ofList
      [{ name := "a", status := { conditions := [{ type := "Succeeded", status := .conditionUnknown
                                                   reason := reasonExceededResourceQuota }] } }] fun _ => none
    let finished : PipelineRun :=
      { name := "build", creationTimestamp := 1000
        status := { conditions := [{ type := "Succeeded", status := .conditionTrue }]
                    startTime := some 1000, completionTime := some 400000
                    childReferences := [⟨"TaskRun", "a"⟩] } }
    let unavailable := TaskRunStore.ofList [] fun _ => some (.other "ServiceUnavailable")
    reconcileOverhead none ⟨.ok running, throttled, some .notFound⟩ =
        some { patch := some "a", error := some .notFound } ∧
      reconcileOverhead none ⟨.ok finished, unavailable, none⟩ = some {} := by
  decide

end PipelineServiceExporter.Proofs.ReconcileContract
