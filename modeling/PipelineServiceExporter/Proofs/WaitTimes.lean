import PipelineServiceExporter.Collector.WaitTime

/-! What the observing filters record. The two reference wait-time filters
observe the same thing; over the versions of a PipelineRun that, once done,
stays done, the scheduling wait is observed at most once, and exactly once when
the run finishes among them; and one resolution is observed once, from the last
version still resolving. -/

namespace PipelineServiceExporter.Proofs.WaitTimes
open Collector

variable {resolving ns : String} {hasRef : Bool} {oldConditions newConditions : List Condition}

/-- The PipelineRun filter observes what the TaskRun one does with its own
reason and reference: the return it lacks after the zero observation is made up
by the check that follows, which returns on a done run. -/
theorem pipelineRefWaitTimeFilter_update_eq (oldPR newPR : PipelineRun) :
    PipelineRefWaitTimeFilter.update oldPR newPR =
      (false, refWaitTime resolvingPipelineRef newPR.namespace newPR.spec.pipelineRef.isSome
        oldPR.status.conditions newPR.status.conditions) := by
  unfold PipelineRefWaitTimeFilter.update refWaitTime PipelineRun.isDone
  rcases getCondition newPR.status.conditions conditionSucceeded with _ | newCondition
  · rfl
  · cases newDone : isDone newPR.status.conditions
    · rcases getCondition oldPR.status.conditions conditionSucceeded with _ | oldCondition <;> simp [newDone]
      split_ifs <;> rfl
    · cases isDone oldPR.status.conditions <;> cases newPR.spec.pipelineRef <;> simp [newDone]

/-! ## The scheduling wait over a run's versions -/

/-- What the start-time filter observes on one pair of versions, when it does
not panic. -/
def scheduledObservations (oldPR newPR : PipelineRun) : List Observation :=
  ((StartTimeEventFilter.update oldPR newPR).map Prod.snd).getD []

theorem scheduledObservations_length (oldPR newPR : PipelineRun) : (scheduledObservations oldPR newPR).length ≤ 1 := by
  unfold scheduledObservations StartTimeEventFilter.update
  split
  · cases calculateScheduledDurationPipelineRun newPR <;> simp
  · simp

theorem scheduledObservations_of_running {oldPR newPR : PipelineRun} (running : newPR.isDone = false) :
    scheduledObservations oldPR newPR = [] := by
  simp [scheduledObservations, StartTimeEventFilter.update, running]

theorem observeVersions_of_done {pr : PipelineRun} {rest : List PipelineRun}
    (absorbing : (pr :: rest).Chain' fun old new => old.isDone → new.isDone) (done : pr.isDone = true) :
    observeVersions scheduledObservations (pr :: rest) = [] := by
  induction rest generalizing pr with
  | nil => rfl
  | cons next rest ih =>
    obtain ⟨stays, absorbing⟩ := List.chain'_cons.mp absorbing
    simp [observeVersions, scheduledObservations, StartTimeEventFilter.update, done, ih absorbing (stays done)]

/-- Over the versions of a PipelineRun that, once done, stays done, the
scheduling wait is observed at most once. -/
theorem scheduled_observed_at_most_once (versions : List PipelineRun)
    (absorbing : versions.Chain' fun old new => old.isDone → new.isDone) :
    (observeVersions scheduledObservations versions).length ≤ 1 := by
  induction versions with
  | nil => simp [observeVersions]
  | cons pr rest ih =>
    cases rest with
    | nil => simp [observeVersions]
    | cons next rest =>
      obtain ⟨-, absorbing⟩ := List.chain'_cons.mp absorbing
      cases done : next.isDone
      · simpa [observeVersions, scheduledObservations_of_running done] using ih absorbing
      · simpa [observeVersions, observeVersions_of_done absorbing done] using scheduledObservations_length pr next

theorem scheduled_observed_at_most_once_finishing :
    let running : PipelineRun := { status := { conditions := [{ type := "Succeeded", status := .conditionUnknown }] } }
    let done : PipelineRun :=
      { status := { conditions := [{ type := "Succeeded", status := .conditionTrue }], startTime := some 2000 } }
    let versions := [running, running, done, done]
    versions.Chain' (fun old new => old.isDone → new.isDone) ∧
      (observeVersions scheduledObservations versions).length ≤ 1 :=
  ⟨.cons id (.cons (fun _ => rfl) (.cons id .nil)), scheduled_observed_at_most_once _ (.cons id (.cons (fun _ => rfl) (.cons id .nil)))⟩

/-- The transition time of a version's Succeeded condition. -/
def transitionTime (conditions : List Condition) : Int :=
  ((getCondition conditions conditionSucceeded).map (·.lastTransitionTime)).getD 0

theorem refWaitTime_running {oldCondition newCondition : Condition}
    (old : getCondition oldConditions conditionSucceeded = some oldCondition)
    (new : getCondition newConditions conditionSucceeded = some newCondition) (running : isDone newConditions = false) :
    refWaitTime resolving ns hasRef oldConditions newConditions =
      if oldCondition.reason = resolving ∧ newCondition.reason ≠ resolving then
        [⟨ns, newCondition.lastTransitionTime - oldCondition.lastTransitionTime⟩]
      else [] := by
  simp [refWaitTime, old, new, running]

/-- A running version whose Succeeded condition has reason `resolving`, or does not. -/
def ResolvingAs (resolving : String) (still : Bool) (conditions : List Condition) : Prop :=
  isDone conditions = false ∧ ∃ condition, getCondition conditions conditionSucceeded = some condition ∧
    (condition.reason = resolving ↔ still = true)

theorem refWaitTime_resolving {still : Bool} (old : ResolvingAs resolving still oldConditions)
    (new : ResolvingAs resolving still newConditions) :
    refWaitTime resolving ns hasRef oldConditions newConditions = [] := by
  obtain ⟨-, oldCondition, oldSome, oldReason⟩ := old
  obtain ⟨running, newCondition, newSome, newReason⟩ := new
  rw [refWaitTime_running oldSome newSome running, if_neg]
  cases still <;> simp_all

theorem observeVersions_resolving {still : Bool} {versions : List (List Condition)}
    (same : ∀ conditions ∈ versions, ResolvingAs resolving still conditions) :
    observeVersions (refWaitTime resolving ns hasRef) versions = [] := by
  induction versions with
  | nil => rfl
  | cons old rest ih =>
    cases rest with
    | nil => rfl
    | cons new rest =>
      rw [observeVersions_cons_cons, refWaitTime_resolving (same old (.head _)) (same new (.tail _ (.head _))),
        ih fun conditions member => same conditions (.tail _ member)]
      rfl

/-- Over the versions of a running object that resolves its reference and then
stops resolving, the filter observes one wait, from the transition time of the
last version still resolving to that of the first version past it. -/
theorem resolution_observed_once (resolvingVersions later : List (List Condition)) (entered : resolvingVersions ≠ [])
    (left : later ≠ []) (resolvingAll : ∀ conditions ∈ resolvingVersions, ResolvingAs resolving true conditions)
    (resolved : ∀ conditions ∈ later, ResolvingAs resolving false conditions) :
    observeVersions (refWaitTime resolving ns hasRef) (resolvingVersions ++ later) =
      [⟨ns, transitionTime (later.head left) - transitionTime (resolvingVersions.getLast entered)⟩] := by
  induction resolvingVersions with
  | nil => exact absurd rfl entered
  | cons old rest ih =>
    cases rest with
    | nil =>
      obtain ⟨first, others, rfl⟩ := List.exists_cons_of_ne_nil left
      obtain ⟨-, oldCondition, oldSome, oldReason⟩ := resolvingAll old (.head _)
      obtain ⟨running, newCondition, newSome, newReason⟩ := resolved first (.head _)
      have leaving : oldCondition.reason = resolving ∧ newCondition.reason ≠ resolving := by simp_all
      rw [List.singleton_append, observeVersions_cons_cons, refWaitTime_running oldSome newSome running, if_pos leaving,
        observeVersions_resolving resolved]
      simp [transitionTime, oldSome, newSome]
    | cons next rest =>
      rw [List.cons_append, List.cons_append, observeVersions_cons_cons, ← List.cons_append,
        refWaitTime_resolving (resolvingAll old (.head _)) (resolvingAll next (.tail _ (.head _))),
        ih (List.cons_ne_nil _ _) fun conditions member => resolvingAll conditions (.tail _ member)]
      rfl

theorem resolution_observed_once_from_last_resolving :
    let resolvingAt (time : Int) : List Condition :=
      [{ type := "Succeeded", status := .conditionUnknown, reason := resolvingTaskRef, lastTransitionTime := time }]
    let runningAt (time : Int) : List Condition :=
      [{ type := "Succeeded", status := .conditionUnknown, reason := "Running", lastTransitionTime := time }]
    (∀ conditions ∈ [resolvingAt 1000, resolvingAt 3000], ResolvingAs resolvingTaskRef true conditions) ∧
      (∀ conditions ∈ [runningAt 7000, runningAt 7000], ResolvingAs resolvingTaskRef false conditions) ∧
      observeVersions (refWaitTime resolvingTaskRef "ns" true) ([resolvingAt 1000, resolvingAt 3000] ++ [runningAt 7000, runningAt 7000]) =
        [⟨"ns", transitionTime ([runningAt 7000, runningAt 7000].head (List.cons_ne_nil _ _)) -
          transitionTime ([resolvingAt 1000, resolvingAt 3000].getLast (List.cons_ne_nil _ _))⟩] := by
  intro resolvingAt runningAt
  have resolvingAll : ∀ conditions ∈ [resolvingAt 1000, resolvingAt 3000], ResolvingAs resolvingTaskRef true conditions := by
    simp only [List.mem_cons, List.mem_singleton, List.not_mem_nil, or_false]
    rintro _ (rfl | rfl) <;> exact ⟨rfl, _, rfl, by simp⟩
  have resolved : ∀ conditions ∈ [runningAt 7000, runningAt 7000], ResolvingAs resolvingTaskRef false conditions := by
    simp only [List.mem_cons, List.mem_singleton, List.not_mem_nil, or_false, or_self]
    rintro _ rfl
    exact ⟨rfl, _, rfl, by simp [resolvingTaskRef]⟩
  exact ⟨resolvingAll, resolved, resolution_observed_once _ _ _ _ resolvingAll resolved⟩

end PipelineServiceExporter.Proofs.WaitTimes
