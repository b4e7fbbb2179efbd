import PipelineServiceExporter.Proofs.ClusterRuns
import PipelineServiceExporter.Proofs.ThrottleScan

/-! Where the cluster's outputs come from. The throttle label always names a
TaskRun reference of a version of the PipelineRun the store has held. Every
observation either histogram holds was made by one of the reconciles, of the
version it read, which was done and carried no throttle label: it has that
version's namespace, outcome and duration, and its numerator is the gap total
over the TaskRuns the store held when the reconcile ran, or the version's
scheduling wait. Both hold under any schedule, whatever version each reconcile
reads. -/

namespace PipelineServiceExporter.Proofs.ClusterProvenance
open Collector Cluster ReconcileContract ClusterRuns ThrottleScan

variable {c : Cluster} {threshold : Option Int} {pr : PipelineRun} {store : TaskRunStore}
  {answer : Option ApiError} {reply : Reply}

/-- Every version of the PipelineRun the store has held, newest first. -/
def versions (c : Cluster) : List PipelineRun := c.pipelineRun :: c.snapshots

theorem finish_versions (c : Cluster) (answer : Option ApiError) (reply : Reply) :
    ∀ pr ∈ versions c, pr ∈ versions (c.finish answer reply) := by
  unfold finish
  split
  · exact fun _ member => .tail _ member
  · exact fun _ member => member

theorem step_versions (c : Cluster) (event : Event) : ∀ pr ∈ versions c, pr ∈ versions (c.step event) := by
  cases event with
  | write => exact fun _ member => .tail _ member
  | reconcile lag answer =>
    rcases step_reconcile_cases c lag answer with same | ⟨-, same⟩ | ⟨reply, -, -, same⟩ <;> rw [same]
    · exact fun _ member => member
    · exact fun _ member => member
    · exact finish_versions c answer reply

theorem step_filterThreshold (c : Cluster) (event : Event) : (c.step event).filterThreshold = c.filterThreshold := by
  cases event with
  | write => rfl
  | reconcile lag answer =>
    rcases step_reconcile_cases c lag answer with same | ⟨-, same⟩ | ⟨reply, -, -, same⟩ <;> rw [same]
    unfold finish
    split <;> rfl

/-! ## The throttle label -/

theorem scan_found {refs : List ChildStatusReference} {value : String}
    (found : scanForThrottledTaskRun store refs = (true, value, none)) :
    ∃ kidRef ∈ refs, StopsThrottled store kidRef ∧ kidRef.name = value := by
  rcases scan_outcome store refs with ⟨pre, kidRef, post, split, -, stops, result⟩ |
      ⟨_, _, _, _, _, _, _, result⟩ | ⟨_, result⟩ <;> rw [result] at found <;> cases found
  exact ⟨kidRef, split ▸ List.mem_append_right _ (.head _), stops, rfl⟩

theorem tag_patch {value : String} (patched : (tagPipelineRunsWithTaskRunsGettingThrottled store answer pr).1 = some value) :
    isPipelineRunThrottled store pr = (true, value, none) ∧ pr.labels.get? throttledLabel = none := by
  unfold tagPipelineRunsWithTaskRunsGettingThrottled at patched
  dsimp only at patched
  split at patched
  · cases patched
  · next throttled name scanned =>
    split at patched
    · next fresh =>
      cases patched
      simp only [Bool.and_eq_true, Bool.not_eq_true'] at fresh
      exact ⟨by rw [scanned, fresh.1], Option.not_isSome_iff_eq_none.mp (by simp [fresh.2])⟩
    · cases patched

theorem reconcileOverhead_patch {value : String}
    (replied : reconcileOverhead threshold ⟨.ok pr, store, answer⟩ = some reply) (patched : reply.patch = some value) :
    isPipelineRunThrottled store pr = (true, value, none) := by
  cases done : pr.isDone
  · rw [reconcileOverhead_running done] at replied
    split at replied <;> cases replied
    · exact (tag_patch patched).1
    · cases patched
  · simp [(reconcileOverhead_finished_reply done replied).2] at patched

/-- The throttle label, when present, names a TaskRun reference of a version the store has held. -/
def LabelNamesChild (c : Cluster) : Prop :=
  ∀ value, c.pipelineRun.labels.get? throttledLabel = some value →
    ∃ pr ∈ versions c, ∃ kidRef ∈ pr.status.childReferences, kidRef.kind = "TaskRun" ∧ kidRef.name = value

theorem step_labelNamesChild (event : Event) (named : LabelNamesChild c) : LabelNamesChild (c.step event) := by
  intro value labelled
  have carried := step_versions c event
  have kept : c.pipelineRun.labels.get? throttledLabel = some value →
      ∃ pr ∈ versions (c.step event), ∃ kidRef ∈ pr.status.childReferences, kidRef.kind = "TaskRun" ∧ kidRef.name = value :=
    fun old => let ⟨pr, member, found⟩ := named value old; ⟨pr, carried pr member, found⟩
  cases event with
  | write => exact kept labelled
  | reconcile lag answer =>
    rcases step_reconcile_cases c lag answer with same | ⟨-, same⟩ | ⟨reply, -, replied, same⟩ <;>
      rw [same] at labelled kept carried ⊢
    · exact kept labelled
    · exact kept labelled
    · rcases finish_pipelineRun c answer reply with unchanged | ⟨patchValue, patched, relabelled⟩
      · exact kept (unchanged ▸ labelled)
      · rw [relabelled, labelled_labels] at labelled
        cases labelled
        obtain ⟨kidRef, member, ⟨kind, -⟩, rfl⟩ := scan_found (reconcileOverhead_patch replied patched)
        exact ⟨c.snapshot lag, carried _ (snapshot_mem c lag), kidRef, member, kind, rfl⟩

theorem run_labelNamesChild (events : List Event) (named : LabelNamesChild c) : LabelNamesChild (c.run events) := by
  induction events generalizing c with
  | nil => exact named
  | cons event events ih => exact ih (step_labelNamesChild event named)

/-- Under any schedule, whatever versions the reconciles read, a throttle label
on a run created without one names a TaskRun reference of some version of the
run the store has held. -/
theorem throttle_label_names_taskRun (threshold : Option Int) (pr : PipelineRun) (taskRuns : TaskRunStore)
    (events : List Event) (unlabelled : pr.labels.get? throttledLabel = none) (value : String)
    (labelled : ((Cluster.created threshold pr taskRuns).run events).pipelineRun.labels.get? throttledLabel = some value) :
    ∃ version ∈ ((Cluster.created threshold pr taskRuns).run events).pipelineRun ::
        ((Cluster.created threshold pr taskRuns).run events).snapshots,
      ∃ kidRef ∈ version.status.childReferences, kidRef.kind = "TaskRun" ∧ kidRef.name = value :=
  run_labelNamesChild events (fun value labelled => by simp [Cluster.created, unlabelled] at labelled) value labelled

theorem throttle_label_names_taskRun_after_patch :
    let waiting : TaskRun :=
      { name := "a", status := { conditions := [{ type := "Succeeded", status := .conditionUnknown
                                                  reason := reasonExceededResourceQuota }] } }
    let store := TaskRunStore.ofList [waiting] fun _ => none
    let build : PipelineRun := { name := "build", status := { conditions := [{ type := "Succeeded", status := .conditionUnknown }] } }
    let running : PipelineRunStatus :=
      { conditions := [{ type := "Succeeded", status := .conditionUnknown }], childReferences := [⟨"TaskRun", "a"⟩] }
    let final := (Cluster.created none build store).run [.write running store, .reconcile 0 none]
    build.labels.get? throttledLabel = none ∧ final.pipelineRun.labels.get? throttledLabel = some "a" ∧
      ∃ version ∈ final.pipelineRun :: final.snapshots,
        ∃ kidRef ∈ version.status.childReferences, kidRef.kind = "TaskRun" ∧ kidRef.name = "a" := by
  intro waiting store build running final
  have labelled : final.pipelineRun.labels.get? throttledLabel = some "a" := by decide
  exact ⟨rfl, labelled, throttle_label_names_taskRun none build store _ rfl "a" labelled⟩

/-! ## The observations -/

/-- What an observation says of the version it was made from: the run was done
and carried no throttle label, and the observation has its namespace and
outcome, divides by its duration and was kept by the filter. -/
structure ObservedFrom (threshold : Option Int) (pr : PipelineRun) (o : Observation) : Prop where
  done : pr.isDone = true
  unlabelled : pr.labels.get? throttledLabel = none
  «namespace» : o.namespace = pr.namespace
  status : o.status = if isFalse (getCondition pr.status.conditions conditionSucceeded) then failed else succeeded
  duration : ∃ start completion, pr.status.startTime = some start ∧ pr.status.completionTime = some completion ∧
    o.denominator = completion - start
  kept : filter threshold o.numerator o.denominator = false

/-- An execution overhead observation: its numerator is the gap total the
reconstructor found for the version over the TaskRun store it read. -/
structure ExecutionFrom (threshold : Option Int) (pr : PipelineRun) (store : TaskRunStore) (o : Observation)
    extends ObservedFrom threshold pr o : Prop where
  gapTotal : (accumulateGaps store pr).foundGaps = true ∧ o.numerator = (accumulateGaps store pr).gapTotal

/-- A scheduling overhead observation: its numerator is the version's wait from
creation to start. -/
structure SchedulingFrom (threshold : Option Int) (pr : PipelineRun) (o : Observation)
    extends ObservedFrom threshold pr o : Prop where
  wait : ∃ start, pr.status.startTime = some start ∧ o.numerator = calculateScheduledDuration pr.creationTimestamp start

theorem unlabelled_of_foundGaps (found : (accumulateGaps store pr).foundGaps = true) :
    pr.labels.get? throttledLabel = none := by
  cases labelled : pr.labels.get? throttledLabel
  · rfl
  · have skipped : (accumulateGaps store pr).foundGaps = false := accumulateGaps_of_labelled (by simp [labelled])
    simp [skipped] at found

/-- Every observation one reconcile makes is of the version and the store it read. -/
theorem reconcileOverhead_observed (replied : reconcileOverhead threshold ⟨.ok pr, store, answer⟩ = some reply) :
    (∀ o ∈ reply.execution, ExecutionFrom threshold pr store o) ∧
      ∀ o ∈ reply.scheduling, SchedulingFrom threshold pr o := by
  cases done : pr.isDone
  · obtain ⟨unobserved, unscheduled⟩ := reconcileOverhead_running_unobserved done replied
    simp [unobserved, unscheduled]
  · rw [reconcileOverhead_finished done] at replied
    split at replied
    · next found =>
      unfold observeOverhead at replied
      split at replied
      · next completion start completed started =>
        cases replied
        refine ⟨fun o member => ?_, fun o member => ?_⟩ <;> obtain ⟨kept, rfl⟩ := mem_observeRatio.mp member
        · exact ⟨⟨done, unlabelled_of_foundGaps found, rfl, rfl, ⟨start, completion, started, completed, rfl⟩, kept⟩,
            found, rfl⟩
        · exact ⟨⟨done, unlabelled_of_foundGaps found, rfl, rfl, ⟨start, completion, started, completed, rfl⟩, kept⟩,
            ⟨start, started, rfl⟩⟩
      · cases replied
    · cases replied
      exact ⟨nofun, nofun⟩

theorem step_observations (c : Cluster) (event : Event) :
    (∀ o ∈ (c.step event).execution, o ∈ c.execution ∨
      ∃ lag answer, event = .reconcile lag answer ∧ ExecutionFrom c.filterThreshold (c.snapshot lag) c.taskRuns o) ∧
    ∀ o ∈ (c.step event).scheduling, o ∈ c.scheduling ∨
      ∃ lag answer, event = .reconcile lag answer ∧ SchedulingFrom c.filterThreshold (c.snapshot lag) o := by
  cases event with
  | write => exact ⟨fun _ => .inl, fun _ => .inl⟩
  | reconcile lag answer =>
    rcases step_reconcile_cases c lag answer with same | ⟨-, same⟩ | ⟨reply, -, replied, same⟩ <;> rw [same]
    · exact ⟨fun _ => .inl, fun _ => .inl⟩
    · exact ⟨fun _ => .inl, fun _ => .inl⟩
    · obtain ⟨execution, scheduling⟩ := reconcileOverhead_observed replied
      simp only [finish_execution, finish_scheduling, List.mem_append, Option.mem_toList]
      exact ⟨fun o => Or.imp_right fun new => ⟨lag, answer, rfl, execution o new⟩,
        fun o => Or.imp_right fun new => ⟨lag, answer, rfl, scheduling o new⟩⟩

/-- What a run adds to a histogram was added by one of its events, on the state
the run had reached before it. -/
theorem run_added {field : Cluster → List Observation} {made : Cluster → Event → Observation → Prop}
    (step_added : ∀ c event, ∀ o ∈ field (c.step event), o ∈ field c ∨ made c event o)
    (c : Cluster) (events : List Event) :
    ∀ o ∈ field (c.run events), o ∈ field c ∨
      ∃ k event, events[k]? = some event ∧ made (c.run (events.take k)) event o := by
  induction events generalizing c with
  | nil => exact fun _ => .inl
  | cons event events ih =>
    intro o member
    rcases ih (c.step event) o member with old | ⟨k, later, found, made⟩
    · exact (step_added c event o old).imp_right fun made => ⟨0, event, List.getElem?_cons_zero, made⟩
    · exact .inr ⟨k + 1, later, List.getElem?_cons_succ.trans found, made⟩

theorem run_filterThreshold (c : Cluster) (events : List Event) : (c.run events).filterThreshold = c.filterThreshold := by
  induction events generalizing c with
  | nil => rfl
  | cons event events ih => exact (ih _).trans (step_filterThreshold c event)

/-- Under any schedule, every execution or scheduling observation was made by
one of the reconciles, of the version it read: a done version of the run that
carried no throttle label. It has that version's namespace and outcome, divides
by its completion time minus its start time, passed the filter, and its
numerator is the gap total reconstructed over the TaskRuns the store held when
that reconcile ran, or the version's wait from creation to start. -/
theorem observations_from_done_versions (threshold : Option Int) (pr : PipelineRun) (taskRuns : TaskRunStore)
    (events : List Event) :
    let reached (k : Nat) := (Cluster.created threshold pr taskRuns).run (events.take k)
    let final := (Cluster.created threshold pr taskRuns).run events
    (∀ o ∈ final.execution, ∃ k lag answer, events[k]? = some (.reconcile lag answer) ∧
        ExecutionFrom threshold ((reached k).snapshot lag) (reached k).taskRuns o) ∧
      ∀ o ∈ final.scheduling, ∃ k lag answer, events[k]? = some (.reconcile lag answer) ∧
        SchedulingFrom threshold ((reached k).snapshot lag) o := by
  intro reached final
  have configured (k : Nat) : (reached k).filterThreshold = threshold := run_filterThreshold _ _
  refine ⟨fun o member => ?_, fun o member => ?_⟩
  · obtain ⟨k, _, found, lag, answer, rfl, traced⟩ :=
      (run_added (fun c event => (step_observations c event).1) _ events o member).resolve_left nofun
    exact ⟨k, lag, answer, found, configured k ▸ traced⟩
  · obtain ⟨k, _, found, lag, answer, rfl, traced⟩ :=
      (run_added (fun c event => (step_observations c event).2) _ events o member).resolve_left nofun
    exact ⟨k, lag, answer, found, configured k ▸ traced⟩

end PipelineServiceExporter.Proofs.ClusterProvenance
