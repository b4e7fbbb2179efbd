import PipelineServiceExporter.Cluster
import PipelineServiceExporter.Proofs.ReconcileContract

/-! Whole runs of the cluster. A patched version is never delivered as a trigger,
so a reconcile adds no request beyond its own requeue; the throttle label, once
in the store, stays there and keeps every later write from queueing one; and
what a run is observed after it finishes is bounded by the requests pending when
it did. -/

namespace PipelineServiceExporter.Proofs.ClusterRuns
open Collector Cluster ReconcileContract

variable {c : Cluster} {answer : Option ApiError} {reply : Reply}

theorem update_labelled (f : OverheadGapEventFilter) (old pr : PipelineRun) (value : String) :
    f.update old (labelled pr value) = false := by
  simp [OverheadGapEventFilter.update]

theorem update_finished (f : OverheadGapEventFilter) {old new : PipelineRun} (was : old.isDone = true)
    (is : new.isDone = true) : f.update old new = false := by
  simp [OverheadGapEventFilter.update, was, is]

theorem snapshot_mem (c : Cluster) (lag : Nat) : c.snapshot lag ∈ c.pipelineRun :: c.snapshots := by
  unfold snapshot
  rw [List.getD_eq_getElem?_getD]
  cases found : (c.pipelineRun :: c.snapshots)[lag]? with
  | none => exact .head _
  | some pr => exact List.getElem?_mem found

theorem finish_pending (c : Cluster) (answer : Option ApiError) (reply : Reply) :
    (c.finish answer reply).pending = c.pending - 1 + if reply.requeue then 1 else 0 := by
  unfold finish
  split
  · simp [commit, update_labelled]
  · rfl

@[simp] theorem finish_execution (c : Cluster) (answer : Option ApiError) (reply : Reply) :
    (c.finish answer reply).execution = c.execution ++ reply.execution.toList := by
  unfold finish
  split <;> rfl

@[simp] theorem finish_scheduling (c : Cluster) (answer : Option ApiError) (reply : Reply) :
    (c.finish answer reply).scheduling = c.scheduling ++ reply.scheduling.toList := by
  unfold finish
  split <;> rfl

@[simp] theorem finish_isDone (c : Cluster) (answer : Option ApiError) (reply : Reply) :
    (c.finish answer reply).pipelineRun.isDone = c.pipelineRun.isDone := by
  unfold finish
  split <;> rfl

theorem finish_pipelineRun (c : Cluster) (answer : Option ApiError) (reply : Reply) :
    (c.finish answer reply).pipelineRun = c.pipelineRun ∨
      ∃ value, reply.patch = some value ∧ (c.finish answer reply).pipelineRun = labelled c.pipelineRun value := by
  unfold finish
  split
  · next value patched => exact .inr ⟨value, patched, rfl⟩
  · exact .inl rfl

theorem finish_snapshots (c : Cluster) (answer : Option ApiError) (reply : Reply) :
    ∀ pr ∈ (c.finish answer reply).snapshots, pr ∈ c.pipelineRun :: c.snapshots := by
  unfold finish
  split
  · exact fun _ member => member
  · exact fun _ member => .tail _ member

/-- What a reconcile step can do: nothing with no request pending; otherwise it
takes one request, whose reconcile panics or replies. -/
theorem step_reconcile_cases (c : Cluster) (lag : Nat) (answer : Option ApiError) :
    c.step (.reconcile lag answer) = c ∨
    (c.pending ≠ 0 ∧ c.step (.reconcile lag answer) = { c with pending := c.pending - 1 }) ∨
    ∃ reply, c.pending ≠ 0 ∧
      reconcileOverhead c.filterThreshold ⟨.ok (c.snapshot lag), c.taskRuns, answer⟩ = some reply ∧
      c.step (.reconcile lag answer) = c.finish answer reply := by
  by_cases idle : c.pending = 0
  · exact .inl (by simp [step, idle])
  · cases replied : reconcileOverhead c.filterThreshold ⟨.ok (c.snapshot lag), c.taskRuns, answer⟩ with
    | none => exact .inr (.inl ⟨idle, by simp [step, idle, replied]⟩)
    | some reply => exact .inr (.inr ⟨reply, idle, rfl, by simp [step, idle, replied]⟩)

/-! ## The throttle label -/

theorem step_keeps_label (event : Event) (present : (c.pipelineRun.labels.get? throttledLabel).isSome) :
    ((c.step event).pipelineRun.labels.get? throttledLabel).isSome := by
  cases event with
  | write => exact present
  | reconcile lag answer =>
    rcases step_reconcile_cases c lag answer with same | ⟨-, same⟩ | ⟨reply, -, -, same⟩ <;> rw [same]
    · exact present
    · exact present
    · rcases finish_pipelineRun c answer reply with kept | ⟨value, -, patched⟩
      · rwa [kept]
      · simp [patched]

theorem step_current_labelled (event : Event) (present : (c.pipelineRun.labels.get? throttledLabel).isSome)
    (current : event.readsStale = false) :
    (c.step event).pipelineRun.labels = c.pipelineRun.labels ∧ (c.step event).execution = c.execution ∧
      (c.step event).scheduling = c.scheduling := by
  cases event with
  | write => exact ⟨rfl, rfl, rfl⟩
  | reconcile lag answer =>
    obtain rfl : lag = 0 := by simpa [Event.readsStale] using current
    rcases step_reconcile_cases c 0 answer with same | ⟨-, same⟩ | ⟨reply, -, replied, same⟩ <;> rw [same]
    · exact ⟨rfl, rfl, rfl⟩
    · exact ⟨rfl, rfl, rfl⟩
    · obtain ⟨unpatched, unobserved, unscheduled⟩ := reconcileOverhead_labelled present replied
      simp [finish, unpatched, unobserved, unscheduled]

theorem run_keeps_label (events : List Event) (present : (c.pipelineRun.labels.get? throttledLabel).isSome) :
    ((c.run events).pipelineRun.labels.get? throttledLabel).isSome := by
  induction events generalizing c with
  | nil => exact present
  | cons event events ih => exact ih (step_keeps_label event present)

theorem run_current_labelled (events : List Event)
    (present : (c.pipelineRun.labels.get? throttledLabel).isSome) (current : ∀ e ∈ events, e.readsStale = false) :
    (c.run events).pipelineRun.labels.get? throttledLabel = c.pipelineRun.labels.get? throttledLabel ∧
      (c.run events).execution = c.execution ∧ (c.run events).scheduling = c.scheduling := by
  induction events generalizing c with
  | nil => exact ⟨rfl, rfl, rfl⟩
  | cons event events ih =>
    obtain ⟨labels, execution, scheduling⟩ := step_current_labelled event present (current event (.head _))
    have present' : ((c.step event).pipelineRun.labels.get? throttledLabel).isSome := by rwa [labels]
    obtain ⟨labels', execution', scheduling'⟩ := ih present' fun e member => current e (.tail _ member)
    rw [run_cons, labels', execution', scheduling', labels, execution, scheduling]
    exact ⟨rfl, rfl, rfl⟩

/-- Once the store's PipelineRun carries the throttle label, whatever events
follow, a reconcile that reads the current version records no observation. -/
theorem labelled_run_unobserved (c : Cluster) (before : List Event) (event : Event)
    (present : (c.pipelineRun.labels.get? throttledLabel).isSome) (current : event.readsStale = false) :
    ((c.run before).step event).execution = (c.run before).execution ∧
      ((c.run before).step event).scheduling = (c.run before).scheduling :=
  (step_current_labelled event (run_keeps_label before present) current).2

theorem labelled_run_unobserved_after_stale_reconcile :
    let build : PipelineRun :=
      { name := "build", labels := [(throttledLabel, "a")]
        status := { conditions := [{ type := "Succeeded", status := .conditionUnknown }] } }
    let store := TaskRunStore.ofList [{ name := "a", status := { completionTime := some 2000 } }] fun _ => none
    let done : PipelineRunStatus :=
      { conditions := [{ type := "Succeeded", status := .conditionTrue }]
        startTime := some 1000, completionTime := some 400000, childReferences := [⟨"TaskRun", "a"⟩] }
    let c := { Cluster.created none build store with pending := 2 }
    let before := [Event.write done store, .reconcile 1 none]
    (c.pipelineRun.labels.get? throttledLabel).isSome ∧ (Event.reconcile 0 none).readsStale = false ∧
      ((c.run before).step (.reconcile 0 none)).execution = (c.run before).execution ∧
      ((c.run before).step (.reconcile 0 none)).scheduling = (c.run before).scheduling :=
  ⟨rfl, rfl, labelled_run_unobserved _ _ _ rfl rfl⟩

/-- The filter triggers on a running run whose TaskRun waits on quota, but the
run finishes before the request runs: the request reads the done version, sets
no label, and observes the run. -/
theorem throttled_run_observed :
    let waiting : TaskRun :=
      { name := "a", creationTimestamp := 1000
        status := { conditions := [{ type := "Succeeded", status := .conditionUnknown
                                     reason := reasonExceededResourceQuota }] } }
    let throttled := TaskRunStore.ofList [waiting] fun _ => none
    let completed := TaskRunStore.ofList
      [{ name := "a", creationTimestamp := 1000, status := { completionTime := some 2000 } }] fun _ => none
    let build : PipelineRun :=
      { name := "build", creationTimestamp := 1000
        status := { conditions := [{ type := "Succeeded", status := .conditionUnknown }] } }
    let running : PipelineRunStatus :=
      { conditions := [{ type := "Succeeded", status := .conditionUnknown }], childReferences := [⟨"TaskRun", "a"⟩] }
    let done : PipelineRunStatus :=
      { conditions := [{ type := "Succeeded", status := .conditionTrue }]
        startTime := some 1000, completionTime := some 400000, childReferences := [⟨"TaskRun", "a"⟩] }
    ({ build with status := running } : PipelineRun).isDone = false ∧ isTaskRunThrottled waiting = true ∧
      OverheadGapEventFilter.update ⟨throttled⟩ build { build with status := running } = true ∧
      ((Cluster.created none build throttled).run
        [.write running throttled, .write done completed, .reconcile 0 none]).execution.length = 1 := by
  decide

/-- Under any schedule, the throttle label once in the store is never removed;
when every reconcile reads the current version, its value never changes. -/
theorem throttle_label_never_removed (c : Cluster) (events : List Event)
    (present : (c.pipelineRun.labels.get? throttledLabel).isSome) :
    ((c.run events).pipelineRun.labels.get? throttledLabel).isSome ∧
      ((∀ e ∈ events, e.readsStale = false) →
        (c.run events).pipelineRun.labels.get? throttledLabel = c.pipelineRun.labels.get? throttledLabel) :=
  ⟨run_keeps_label events present, fun current => (run_current_labelled events present current).1⟩

theorem throttle_label_never_removed_after_write :
    let build : PipelineRun :=
      { name := "build", labels := [(throttledLabel, "a")]
        status := { conditions := [{ type := "Succeeded", status := .conditionUnknown }] } }
    let store := TaskRunStore.ofList [] fun _ => none
    let events := [Event.write { conditions := [{ type := "Succeeded", status := .conditionUnknown }] } store,
      .reconcile 1 none]
    let c := Cluster.created none build store
    (c.pipelineRun.labels.get? throttledLabel).isSome ∧
      ((c.run events).pipelineRun.labels.get? throttledLabel).isSome ∧
      ((∀ e ∈ events, e.readsStale = false) →
        (c.run events).pipelineRun.labels.get? throttledLabel = c.pipelineRun.labels.get? throttledLabel) :=
  ⟨rfl, throttle_label_never_removed _ _ rfl⟩

/-- Two requests for a run whose first TaskRun is throttled: the first tags it
with that TaskRun; then the first TaskRun runs and the second is throttled, and
the second request, reading the version from before the patch, overwrites the
label with the second TaskRun. -/
theorem throttle_label_overwritten :
    let throttledKid (name : String) : TaskRun :=
      { name, status := { conditions := [{ type := "Succeeded", status := .conditionUnknown
                                           reason := reasonExceededResourceQuota }] } }
    let first := TaskRunStore.ofList [throttledKid "a", { name := "b" }] fun _ => none
    let second := TaskRunStore.ofList [{ name := "a" }, throttledKid "b"] fun _ => none
    let running : PipelineRunStatus :=
      { conditions := [{ type := "Succeeded", status := .conditionUnknown }]
        childReferences := [⟨"TaskRun", "a"⟩, ⟨"TaskRun", "b"⟩] }
    let c := (Cluster.created none { name := "build", status := running } first).run
      [.write running first, .write running first, .reconcile 0 none]
    c.pipelineRun.labels.get? throttledLabel = some "a" ∧
      (c.run [.write running second, .reconcile 2 none]).pipelineRun.labels.get? throttledLabel = some "b" := by
  decide

theorem step_labelled_pending (event : Event) (present : (c.pipelineRun.labels.get? throttledLabel).isSome) :
    (c.step event).pending ≤ c.pending := by
  cases event with
  | write status taskRuns =>
    have quiet : OverheadGapEventFilter.update ⟨taskRuns⟩ c.pipelineRun { c.pipelineRun with status } = false := by
      simp [OverheadGapEventFilter.update, present]
    simp [step, commit, quiet]
  | reconcile lag answer =>
    rcases step_reconcile_cases c lag answer with same | ⟨-, same⟩ | ⟨reply, busy, -, same⟩
    · exact (congrArg Cluster.pending same).le
    · exact (congrArg Cluster.pending same).trans_le (Nat.sub_le _ _)
    · rw [same, finish_pending]
      split <;> omega

theorem step_idle (event : Event) (idle : c.pending = 0) :
    (c.step event).execution = c.execution ∧ (c.step event).scheduling = c.scheduling := by
  cases event with
  | write => exact ⟨rfl, rfl⟩
  | reconcile => simp [step, idle]

theorem run_labelled_pending (events : List Event) (present : (c.pipelineRun.labels.get? throttledLabel).isSome) :
    (c.run events).pending ≤ c.pending := by
  induction events generalizing c with
  | nil => exact le_rfl
  | cons event events ih => exact (ih (step_keeps_label event present)).trans (step_labelled_pending event present)

theorem run_labelled_idle (events : List Event) (present : (c.pipelineRun.labels.get? throttledLabel).isSome)
    (idle : c.pending = 0) : (c.run events).execution = c.execution ∧ (c.run events).scheduling = c.scheduling := by
  induction events generalizing c with
  | nil => exact ⟨rfl, rfl⟩
  | cons event events ih =>
    have idle' : (c.step event).pending = 0 := Nat.le_zero.mp (idle ▸ step_labelled_pending event present)
    obtain ⟨execution, scheduling⟩ := step_idle event idle
    rw [run_cons, (ih (step_keeps_label event present) idle').1, (ih (step_keeps_label event present) idle').2,
      execution, scheduling]
    exact ⟨rfl, rfl⟩

/-- Once the throttle label is in the store, no event adds a request; so a
labelled run with no request pending is never reconciled again and never
observed, whatever is written to it and whatever versions are read. -/
theorem labelled_run_queues_nothing (c : Cluster) (events : List Event)
    (present : (c.pipelineRun.labels.get? throttledLabel).isSome) :
    (c.run events).pending ≤ c.pending ∧
      (c.pending = 0 → (c.run events).execution = c.execution ∧ (c.run events).scheduling = c.scheduling) :=
  ⟨run_labelled_pending events present, run_labelled_idle events present⟩

theorem labelled_run_queues_nothing_after_finishing :
    let build : PipelineRun :=
      { name := "build", labels := [(throttledLabel, "a")]
        status := { conditions := [{ type := "Succeeded", status := .conditionUnknown }] } }
    let store := TaskRunStore.ofList [] fun _ => none
    let done : PipelineRunStatus :=
      { conditions := [{ type := "Succeeded", status := .conditionTrue }]
        startTime := some 1000, completionTime := some 400000 }
    let c := Cluster.created none build store
    let events := [Event.write done store, .reconcile 1 none]
    (c.pipelineRun.labels.get? throttledLabel).isSome ∧ (c.run events).pending ≤ c.pending ∧
      (c.pending = 0 → (c.run events).execution = c.execution ∧ (c.run events).scheduling = c.scheduling) :=
  ⟨rfl, labelled_run_queues_nothing _ _ rfl⟩

/-! ## Observations of one run -/

/-- Before the run is done: no version of it is done, and nothing is observed. -/
structure Running (c : Cluster) : Prop where
  current : c.pipelineRun.isDone = false
  older : ∀ pr ∈ c.snapshots, pr.isDone = false
  unobserved : c.execution = [] ∧ c.scheduling = []

theorem Running.version (running : Running c) {pr : PipelineRun} (member : pr ∈ c.pipelineRun :: c.snapshots) :
    pr.isDone = false :=
  (List.mem_cons.mp member).elim (fun current => current ▸ running.current) (running.older pr)

theorem created_running {threshold : Option Int} {pr : PipelineRun} {taskRuns : TaskRunStore}
    (running : pr.isDone = false) : Running (Cluster.created threshold pr taskRuns) :=
  ⟨running, by simp [Cluster.created], rfl, rfl⟩

theorem step_running (event : Event) (running : Running c) (writes : event.writesDone ≠ some true) :
    Running (c.step event) := by
  cases event with
  | write status taskRuns =>
    have notDone : isDone status.conditions = false := by simpa [Event.writesDone] using writes
    exact ⟨notDone, List.forall_mem_cons.mpr ⟨running.current, running.older⟩, running.unobserved⟩
  | reconcile lag answer =>
    rcases step_reconcile_cases c lag answer with same | ⟨-, same⟩ | ⟨reply, -, replied, same⟩ <;> rw [same]
    · exact running
    · exact ⟨running.current, running.older, running.unobserved⟩
    · obtain ⟨unobserved, unscheduled⟩ :=
        reconcileOverhead_running_unobserved (running.version (snapshot_mem c lag)) replied
      exact ⟨by simpa using running.current, fun pr member => running.version (finish_snapshots c answer reply pr member),
        by simp [unobserved, unscheduled, running.unobserved]⟩

theorem run_running (events : List Event) (running : Running c) (writes : ∀ e ∈ events, e.writesDone ≠ some true) :
    Running (c.run events) := by
  induction events generalizing c with
  | nil => exact running
  | cons event events ih =>
    exact ih (step_running event running (writes event (.head _))) fun e member => writes e (.tail _ member)

/-- Whatever the schedule, a run is not observed before a write makes it done. -/
theorem unobserved_until_done {threshold : Option Int} {pr : PipelineRun} {taskRuns : TaskRunStore}
    (events : List Event) (running : pr.isDone = false) (stillRunning : ∀ e ∈ events, e.writesDone ≠ some true) :
    ((Cluster.created threshold pr taskRuns).run events).execution = [] ∧
      ((Cluster.created threshold pr taskRuns).run events).scheduling = [] :=
  (run_running events (created_running running) stillRunning).unobserved

theorem unobserved_until_done_requeued :
    let build : PipelineRun :=
      { name := "build", status := { conditions := [{ type := "Succeeded", status := .conditionUnknown }] } }
    let store := TaskRunStore.ofList [] fun _ => none
    let events := [Event.write { conditions := [{ type := "Succeeded", status := .conditionUnknown }] } store,
      .reconcile 0 none, .reconcile 1 none]
    build.isDone = false ∧ (∀ e ∈ events, e.writesDone ≠ some true) ∧
      ((Cluster.created none build store).run events).execution = [] ∧
      ((Cluster.created none build store).run events).scheduling = [] :=
  ⟨rfl, by decide, unobserved_until_done _ rfl (by decide)⟩

theorem step_reconcile_budget (c : Cluster) (lag : Nat) (answer : Option ApiError) :
    let next := c.step (.reconcile lag answer)
    next.execution.length + next.pending ≤ c.execution.length + c.pending ∧
      next.scheduling.length + next.pending ≤ c.scheduling.length + c.pending := by
  rcases step_reconcile_cases c lag answer with same | ⟨busy, same⟩ | ⟨reply, busy, replied, same⟩ <;>
    simp only [same]
  · exact ⟨le_rfl, le_rfl⟩
  · omega
  · simp only [finish_execution, finish_scheduling, finish_pending, List.length_append]
    cases requeued : reply.requeue
    · have atMostOne : ∀ o : Option Observation, o.toList.length ≤ 1 := fun o => by cases o <;> simp
      have := atMostOne reply.execution
      have := atMostOne reply.scheduling
      simp only [Bool.false_eq_true, ite_false]
      omega
    · obtain ⟨unobserved, unscheduled⟩ := reconcileOverhead_requeue_unobserved requeued replied
      simp only [unobserved, unscheduled, Option.toList_none, List.length_nil, ite_true]
      omega

theorem step_finished (event : Event) (finished : c.pipelineRun.isDone = true)
    (writes : event.writesDone ≠ some false) :
    (c.step event).pipelineRun.isDone = true ∧
      (c.step event).execution.length + (c.step event).pending ≤ c.execution.length + c.pending ∧
      (c.step event).scheduling.length + (c.step event).pending ≤ c.scheduling.length + c.pending := by
  cases event with
  | write status taskRuns =>
    have done : isDone status.conditions = true := by simpa [Event.writesDone] using writes
    have quiet : OverheadGapEventFilter.update ⟨taskRuns⟩ c.pipelineRun { c.pipelineRun with status } = false :=
      update_finished _ finished done
    simp [step, commit, quiet]
    exact done
  | reconcile lag answer =>
    refine ⟨?_, step_reconcile_budget c lag answer⟩
    rcases step_reconcile_cases c lag answer with same | ⟨-, same⟩ | ⟨reply, -, -, same⟩ <;> rw [same]
    · exact finished
    · exact finished
    · simpa using finished

theorem run_finished (events : List Event) (finished : c.pipelineRun.isDone = true)
    (writes : ∀ e ∈ events, e.writesDone ≠ some false) :
    (c.run events).execution.length + (c.run events).pending ≤ c.execution.length + c.pending ∧
      (c.run events).scheduling.length + (c.run events).pending ≤ c.scheduling.length + c.pending := by
  induction events generalizing c with
  | nil => exact ⟨le_rfl, le_rfl⟩
  | cons event events ih =>
    obtain ⟨done, execution, scheduling⟩ := step_finished event finished (writes event (.head _))
    obtain ⟨execution', scheduling'⟩ := ih done fun e member => writes e (.tail _ member)
    rw [run_cons]
    omega

theorem step_finishing (taskRuns : TaskRunStore) {status : PipelineRunStatus} (running : Running c)
    (done : isDone status.conditions = true) :
    let next := c.step (.write status taskRuns)
    next.pipelineRun.isDone = true ∧ next.execution = [] ∧ next.scheduling = [] ∧ next.pending ≤ c.pending + 1 := by
  refine ⟨done, running.unobserved.1, running.unobserved.2, ?_⟩
  simp only [step, commit]
  split <;> omega

/-- A run created not done, kept running by the writes of `before`, finished by
one write and kept done by the writes of `after`, is observed at most once per
histogram for each request pending when it finished, and once more. -/
theorem observations_bounded_by_pending {threshold : Option Int} {pr : PipelineRun} {taskRuns : TaskRunStore}
    {status : PipelineRunStatus} {store : TaskRunStore} (before after : List Event)
    (running : pr.isDone = false) (stillRunning : ∀ e ∈ before, e.writesDone ≠ some true)
    (finishing : isDone status.conditions = true) (stillDone : ∀ e ∈ after, e.writesDone ≠ some false) :
    ((Cluster.created threshold pr taskRuns).run (before ++ .write status store :: after)).execution.length ≤
        ((Cluster.created threshold pr taskRuns).run before).pending + 1 ∧
      ((Cluster.created threshold pr taskRuns).run (before ++ .write status store :: after)).scheduling.length ≤
        ((Cluster.created threshold pr taskRuns).run before).pending + 1 := by
  have beforeDone : Running ((Cluster.created threshold pr taskRuns).run before) :=
    run_running before (created_running running) stillRunning
  obtain ⟨done, unobserved, unscheduled, queued⟩ := step_finishing store beforeDone finishing
  obtain ⟨execution, scheduling⟩ := run_finished after done stillDone
  rw [unobserved] at execution
  rw [unscheduled] at scheduling
  rw [run_append, run_cons]
  simp only [List.length_nil] at execution scheduling
  omega

theorem observations_bounded_by_pending_twice :
    let store := TaskRunStore.ofList
      [{ name := "a", creationTimestamp := 1000, status := { completionTime := some 2000 } }] fun _ => none
    let build : PipelineRun :=
      { name := "build", creationTimestamp := 1000
        status := { conditions := [{ type := "Succeeded", status := .conditionUnknown }] } }
    let before := [Event.write { conditions := [{ type := "Succeeded", status := .conditionUnknown }] } store]
    let done : PipelineRunStatus :=
      { conditions := [{ type := "Succeeded", status := .conditionTrue }]
        startTime := some 1000, completionTime := some 400000, childReferences := [⟨"TaskRun", "a"⟩] }
    let after := [Event.reconcile 0 none, .reconcile 0 none]
    build.isDone = false ∧ (∀ e ∈ before, e.writesDone ≠ some true) ∧ isDone done.conditions = true ∧
      (∀ e ∈ after, e.writesDone ≠ some false) ∧
      ((Cluster.created none build store).run (before ++ .write done store :: after)).execution.length ≤
          ((Cluster.created none build store).run before).pending + 1 ∧
        ((Cluster.created none build store).run (before ++ .write done store :: after)).scheduling.length ≤
          ((Cluster.created none build store).run before).pending + 1 :=
  ⟨rfl, by decide, rfl, by decide, observations_bounded_by_pending _ _ rfl (by decide) rfl (by decide)⟩

/-- A run with no TaskRun yet is triggered as not going, then finishes and is
triggered by its done transition; both requests read the done version, and
each histogram observes the run twice. -/
theorem requeued_run_observed_twice :
    let store : TaskRunStore := TaskRunStore.ofList
      [{ name := "a", creationTimestamp := 1000, status := { completionTime := some 2000 } }] fun _ => none
    let build : PipelineRun :=
      { name := "build", creationTimestamp := 1000
        status := { conditions := [{ type := "Succeeded", status := .conditionUnknown }] } }
    let done : PipelineRunStatus :=
      { conditions := [{ type := "Succeeded", status := .conditionTrue }]
        startTime := some 1000, completionTime := some 400000, childReferences := [⟨"TaskRun", "a"⟩] }
    let final := (Cluster.created none build store).run
      [.write { conditions := [{ type := "Succeeded", status := .conditionUnknown }] } store, .write done store,
        .reconcile 0 none, .reconcile 0 none]
    final.execution.length = 2 ∧ final.scheduling.length = 2 := by
  decide

/-! ## Draining a finished run's requests -/

theorem step_reconcile_finished (answer : Option ApiError) (finished : c.pipelineRun.isDone = true) :
    (c.step (.reconcile 0 answer)).pending = c.pending - 1 ∧ (c.step (.reconcile 0 answer)).pipelineRun.isDone = true := by
  by_cases idle : c.pending = 0
  · simp [step, idle, finished]
  · cases replied : reconcileOverhead c.filterThreshold ⟨.ok c.pipelineRun, c.taskRuns, answer⟩ with
    | none => simp [step, idle, replied, finished]
    | some reply =>
      obtain ⟨unrequeued, unpatched⟩ := reconcileOverhead_finished_reply finished replied
      simp [step, idle, replied, finish, unpatched, unrequeued, finished]

theorem step_write_finished {status : PipelineRunStatus} (taskRuns : TaskRunStore) (finished : c.pipelineRun.isDone = true)
    (done : isDone status.conditions = true) :
    (c.step (.write status taskRuns)).pending = c.pending ∧ (c.step (.write status taskRuns)).pipelineRun.isDone = true := by
  have quiet : OverheadGapEventFilter.update ⟨taskRuns⟩ c.pipelineRun { c.pipelineRun with status } = false :=
    update_finished _ finished done
  simp [step, commit, quiet]
  exact done

/-- Once a run is finished, with every write keeping it finished and every
reconcile reading the current version, each reconcile ends one request and no
event queues one: the requests drain, and none is requeued forever. -/
theorem finished_requests_drain (c : Cluster) (events : List Event) (finished : c.pipelineRun.isDone = true)
    (stillDone : ∀ e ∈ events, e.writesDone ≠ some false) (current : ∀ e ∈ events, e.readsStale = false) :
    (c.run events).pending = c.pending - events.countP (·.writesDone.isNone) := by
  induction events generalizing c with
  | nil => rfl
  | cons event events ih =>
    have rest := fun done => ih (c.step event) done (fun e member => stillDone e (.tail _ member))
      (fun e member => current e (.tail _ member))
    cases event with
    | write status taskRuns =>
      have done : isDone status.conditions = true := by simpa [Event.writesDone] using stillDone _ (.head _)
      obtain ⟨same, stays⟩ := step_write_finished taskRuns finished done
      rw [run_cons, rest stays, same]
      simp [List.countP_cons, Event.writesDone]
    | reconcile lag answer =>
      obtain rfl : lag = 0 := by simpa [Event.readsStale] using current _ (.head _)
      obtain ⟨consumed, stays⟩ := step_reconcile_finished answer finished
      rw [run_cons, rest stays, consumed]
      simp [List.countP_cons, Event.writesDone]
      omega

theorem finished_requests_drain_two_requests :
    let store := TaskRunStore.ofList
      [{ name := "a", creationTimestamp := 1000, status := { completionTime := some 2000 } }] fun _ => none
    let build : PipelineRun :=
      { name := "build", creationTimestamp := 1000
        status := { conditions := [{ type := "Succeeded", status := .conditionTrue }]
                    startTime := some 1000, completionTime := some 400000, childReferences := [⟨"TaskRun", "a"⟩] } }
    let c := { Cluster.created none build store with pending := 2 }
    let events := [Event.reconcile 0 none, .write build.status store, .reconcile 0 none]
    c.pipelineRun.isDone = true ∧ (∀ e ∈ events, e.writesDone ≠ some false) ∧ (∀ e ∈ events, e.readsStale = false) ∧
      (c.run events).pending = c.pending - events.countP (·.writesDone.isNone) :=
  ⟨rfl, by decide, by decide, finished_requests_drain _ _ rfl (by decide) (by decide)⟩

end PipelineServiceExporter.Proofs.ClusterRuns
