import PipelineServiceExporter.Collector.Overhead

/-! The overhead reconciler inside its cluster. Tekton writes a PipelineRun's
status and its TaskRuns; every new version is delivered with the one before it
to the event filter, and each true answer queues one reconcile request. A request
runs at any later point on a version of the PipelineRun that may lag the store,
as a cache read can, and a `Requeue` result queues it again. Requests for the same
run are never merged. A reconcile that returns an error, or panics, ends its
request: controller-runtime would queue it again after a backoff, and the
schedule leaves that retry out. -/

namespace PipelineServiceExporter

open Collector

structure Cluster where
  filterThreshold : Option Int
  pipelineRun : PipelineRun
  snapshots : List PipelineRun
  taskRuns : TaskRunStore
  pending : Nat
  execution : List Observation
  scheduling : List Observation

inductive Event where
  /-- Tekton writes the run's status; the TaskRuns change with it. -/
  | write (status : PipelineRunStatus) (taskRuns : TaskRunStore)
  /-- A pending request runs on the version `lag` versions old, and the API
  server answers its label patch with `answer`. -/
  | reconcile (lag : Nat) (answer : Option ApiError)

namespace Event

/-- Whether an event writes a status in which the run is done; `none` for a reconcile. -/
def writesDone : Event → Option Bool
  | write status _ => some (isDone status.conditions)
  | reconcile _ _ => none

/-- Whether a reconcile reads a version older than the store's. -/
def readsStale : Event → Bool
  | write _ _ => false
  | reconcile lag _ => lag != 0

end Event

namespace Cluster

/-- A PipelineRun just created, before any request for it. -/
def created (filterThreshold : Option Int) (pr : PipelineRun) (taskRuns : TaskRunStore) : Cluster :=
  ⟨filterThreshold, pr, [], taskRuns, 0, [], []⟩

/-- A new version enters the store and the watch delivers it to the filter. -/
def commit (c : Cluster) (next : PipelineRun) : Cluster :=
  { c with
    pipelineRun := next
    snapshots := c.pipelineRun :: c.snapshots
    pending := c.pending + if OverheadGapEventFilter.update ⟨c.taskRuns⟩ c.pipelineRun next then 1 else 0 }

def snapshot (c : Cluster) (lag : Nat) : PipelineRun := (c.pipelineRun :: c.snapshots).getD lag c.pipelineRun

@[simp] theorem snapshot_zero (c : Cluster) : c.snapshot 0 = c.pipelineRun := rfl

/-- The merge patch sets the label on whatever version the store holds. -/
def labelled (pr : PipelineRun) (value : String) : PipelineRun :=
  { pr with labels := pr.labels.set throttledLabel value }

/-- A request has run: it is queued again on `Requeue`, and its observations are kept. -/
def record (c : Cluster) (reply : Reply) : Cluster :=
  { c with
    pending := c.pending - 1 + if reply.requeue then 1 else 0
    execution := c.execution ++ reply.execution.toList
    scheduling := c.scheduling ++ reply.scheduling.toList }

/-- A request that returned `reply`; the patched version is committed when the
API server accepted the patch. -/
def finish (c : Cluster) (answer : Option ApiError) (reply : Reply) : Cluster :=
  match reply.patch, answer with
  | some value, none => (c.record reply).commit (labelled c.pipelineRun value)
  | _, _ => c.record reply

def step (c : Cluster) : Event → Cluster
  | .write status taskRuns => { c with taskRuns }.commit { c.pipelineRun with status }
  | .reconcile lag answer =>
    if c.pending = 0 then c
    else
      match reconcileOverhead c.filterThreshold ⟨.ok (c.snapshot lag), c.taskRuns, answer⟩ with
      | none => { c with pending := c.pending - 1 }
      | some reply => c.finish answer reply

def run (c : Cluster) (events : List Event) : Cluster := events.foldl step c

@[simp] theorem run_nil (c : Cluster) : c.run [] = c := rfl

@[simp] theorem run_cons (c : Cluster) (event : Event) (events : List Event) :
    c.run (event :: events) = (c.step event).run events := rfl

theorem run_append (c : Cluster) (first second : List Event) :
    c.run (first ++ second) = (c.run first).run second := List.foldl_append _ _ _ _

@[simp] theorem commit_pipelineRun (c : Cluster) (next : PipelineRun) : (c.commit next).pipelineRun = next := rfl
@[simp] theorem commit_snapshots (c : Cluster) (next : PipelineRun) :
    (c.commit next).snapshots = c.pipelineRun :: c.snapshots := rfl
@[simp] theorem commit_execution (c : Cluster) (next : PipelineRun) : (c.commit next).execution = c.execution := rfl
@[simp] theorem commit_scheduling (c : Cluster) (next : PipelineRun) :
    (c.commit next).scheduling = c.scheduling := rfl

@[simp] theorem record_pipelineRun (c : Cluster) (reply : Reply) : (c.record reply).pipelineRun = c.pipelineRun := rfl
@[simp] theorem record_snapshots (c : Cluster) (reply : Reply) : (c.record reply).snapshots = c.snapshots := rfl
@[simp] theorem record_taskRuns (c : Cluster) (reply : Reply) : (c.record reply).taskRuns = c.taskRuns := rfl
@[simp] theorem record_pending (c : Cluster) (reply : Reply) :
    (c.record reply).pending = c.pending - 1 + if reply.requeue then 1 else 0 := rfl
@[simp] theorem record_execution (c : Cluster) (reply : Reply) :
    (c.record reply).execution = c.execution ++ reply.execution.toList := rfl
@[simp] theorem record_scheduling (c : Cluster) (reply : Reply) :
    (c.record reply).scheduling = c.scheduling ++ reply.scheduling.toList := rfl

@[simp] theorem labelled_labels (pr : PipelineRun) (value : String) :
    (labelled pr value).labels.get? throttledLabel = some value := by
  simp [labelled]

@[simp] theorem labelled_isDone (pr : PipelineRun) (value : String) : (labelled pr value).isDone = pr.isDone := rfl

end Cluster

end PipelineServiceExporter
