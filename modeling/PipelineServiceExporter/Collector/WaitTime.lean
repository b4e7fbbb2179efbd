import PipelineServiceExporter.Collector.Overhead

/-! The event filters that only observe: the reference-resolution wait of
TaskRuns and PipelineRuns, and the time a finished PipelineRun waited to be
scheduled. Each returns `false`, so none queues a reconcile; its effect is the
observation it makes on the pair of versions the watch delivers. -/

namespace PipelineServiceExporter.Collector

/-- Tekton's `TaskRunReasonResolvingTaskRef`. -/
def resolvingTaskRef : String := "ResolvingTaskRef"

/-- The literal the PipelineRun filter compares with. -/
def resolvingPipelineRef : String := "ResolvingPipelineRef"

/-- One `Observe` on a wait-time histogram, in milliseconds. -/
structure WaitObservation where
  «namespace» : String
  wait : Int
  deriving DecidableEq, Repr

/-- The body the reference wait-time filters share, over the Succeeded
conditions of the old and new versions: a finished object that resolved no
reference waited `0`, and a running one that leaves the resolving reason waited
from the old condition's transition to the new one's. A transition time that
changes under an unchanged reason is only logged. -/
def refWaitTime (resolving «namespace» : String) (hasRef : Bool) (oldConditions newConditions : List Condition) :
    List WaitObservation :=
  match getCondition newConditions conditionSucceeded with
  | none => []
  | some newCondition =>
    if !isDone oldConditions && isDone newConditions then
      if hasRef then [] else [⟨«namespace», 0⟩]
    else if isDone newConditions then []
    else
      match getCondition oldConditions conditionSucceeded with
      | none => []
      | some oldCondition =>
        if oldCondition.reason == resolving && newCondition.reason != resolving then
          [⟨«namespace», newCondition.lastTransitionTime - oldCondition.lastTransitionTime⟩]
        else []

def TaskRefWaitTimeFilter.update (oldTR newTR : TaskRun) : Bool × List WaitObservation :=
  (false, refWaitTime resolvingTaskRef newTR.namespace newTR.spec.taskRef.isSome
    oldTR.status.conditions newTR.status.conditions)

/-- The PipelineRun filter does not return after observing a finished run's
zero wait; it falls through to the check that returns on a done run. -/
def PipelineRefWaitTimeFilter.update (oldPR newPR : PipelineRun) : Bool × List WaitObservation :=
  match getCondition newPR.status.conditions conditionSucceeded with
  | none => (false, [])
  | some newCondition =>
    let unresolved : List WaitObservation :=
      if !oldPR.isDone && newPR.isDone && newPR.spec.pipelineRef.isNone then [⟨newPR.namespace, 0⟩] else []
    if newPR.isDone then (false, unresolved)
    else
      match getCondition oldPR.status.conditions conditionSucceeded with
      | none => (false, unresolved)
      | some oldCondition =>
        if oldCondition.reason == resolvingPipelineRef && newCondition.reason != resolvingPipelineRef then
          (false, unresolved ++
            [⟨newPR.namespace, newCondition.lastTransitionTime - oldCondition.lastTransitionTime⟩])
        else (false, unresolved)

/-- `calculateScheduledDurationPipelineRun` in milliseconds, or `none` on the nil
`StartTime` it dereferences; the source divides by 1000, which the observation
below keeps as its denominator. -/
def calculateScheduledDurationPipelineRun (pipelineRun : PipelineRun) : Option Int :=
  pipelineRun.status.startTime.map (calculateScheduledDuration pipelineRun.creationTimestamp)

/-- The observation of `scheduleDuration / 1000` seconds. -/
def bumpPipelineRunScheduledDuration (scheduleDuration : Int) (pr : PipelineRun) : Observation :=
  ⟨pr.namespace, if isFalse (getCondition pr.status.conditions conditionSucceeded) then failed else succeeded,
    scheduleDuration, 1000⟩

/-- `startTimeEventFilter.Update`, or `none` when it panics. -/
def StartTimeEventFilter.update (oldPR newPR : PipelineRun) : Option (Bool × List Observation) :=
  if !oldPR.isDone && newPR.isDone then
    (calculateScheduledDurationPipelineRun newPR).map fun scheduleDuration =>
      (false, [bumpPipelineRunScheduledDuration scheduleDuration newPR])
  else some (false, [])

/-- What a filter observes over the versions of one object, as the watch
delivers each one with the one before it. -/
def observeVersions {α β : Type} (update : α → α → List β) : List α → List β
  | old :: new :: rest => update old new ++ observeVersions update (new :: rest)
  | _ => []

theorem observeVersions_cons_cons {α β : Type} (update : α → α → List β) (old new : α) (rest : List α) :
    observeVersions update (old :: new :: rest) = update old new ++ observeVersions update (new :: rest) := rfl

end PipelineServiceExporter.Collector
