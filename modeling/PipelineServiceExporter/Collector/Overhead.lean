import PipelineServiceExporter.Collector.Gaps

/-! The overhead reconciler: the throttle detector, the event filter that decides
which PipelineRun updates trigger a reconcile, and `ReconcileOverhead` itself with
every effect it has: the result and error it returns, the label patch it sends,
and the two histogram observations. -/

namespace PipelineServiceExporter.Collector

def reasonExceededResourceQuota : String := "ExceededResourceQuota"
def reasonExceededNodeResources : String := "ExceededNodeResources"

def isTaskRunThrottled (tr : TaskRun) : Bool :=
  match getCondition tr.status.conditions conditionSucceeded with
  | some condition =>
    condition.status == .conditionUnknown &&
      (condition.reason == reasonExceededResourceQuota || condition.reason == reasonExceededNodeResources)
  | none => false

/-- `oc.Get(ctx, key, kid)` into `kid := &v1.TaskRun{}`: a failed Get leaves it empty. -/
def getInto (fetched : Except ApiError TaskRun) : TaskRun × Option ApiError :=
  match fetched with
  | .ok kid => (kid, none)
  | .error err => (default, some err)

/-- The loop of `isPipelineRunThrottled` over the remaining child references. -/
def scanForThrottledTaskRun (store : TaskRunStore) :
    List ChildStatusReference → Bool × String × Option ApiError
  | [] => (false, "", none)
  | kidRef :: kidRefs =>
    if kidRef.kind != "TaskRun" then scanForThrottledTaskRun store kidRefs
    else
      let (kid, err) := getInto (store.get kidRef.name)
      if err.any (!·.isNotFound) then (false, "", err)
      else if isTaskRunThrottled kid then (true, kid.name, none)
      else scanForThrottledTaskRun store kidRefs

def isPipelineRunThrottled (store : TaskRunStore) (pr : PipelineRun) : Bool × String × Option ApiError :=
  scanForThrottledTaskRun store pr.status.childReferences

def isPipelineRunGoing (pr : PipelineRun) : Bool :=
  pr.status.childReferences.any (·.kind == "TaskRun")

/-- The value of the label merge patch, when one is sent, and the error returned.
The patch carries no resourceVersion, and only a NotFound answer is returned. -/
def tagPipelineRunsWithTaskRunsGettingThrottled (store : TaskRunStore) (answer : Option ApiError)
    (pr : PipelineRun) : Option String × Option ApiError :=
  match isPipelineRunThrottled store pr with
  | (_, _, some err) => (none, some err)
  | (throttled, throttledTaskRun, none) =>
    let previouslyLabelled := (pr.labels.get? throttledLabel).isSome
    if throttled && !previouslyLabelled then
      (some throttledTaskRun, answer.filter (·.isNotFound))
    else (none, none)

structure OverheadGapEventFilter where
  client : TaskRunStore

def OverheadGapEventFilter.update (f : OverheadGapEventFilter) (oldPR newPR : PipelineRun) : Bool :=
  if (newPR.labels.get? throttledLabel).isSome then false
  else if !oldPR.isDone && newPR.isDone then true
  else if oldPR.isDone && newPR.isDone then false
  else if (isPipelineRunThrottled f.client newPR).1 then true
  else if !isPipelineRunGoing newPR then true
  else false

/-- One `Observe` call: the histogram's labels and the ratio `numerator / denominator`. -/
structure Observation where
  «namespace» : String
  status : String
  numerator : Int
  denominator : Int
  deriving DecidableEq, Repr

structure Reply where
  requeue : Bool := false
  error : Option ApiError := none
  patch : Option String := none
  execution : Option Observation := none
  scheduling : Option Observation := none
  deriving DecidableEq, Repr

/-- Each of the two blocks that end in `Observe`: a filtered ratio is dropped. -/
def observeRatio (threshold : Option Int) (ns status : String) (numerator totalDuration : Int) :
    Option Observation :=
  if filter threshold numerator totalDuration then none else some ⟨ns, status, numerator, totalDuration⟩

/-- The observations of a finished PipelineRun whose gaps were found, or `none`
when its nil `StartTime` is dereferenced. -/
def observeOverhead (threshold : Option Int) (pr : PipelineRun) (status : String) (gapTotal : Int) :
    Option Reply :=
  match pr.status.completionTime, pr.status.startTime with
  | some completion, some start =>
    let totalDuration := completion - start
    let scheduleDuration := calculateScheduledDuration pr.creationTimestamp start
    some { execution := observeRatio threshold pr.namespace status gapTotal totalDuration
           scheduling := observeRatio threshold pr.namespace status scheduleDuration totalDuration }
  | _, _ => none

/-- `ReconcileOverhead`, or `none` when it panics on a nil `StartTime`. -/
def reconcileOverhead (threshold : Option Int) (client : Client) : Option Reply :=
  match client.pipelineRun with
  | .error err => some { error := if err.isNotFound then none else some err }
  | .ok pr =>
    let succeedCondition := getCondition pr.status.conditions conditionSucceeded
    if succeedCondition.isSome && !isUnknown succeedCondition then
      let gaps := accumulateGaps client.taskRuns pr
      if gaps.foundGaps then
        observeOverhead threshold pr (if isFalse succeedCondition then failed else succeeded) gaps.gapTotal
      else some {}
    else if !isPipelineRunGoing pr then some { requeue := true }
    else
      let (patch, error) := tagPipelineRunsWithTaskRunsGettingThrottled client.taskRuns client.patch pr
      some { patch, error }

end PipelineServiceExporter.Collector
