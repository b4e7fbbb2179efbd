import PipelineServiceExporter.Collector.Objects

/-! The timeline reconstructor: the TaskRuns of a finished PipelineRun ordered by
creation and by completion, one gap per TaskRun, and their sum. Go's stable
`sort.SliceStable` is Mathlib's insertion sort, which is stable; a stable sort's
result does not depend on the algorithm. -/

namespace PipelineServiceExporter.Collector

def taskLabelKey : String := "tekton.dev/task"
def pipelineTaskLabelKey : String := "tekton.dev/pipelineTask"
def clusterTaskLabelKey : String := "tekton.dev/clusterTask"
def taskRunLabelKey : String := "tekton.dev/taskRun"

def succeeded : String := "succeded"
def failed : String := "failed"

/-- The first non-empty of the task, pipeline task, cluster task and TaskRun labels. -/
def taskRef (labels : Labels) : String :=
  let task := (labels.get? taskLabelKey).getD ""
  let pipelineTask := (labels.get? pipelineTaskLabelKey).getD ""
  let clusterTask := (labels.get? clusterTaskLabelKey).getD ""
  let taskRun := (labels.get? taskRunLabelKey).getD ""
  if !task.isEmpty then task
  else if !pipelineTask.isEmpty then pipelineTask
  else if !clusterTask.isEmpty then clusterTask
  else taskRun

/-- Go's `unicode.IsSpace`: the Latin-1 spaces, and above them the characters
with Unicode's White_Space property. -/
def isSpace (c : Char) : Bool :=
  let r := c.toNat
  if r ≤ 0xFF then (0x09 ≤ r && r ≤ 0x0D) || r == 0x20 || r == 0x85 || r == 0xA0
  else r == 0x1680 || (0x2000 ≤ r && r ≤ 0x200A) || r == 0x2028 || r == 0x2029 || r == 0x202F ||
    r == 0x205F || r == 0x3000

/-- Go's `strings.TrimSpace`: the string without its leading and trailing spaces. -/
def trimSpace (s : String) : String :=
  ⟨((s.data.dropWhile isSpace).reverse.dropWhile isSpace).reverse⟩

def pipelineRunPipelineRef (pr : PipelineRun) : String :=
  match pr.spec.pipelineRef with
  | some ref =>
    if ref.name.isEmpty then
      match ref.params.find? (trimSpace ·.name == "name") with
      | some param => param.value
      | none => ref.name
    else ref.name
  | none => if pr.generateName.isEmpty then pr.name else pr.generateName

def calculateScheduledDuration (created started : Int) : Int :=
  if created == 0 || started == 0 then 0 else started - created

def skipPipelineRun (pr : PipelineRun) : Bool :=
  pr.status.childReferences.length < 1 || pr.status.completionTime.isNone ||
    (pr.labels.get? throttledLabel).isSome

/-- The TaskRun children in reference order, or `none` at the first Get that fails. -/
def fetchTaskRuns (store : TaskRunStore) : List ChildStatusReference → Option (List TaskRun)
  | [] => some []
  | kidRef :: kidRefs =>
    if kidRef.kind != "TaskRun" then fetchTaskRuns store kidRefs
    else match store.get kidRef.name with
      | .error _ => none
      | .ok kid => (fetchTaskRuns store kidRefs).map (kid :: ·)

/-- Only TaskRuns with a completion time enter the completion ordering. -/
def completedAt (tr : TaskRun) : Int := tr.status.completionTime.getD 0

/-- Stable ascending order of creation: `Before` never holds backwards. -/
def createdNoLater (a b : TaskRun) : Prop := a.creationTimestamp ≤ b.creationTimestamp

/-- Stable descending order of completion: `After` never holds backwards. -/
def completedNoEarlier (a b : TaskRun) : Prop := completedAt b ≤ completedAt a

instance : DecidableRel createdNoLater := fun a b =>
  inferInstanceAs (Decidable (a.creationTimestamp ≤ b.creationTimestamp))

instance : DecidableRel completedNoEarlier := fun a b =>
  inferInstanceAs (Decidable (completedAt b ≤ completedAt a))

structure SortedTaskRuns where
  sortedTaskRunsByCreateTimes : List TaskRun
  reverseOrderSortedTaskRunsByCompletionTimes : List TaskRun
  abort : Bool

def sortTaskRunsForGapCalculations (store : TaskRunStore) (pr : PipelineRun) : SortedTaskRuns :=
  match fetchTaskRuns store pr.status.childReferences with
  | none => ⟨[], [], true⟩
  | some kids =>
    ⟨kids.insertionSort createdNoLater,
      (kids.filter (·.status.completionTime.isSome)).insertionSort completedNoEarlier, false⟩

structure GapEntry where
  status : String
  pipeline : String
  completed : String
  upcoming : String
  gap : Int
  deriving DecidableEq, Repr

/-- The completion a later, non-parallel TaskRun's gap is measured from: the
first in descending completion order, other than itself, that did not complete
after it was created; failing that, whatever completed first, or the
PipelineRun's creation when nothing completed. -/
def gapPredecessor (pr : PipelineRun) (reverse : List TaskRun) (tr : TaskRun) : String × Int :=
  let fallback := match reverse.getLast? with
    | some first => (taskRef first.labels, completedAt first)
    | none => (pipelineRunPipelineRef pr, pr.creationTimestamp)
  match reverse.find? (fun tr2 => tr2.name != tr.name && !decide (tr.creationTimestamp < completedAt tr2)) with
  | some tr2 => (taskRef tr2.labels, completedAt tr2)
  | none => fallback

/-- A TaskRun created before the first one completed is parallel to it. -/
def parallelTo (firstKid tr : TaskRun) : Bool :=
  match firstKid.status.completionTime with
  | some completion => decide (tr.creationTimestamp < completion)
  | none => false

/-- The loop body for every index after the first. -/
def laterGapEntry (pr : PipelineRun) (status : String) (firstKid : TaskRun)
    (reverse : List TaskRun) (tr : TaskRun) : GapEntry :=
  let prRef := pipelineRunPipelineRef pr
  if parallelTo firstKid tr then
    ⟨status, prRef, prRef, taskRef tr.labels, tr.creationTimestamp - pr.creationTimestamp⟩
  else
    let (completedID, timeToCalculateWith) := gapPredecessor pr reverse tr
    ⟨status, prRef, completedID, taskRef tr.labels, tr.creationTimestamp - timeToCalculateWith⟩

/-- The loop skips every index when the PipelineRun's Succeeded condition is nil
or unknown, and index `0` is the first element. -/
def calculateGaps (pr : PipelineRun) (sorted reverse : List TaskRun) : List GapEntry :=
  let succeedCondition := getCondition pr.status.conditions conditionSucceeded
  if isUnknown succeedCondition then []
  else
    let status := if isFalse succeedCondition then failed else succeeded
    let prRef := pipelineRunPipelineRef pr
    match sorted with
    | [] => []
    | firstKid :: rest =>
      ⟨status, prRef, prRef, taskRef firstKid.labels,
          firstKid.creationTimestamp - pr.creationTimestamp⟩ ::
        rest.map (laterGapEntry pr status firstKid reverse)

def defaultThreshold : Int := 300000

/-- `threshold` is `FILTER_THRESHOLD` when it is set and parses; a fractional
threshold acts on whole milliseconds as its ceiling. -/
def filter (threshold : Option Int) (numerator denominator : Int) : Bool :=
  decide (numerator > 0) && decide (denominator < threshold.getD defaultThreshold)

structure Gaps where
  gapTotal : Int
  gapEntries : List GapEntry
  foundGaps : Bool

def accumulateGaps (store : TaskRunStore) (pr : PipelineRun) : Gaps :=
  if skipPipelineRun pr then ⟨0, [], false⟩
  else
    let sorted := sortTaskRunsForGapCalculations store pr
    if sorted.abort then ⟨0, [], false⟩
    else
      let gapEntries := calculateGaps pr sorted.sortedTaskRunsByCreateTimes
        sorted.reverseOrderSortedTaskRunsByCompletionTimes
      ⟨gapEntries.foldl (fun gapTotal gapEntry => gapTotal + gapEntry.gap) 0, gapEntries, !sorted.abort⟩

end PipelineServiceExporter.Collector
