import Mathlib

/-! The objects the collector reads: Tekton PipelineRuns and TaskRuns as the
controller-runtime client returns them, knative's condition accessors, and the
client itself. A timestamp is an `Int` of milliseconds since Go's zero time, so
`IsZero` is `0`; Kubernetes timestamps have second precision. Go's
`Sub(..).Milliseconds()` saturates at the bounds of a `time.Duration`, about 292
years. The model subtracts exactly, which is what Go computes for timestamps
within that bound of each other, as the ones a cluster sets are; it leaves out an
unset timestamp subtracted from a set one. -/

namespace PipelineServiceExporter.Collector

/-- The largest `time.Duration`, `1<<63 - 1` nanoseconds, in whole milliseconds. -/
def maxDurationMilliseconds : Int := 9223372036854

/-- Go's `t.Sub(u).Milliseconds()`: `Sub` saturates at the bounds of a
`time.Duration`, and `Milliseconds` truncates toward zero. -/
def subMilliseconds (t u : Int) : Int := max (-maxDurationMilliseconds) (min maxDurationMilliseconds (t - u))

/-- Timestamps within one `time.Duration` of each other subtract exactly. -/
theorem subMilliseconds_of_within {t u : Int} (within : |t - u| ≤ maxDurationMilliseconds) :
    subMilliseconds t u = t - u := by
  rw [abs_le] at within
  unfold subMilliseconds
  omega

inductive ConditionStatus where
  | conditionTrue
  | conditionFalse
  | conditionUnknown
  deriving DecidableEq, Repr

structure Condition where
  type : String
  status : ConditionStatus
  reason : String := ""
  lastTransitionTime : Int := 0
  deriving DecidableEq, Repr

def conditionSucceeded : String := "Succeeded"

/-- knative's `GetCondition`: the first condition of that type, if any. -/
def getCondition (conditions : List Condition) (type : String) : Option Condition :=
  conditions.find? (·.type == type)

/-! knative's accessors accept a nil condition: it is unknown, and neither true
nor false. -/

def isUnknown : Option Condition → Bool
  | none => true
  | some condition => condition.status == .conditionUnknown

def isFalse : Option Condition → Bool
  | none => false
  | some condition => condition.status == .conditionFalse

/-- Tekton's `IsDone` for both kinds of run. -/
def isDone (conditions : List Condition) : Bool :=
  !isUnknown (getCondition conditions conditionSucceeded)

abbrev Labels := List (String × String)

def Labels.get? (labels : Labels) (key : String) : Option String := labels.lookup key

/-- Setting a key shadows any earlier value, as assignment into a Go map does. -/
def Labels.set (labels : Labels) (key value : String) : Labels := (key, value) :: labels

@[simp] theorem Labels.get?_set_self (labels : Labels) (key value : String) :
    (labels.set key value).get? key = some value := by
  simp [Labels.get?, Labels.set, List.lookup]

@[simp] theorem Labels.get?_set_ne (labels : Labels) {key other : String} (value : String)
    (different : other ≠ key) : (labels.set key value).get? other = labels.get? other := by
  have unequal : (other == key) = false := by simpa using different
  simp [Labels.get?, Labels.set, List.lookup, unequal]

structure TaskRef where
  name : String := ""
  deriving DecidableEq, Repr

structure TaskRunSpec where
  taskRef : Option TaskRef := none
  deriving DecidableEq, Repr

structure TaskRunStatus where
  conditions : List Condition := []
  completionTime : Option Int := none
  deriving DecidableEq, Repr

/-- The default value is Go's empty `v1.TaskRun{}`. -/
structure TaskRun where
  name : String := ""
  «namespace» : String := ""
  creationTimestamp : Int := 0
  labels : Labels := []
  spec : TaskRunSpec := {}
  status : TaskRunStatus := {}
  deriving DecidableEq, Repr

instance : Inhabited TaskRun := ⟨{}⟩

structure Param where
  name : String
  value : String
  deriving DecidableEq, Repr

structure PipelineRef where
  name : String := ""
  params : List Param := []
  deriving DecidableEq, Repr

structure PipelineRunSpec where
  pipelineRef : Option PipelineRef := none
  deriving DecidableEq, Repr

structure ChildStatusReference where
  kind : String
  name : String
  deriving DecidableEq, Repr

structure PipelineRunStatus where
  conditions : List Condition := []
  startTime : Option Int := none
  completionTime : Option Int := none
  childReferences : List ChildStatusReference := []
  deriving DecidableEq, Repr

structure PipelineRun where
  name : String := ""
  «namespace» : String := ""
  generateName : String := ""
  creationTimestamp : Int := 0
  labels : Labels := []
  spec : PipelineRunSpec := {}
  status : PipelineRunStatus := {}
  deriving DecidableEq, Repr

def PipelineRun.isDone (pr : PipelineRun) : Bool := Collector.isDone pr.status.conditions

def TaskRun.isDone (tr : TaskRun) : Bool := Collector.isDone tr.status.conditions

def throttledLabel : String := "pipelineservice.appstudio.io/throttled"

/-- The client distinguishes NotFound from every other failure. -/
inductive ApiError where
  | notFound
  | other (reason : String)
  deriving DecidableEq, Repr

def ApiError.isNotFound : ApiError → Bool
  | notFound => true
  | other _ => false

/-- TaskRuns as a client reads them from the PipelineRun's namespace: a Get by
name that succeeds returns the TaskRun of that name. -/
structure TaskRunStore where
  get : String → Except ApiError TaskRun
  named : ∀ name taskRun, get name = .ok taskRun → taskRun.name = name

/-- A store holding the given TaskRuns, where a Get of a name that `failing`
maps to an error fails with it. -/
def TaskRunStore.ofList (taskRuns : List TaskRun) (failing : String → Option ApiError) :
    TaskRunStore where
  get name := match failing name, taskRuns.find? (·.name == name) with
    | some error, _ => .error error
    | none, some taskRun => .ok taskRun
    | none, none => .error .notFound
  named name taskRun found := by
    simp only at found
    split at found
    · cases found
    · rename_i present
      cases found
      simpa using List.find?_some present
    · cases found

/-- What one reconcile reads and how the API server answers its label patch. -/
structure Client where
  pipelineRun : Except ApiError PipelineRun
  taskRuns : TaskRunStore
  patch : Option ApiError

end PipelineServiceExporter.Collector
