import PipelineServiceExporter.Collector.Overhead

/-! The throttle detector scans child references in order and stops at the
first TaskRun that waits on resources or whose Get fails with anything but
NotFound. A missing TaskRun is read as the empty one, which is not throttled. -/

namespace PipelineServiceExporter.Proofs.ThrottleScan
open Collector

/-- A TaskRun the spec calls throttled: its Succeeded condition is unknown for
lack of quota or of node capacity. -/
def WaitsOnResources (kid : TaskRun) : Prop :=
  ∃ condition, getCondition kid.status.conditions conditionSucceeded = some condition ∧
    condition.status = .conditionUnknown ∧
    (condition.reason = reasonExceededResourceQuota ∨ condition.reason = reasonExceededNodeResources)

theorem isTaskRunThrottled_iff (kid : TaskRun) : isTaskRunThrottled kid = true ↔ WaitsOnResources kid := by
  unfold isTaskRunThrottled WaitsOnResources
  split <;> simp_all

theorem isTaskRunThrottled_default : isTaskRunThrottled default = false := rfl

/-- An entry the scan moves past. -/
def Passes (store : TaskRunStore) (kidRef : ChildStatusReference) : Prop :=
  kidRef.kind ≠ "TaskRun" ∨ store.get kidRef.name = .error .notFound ∨
    ∃ kid, store.get kidRef.name = .ok kid ∧ ¬ WaitsOnResources kid

/-- An entry where the scan stops with a throttled TaskRun of that name. -/
def StopsThrottled (store : TaskRunStore) (kidRef : ChildStatusReference) : Prop :=
  kidRef.kind = "TaskRun" ∧ ∃ kid, store.get kidRef.name = .ok kid ∧ WaitsOnResources kid

/-- An entry where the scan stops with the error of its Get. -/
def StopsFailing (store : TaskRunStore) (kidRef : ChildStatusReference) (err : ApiError) : Prop :=
  kidRef.kind = "TaskRun" ∧ store.get kidRef.name = .error err ∧ err ≠ .notFound

variable {store : TaskRunStore} {kidRef : ChildStatusReference} {rest : List ChildStatusReference}

theorem entry_cases (store : TaskRunStore) (kidRef : ChildStatusReference) :
    Passes store kidRef ∨ StopsThrottled store kidRef ∨ ∃ err, StopsFailing store kidRef err := by
  by_cases kind : kidRef.kind = "TaskRun"
  · rcases fetched : store.get kidRef.name with err | kid
    · by_cases missing : err = .notFound
      · exact .inl (.inr (.inl (missing ▸ fetched)))
      · exact .inr (.inr ⟨err, kind, fetched, missing⟩)
    · by_cases waits : WaitsOnResources kid
      · exact .inr (.inl ⟨kind, kid, fetched, waits⟩)
      · exact .inl (.inr (.inr ⟨kid, fetched, waits⟩))
  · exact .inl (.inl kind)

theorem scan_passes (passes : Passes store kidRef) :
    scanForThrottledTaskRun store (kidRef :: rest) = scanForThrottledTaskRun store rest := by
  rcases passes with kind | missing | ⟨kid, fetched, waits⟩
  · simp [scanForThrottledTaskRun, kind]
  · by_cases kind : kidRef.kind = "TaskRun"
    · simp [scanForThrottledTaskRun, kind, missing, getInto, ApiError.isNotFound, isTaskRunThrottled_default]
    · simp [scanForThrottledTaskRun, kind]
  · rw [← isTaskRunThrottled_iff, Bool.not_eq_true] at waits
    by_cases kind : kidRef.kind = "TaskRun"
    · simp [scanForThrottledTaskRun, kind, fetched, getInto, waits]
    · simp [scanForThrottledTaskRun, kind]

theorem scan_throttled (stops : StopsThrottled store kidRef) :
    scanForThrottledTaskRun store (kidRef :: rest) = (true, kidRef.name, none) := by
  obtain ⟨kind, kid, fetched, waits⟩ := stops
  rw [← isTaskRunThrottled_iff] at waits
  simp [scanForThrottledTaskRun, kind, fetched, getInto, waits, store.named _ _ fetched]

theorem scan_failing {err : ApiError} (stops : StopsFailing store kidRef err) :
    scanForThrottledTaskRun store (kidRef :: rest) = (false, "", some err) := by
  obtain ⟨kind, fetched, other⟩ := stops
  cases err with
  | notFound => exact absurd rfl other
  | other reason => simp [scanForThrottledTaskRun, kind, fetched, getInto, ApiError.isNotFound]

theorem scan_append (pre rest : List ChildStatusReference) (passes : ∀ r ∈ pre, Passes store r) :
    scanForThrottledTaskRun store (pre ++ rest) = scanForThrottledTaskRun store rest := by
  induction pre with
  | nil => rfl
  | cons r pre ih =>
    rw [List.cons_append, scan_passes (passes r (.head _))]
    exact ih fun r' member => passes r' (.tail _ member)

/-- Every run of the scan ends in one of its three ways. -/
theorem scan_outcome (store : TaskRunStore) (refs : List ChildStatusReference) :
    (∃ pre kidRef post, refs = pre ++ kidRef :: post ∧ (∀ r ∈ pre, Passes store r) ∧
        StopsThrottled store kidRef ∧
        scanForThrottledTaskRun store refs = (true, kidRef.name, none)) ∨
      (∃ pre kidRef post err, refs = pre ++ kidRef :: post ∧ (∀ r ∈ pre, Passes store r) ∧
        StopsFailing store kidRef err ∧ scanForThrottledTaskRun store refs = (false, "", some err)) ∨
      ((∀ r ∈ refs, Passes store r) ∧ scanForThrottledTaskRun store refs = (false, "", none)) := by
  induction refs with
  | nil => exact .inr (.inr ⟨by simp, rfl⟩)
  | cons kidRef rest ih =>
    rcases entry_cases store kidRef with passes | stops | ⟨err, stops⟩
    · rw [scan_passes passes]
      rcases ih with ⟨pre, r, post, split, earlier, stops, result⟩ |
          ⟨pre, r, post, err, split, earlier, stops, result⟩ | ⟨all, result⟩
      · refine .inl ⟨kidRef :: pre, r, post, by simp [split], ?_, stops, result⟩
        simpa using ⟨passes, earlier⟩
      · refine .inr (.inl ⟨kidRef :: pre, r, post, err, by simp [split], ?_, stops, result⟩)
        simpa using ⟨passes, earlier⟩
      · exact .inr (.inr ⟨by simpa using ⟨passes, all⟩, result⟩)
    · exact .inl ⟨[], kidRef, rest, rfl, by simp, stops, scan_throttled stops⟩
    · exact .inr (.inl ⟨[], kidRef, rest, err, rfl, by simp, stops, scan_failing stops⟩)

/-- Scanning `pr`'s TaskRun references in order, the detector reports the first
TaskRun that waits on quota or node capacity, provided every earlier Get
succeeded or found nothing; it returns the error of the first Get that fails
otherwise, before any throttled TaskRun; and it reports nothing when neither
happens. -/
theorem isPipelineRunThrottled_first_match (store : TaskRunStore) (pr : PipelineRun) :
    (∀ c, isPipelineRunThrottled store pr = (true, c, none) ↔
      ∃ pre kidRef post, pr.status.childReferences = pre ++ kidRef :: post ∧
        (∀ r ∈ pre, Passes store r) ∧ kidRef.name = c ∧ kidRef.kind = "TaskRun" ∧
        ∃ kid, store.get c = .ok kid ∧ WaitsOnResources kid) ∧
    (∀ err, isPipelineRunThrottled store pr = (false, "", some err) ↔
      ∃ pre kidRef post, pr.status.childReferences = pre ++ kidRef :: post ∧
        (∀ r ∈ pre, Passes store r) ∧ StopsFailing store kidRef err) ∧
    (isPipelineRunThrottled store pr = (false, "", none) ↔
      ∀ r ∈ pr.status.childReferences, Passes store r) := by
  unfold isPipelineRunThrottled
  have outcome := scan_outcome store pr.status.childReferences
  refine ⟨fun c => ⟨fun found => ?_, ?_⟩, fun err => ⟨fun found => ?_, ?_⟩, ⟨fun found => ?_, fun all => ?_⟩⟩
  · rcases outcome with ⟨pre, k, post, split, earlier, stops, result⟩ | ⟨_, _, _, _, _, _, _, result⟩ |
      ⟨_, result⟩ <;> rw [result] at found <;> cases found
    exact ⟨pre, k, post, split, earlier, rfl, stops⟩
  · rintro ⟨pre, k, post, split, earlier, rfl, stops⟩
    rw [split, scan_append pre _ earlier, scan_throttled stops]
  · rcases outcome with ⟨_, _, _, _, _, _, result⟩ | ⟨pre, k, post, e, split, earlier, stops, result⟩ |
      ⟨_, result⟩ <;> rw [result] at found <;> cases found
    exact ⟨pre, k, post, split, earlier, stops⟩
  · rintro ⟨pre, k, post, split, earlier, stops⟩
    rw [split, scan_append pre _ earlier, scan_failing stops]
  · rcases outcome with ⟨_, _, _, _, _, _, result⟩ | ⟨_, _, _, _, _, _, _, result⟩ |
      ⟨all, _⟩ <;> try (rw [result] at found; cases found)
    exact all
  · simpa using scan_append _ [] all

end PipelineServiceExporter.Proofs.ThrottleScan
