import PipelineServiceExporter.Collector.Gaps

/-! What the timeline reconstructor measures each gap from. The first TaskRun
is measured from the PipelineRun, so is every TaskRun created before the first
one completed; any other from the latest completion no later than its creation,
and when there is none, from whatever completed first. -/

namespace PipelineServiceExporter.Proofs.GapTimeline
open Collector

instance : IsTotal TaskRun createdNoLater := ⟨fun a b => le_total a.creationTimestamp b.creationTimestamp⟩
instance : IsTrans TaskRun createdNoLater := ⟨fun _ _ _ => le_trans⟩
instance : IsTotal TaskRun completedNoEarlier := ⟨fun a b => le_total (completedAt b) (completedAt a)⟩
instance : IsTrans TaskRun completedNoEarlier := ⟨fun _ _ _ first second => le_trans second first⟩

theorem sortTaskRuns_of_fetched {store : TaskRunStore} {pr : PipelineRun} {kids : List TaskRun}
    (fetched : fetchTaskRuns store pr.status.childReferences = some kids) :
    sortTaskRunsForGapCalculations store pr =
      ⟨kids.insertionSort createdNoLater,
        (kids.filter (·.status.completionTime.isSome)).insertionSort completedNoEarlier, false⟩ := by
  simp [sortTaskRunsForGapCalculations, fetched]

theorem sortTaskRuns_of_failed {store : TaskRunStore} {pr : PipelineRun}
    (failed : fetchTaskRuns store pr.status.childReferences = none) :
    sortTaskRunsForGapCalculations store pr = ⟨[], [], true⟩ := by
  simp [sortTaskRunsForGapCalculations, failed]

/-- The time a TaskRun after the first is measured from. -/
def referenceTime (pr : PipelineRun) (firstKid : TaskRun) (reverse : List TaskRun) (tr : TaskRun) : Int :=
  if parallelTo firstKid tr then pr.creationTimestamp else (gapPredecessor pr reverse tr).2

/-- Whether a completed TaskRun may precede `tr`. -/
def candidate (tr tr2 : TaskRun) : Bool :=
  tr2.name != tr.name && !decide (tr.creationTimestamp < completedAt tr2)

theorem laterGapEntry_gap (pr : PipelineRun) (status : String) (firstKid : TaskRun)
    (reverse : List TaskRun) (tr : TaskRun) :
    (laterGapEntry pr status firstKid reverse tr).gap =
      tr.creationTimestamp - referenceTime pr firstKid reverse tr := by
  unfold laterGapEntry referenceTime
  split <;> rfl

theorem calculateGaps_gaps {pr : PipelineRun} (finished : isUnknown (getCondition pr.status.conditions conditionSucceeded) = false)
    (firstKid : TaskRun) (rest reverse : List TaskRun) :
    (calculateGaps pr (firstKid :: rest) reverse).map (·.gap) =
      (firstKid.creationTimestamp - pr.creationTimestamp) ::
        rest.map fun tr => tr.creationTimestamp - referenceTime pr firstKid reverse tr := by
  simp [calculateGaps, finished, Function.comp_def, laterGapEntry_gap]

theorem gapPredecessor_time_eq (pr : PipelineRun) (reverse : List TaskRun) (tr : TaskRun) :
    (gapPredecessor pr reverse tr).2 =
      ((reverse.find? (candidate tr)).map completedAt).getD
        ((reverse.getLast?.map completedAt).getD pr.creationTimestamp) := by
  unfold gapPredecessor
  rw [show (fun tr2 : TaskRun => tr2.name != tr.name && !decide (tr.creationTimestamp < completedAt tr2)) =
    candidate tr from rfl]
  cases reverse.find? (candidate tr) <;> cases reverse.getLast? <;> rfl

/-- The predecessor's time, read off the completions of the candidates and of
all completed TaskRuns. -/
theorem gapPredecessor_time (pr : PipelineRun) (reverse : List TaskRun) (tr : TaskRun) :
    (gapPredecessor pr reverse tr).2 =
      (((reverse.filter (candidate tr)).map completedAt).head?).getD
        ((((reverse.filter fun _ => true).map completedAt).getLast?).getD pr.creationTimestamp) := by
  rw [List.filter_true, List.head?_map, List.filter_head?, List.getLast?_map, gapPredecessor_time_eq]

/-- Scanning completions in descending order, the first candidate is the latest. -/
theorem gapPredecessor_isGreatest {pr : PipelineRun} {reverse : List TaskRun}
    (sorted : reverse.Sorted completedNoEarlier) {tr tr2 : TaskRun} (member : tr2 ∈ reverse)
    (eligible : candidate tr tr2 = true) :
    IsGreatest {t | ∃ x ∈ reverse, candidate tr x = true ∧ completedAt x = t}
      (gapPredecessor pr reverse tr).2 := by
  obtain ⟨found, first⟩ := Option.isSome_iff_exists.mp
    (List.find?_isSome.mpr ⟨tr2, member, eligible⟩)
  obtain ⟨chosen, before, after, split, skipped⟩ := List.find?_eq_some.mp first
  have value : (gapPredecessor pr reverse tr).2 = completedAt found := by
    rw [gapPredecessor_time_eq, first]
    rfl
  refine ⟨⟨found, List.mem_of_find?_eq_some first, chosen, value.symm⟩, ?_⟩
  rintro _ ⟨x, inside, other, rfl⟩
  rw [value]
  rw [split] at inside sorted
  rcases List.mem_append.mp inside with earlier | later
  · exact absurd other (by simpa using skipped x earlier)
  · rcases List.mem_cons.mp later with rfl | later
    · exact le_rfl
    · exact List.rel_of_pairwise_cons (List.pairwise_append.mp sorted).2.1 later

theorem gapPredecessor_isGreatest_three_completions :
    let completed (name : String) (created completion : Int) : TaskRun :=
      { name, creationTimestamp := created, status := { completionTime := some completion } }
    let reverse := [completed "c" 30000 90000, completed "b" 20000 50000, completed "a" 10000 40000]
    let tr := completed "d" 60000 70000
    reverse.Sorted completedNoEarlier ∧ completed "a" 10000 40000 ∈ reverse ∧
      candidate tr (completed "a" 10000 40000) = true ∧
      IsGreatest {t | ∃ x ∈ reverse, candidate tr x = true ∧ completedAt x = t}
        (gapPredecessor {} reverse tr).2 := by
  intro completed reverse tr
  have member : completed "a" 10000 40000 ∈ reverse := by simp [reverse]
  exact ⟨by decide, member, by decide,
    @gapPredecessor_isGreatest {} reverse (by decide) tr (completed "a" 10000 40000) member (by decide)⟩

/-- The first TaskRun never completed and the second is the only one that did:
the second is measured from its own completion, ten seconds after it was created,
where the spec measures it from the PipelineRun's creation. -/
theorem gap_measured_from_own_completion :
    let build : PipelineRun :=
      { name := "build", creationTimestamp := 1000
        status := { conditions := [{ type := "Succeeded", status := .conditionTrue }]
                    startTime := some 1000, completionTime := some 400000
                    childReferences := [⟨"TaskRun", "a"⟩, ⟨"TaskRun", "b"⟩] } }
    let store := TaskRunStore.ofList
      [{ name := "a", creationTimestamp := 1000 },
       { name := "b", creationTimestamp := 11000, status := { completionTime := some 21000 } }] fun _ => none
    let sorted := sortTaskRunsForGapCalculations store build
    sorted.sortedTaskRunsByCreateTimes.map (·.name) = ["a", "b"] ∧
      sorted.reverseOrderSortedTaskRunsByCompletionTimes.map (·.name) = ["b"] ∧
      (calculateGaps build sorted.sortedTaskRunsByCreateTimes
        sorted.reverseOrderSortedTaskRunsByCompletionTimes).map (·.gap) = [0, -10000] := by
  decide

end PipelineServiceExporter.Proofs.GapTimeline
