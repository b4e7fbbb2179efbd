import PipelineServiceExporter.Proofs.GapTimeline

/-! How far the reconstructed timeline depends on the order of a PipelineRun's
child references. Sorting fixes every TaskRun's position up to ties in creation
time, and a gap reads its ordering only through the first-created TaskRun: so
the gaps are the same for every order exactly when that TaskRun is unique. -/

namespace PipelineServiceExporter.Proofs.GapOrder
open Collector GapTimeline
open scoped List

/-- What one child reference contributes to the fetched TaskRuns. -/
def fetchOne (store : TaskRunStore) (kidRef : ChildStatusReference) : Option (List TaskRun) :=
  if kidRef.kind != "TaskRun" then some []
  else match store.get kidRef.name with
    | .error _ => none
    | .ok kid => some [kid]

theorem fetchTaskRuns_cons (store : TaskRunStore) (kidRef : ChildStatusReference)
    (kidRefs : List ChildStatusReference) :
    fetchTaskRuns store (kidRef :: kidRefs) =
      (fetchOne store kidRef).bind fun kid => (fetchTaskRuns store kidRefs).map (kid ++ ·) := by
  by_cases kind : kidRef.kind = "TaskRun"
  · cases fetched : store.get kidRef.name <;> simp [fetchTaskRuns, fetchOne, kind, fetched]
  · simp [fetchTaskRuns, fetchOne, kind]

theorem rel_perm_trans {a b c : Option (List TaskRun)} (first : Option.Rel List.Perm a b)
    (second : Option.Rel List.Perm b c) : Option.Rel List.Perm a c := by
  cases first with
  | none => exact second
  | some p => cases second with | some q => exact .some (p.trans q)

theorem rel_perm_map_append {a b : Option (List TaskRun)} (kid : List TaskRun)
    (rel : Option.Rel List.Perm a b) : Option.Rel List.Perm (a.map (kid ++ ·)) (b.map (kid ++ ·)) := by
  cases rel with
  | none => exact .none
  | some p => exact .some (p.append_left kid)

theorem fetchTaskRuns_perm (store : TaskRunStore) {refs refs' : List ChildStatusReference}
    (perm : refs ~ refs') :
    Option.Rel List.Perm (fetchTaskRuns store refs) (fetchTaskRuns store refs') := by
  induction perm with
  | nil => exact .some (.refl _)
  | cons kidRef _ ih =>
    rw [fetchTaskRuns_cons, fetchTaskRuns_cons]
    cases fetchOne store kidRef with
    | none => exact .none
    | some kid => exact rel_perm_map_append kid ih
  | swap a b rest =>
    simp only [fetchTaskRuns_cons]
    cases fetchOne store a <;> cases fetchOne store b <;> cases fetchTaskRuns store rest <;>
      try exact .none
    exact .some (by simpa only [List.append_assoc] using List.perm_append_comm.append_right _)
  | trans _ _ first second => exact rel_perm_trans first second

theorem completions_eq_of_perm {reverse reverse' : List TaskRun} (perm : reverse ~ reverse')
    (sorted : reverse.Sorted completedNoEarlier) (sorted' : reverse'.Sorted completedNoEarlier)
    (keep : TaskRun → Bool) :
    (reverse.filter keep).map completedAt = (reverse'.filter keep).map completedAt := by
  have descending {l : List TaskRun} (s : l.Sorted completedNoEarlier) :
      ((l.filter keep).map completedAt).Sorted (· ≥ ·) :=
    (s.filter keep).map _ fun _ _ later => later
  exact List.eq_of_perm_of_sorted ((perm.filter keep).map _) (descending sorted) (descending sorted')

theorem referenceTime_eq_of_perm (pr : PipelineRun) (firstKid tr : TaskRun) {reverse reverse' : List TaskRun}
    (perm : reverse ~ reverse') (sorted : reverse.Sorted completedNoEarlier)
    (sorted' : reverse'.Sorted completedNoEarlier) :
    referenceTime pr firstKid reverse tr = referenceTime pr firstKid reverse' tr := by
  simp only [referenceTime, gapPredecessor_time, completions_eq_of_perm perm sorted sorted']

/-- At most one of the TaskRuns is created first. -/
def EarliestUnique (kids : List TaskRun) : Prop :=
  ∀ a ∈ kids, ∀ b ∈ kids, (∀ c ∈ kids, createdNoLater a c) → (∀ c ∈ kids, createdNoLater b c) → a = b

instance (kids : List TaskRun) : Decidable (EarliestUnique kids) := by
  unfold EarliestUnique; infer_instance

theorem head_earliest {firstKid : TaskRun} {rest : List TaskRun}
    (sorted : (firstKid :: rest).Sorted createdNoLater) :
    ∀ c ∈ firstKid :: rest, createdNoLater firstKid c := by
  rintro c (_ | ⟨_, later⟩)
  · exact le_rfl
  · exact List.rel_of_sorted_cons sorted c later

theorem gaps_perm {pr : PipelineRun} (finished : isUnknown (getCondition pr.status.conditions conditionSucceeded) = false)
    {firstKid : TaskRun} {rest rest' reverse reverse' : List TaskRun} (tails : rest ~ rest')
    (perm : reverse ~ reverse') (sorted : reverse.Sorted completedNoEarlier)
    (sorted' : reverse'.Sorted completedNoEarlier) :
    (calculateGaps pr (firstKid :: rest) reverse).map (·.gap) ~
      (calculateGaps pr (firstKid :: rest') reverse').map (·.gap) := by
  rw [calculateGaps_gaps finished, calculateGaps_gaps finished]
  refine List.Perm.cons _ ?_
  simp only [referenceTime_eq_of_perm pr firstKid _ perm sorted sorted']
  exact tails.map _

theorem gapTotal_eq_sum (start : Int) (gapEntries : List GapEntry) :
    gapEntries.foldl (fun gapTotal gapEntry => gapTotal + gapEntry.gap) start =
      start + (gapEntries.map (·.gap)).sum := by
  induction gapEntries generalizing start with
  | nil => simp
  | cons gapEntry gapEntries ih => simp [ih, Int.add_assoc]

theorem sorted_heads_eq {kids kids' : List TaskRun} (perm : kids' ~ kids) (unique : EarliestUnique kids)
    {firstKid firstKid' : TaskRun} {rest rest' : List TaskRun}
    (sorted : kids.insertionSort createdNoLater = firstKid :: rest)
    (sorted' : kids'.insertionSort createdNoLater = firstKid' :: rest') :
    firstKid' = firstKid ∧ rest' ~ rest := by
  have whole : firstKid :: rest ~ kids := sorted ▸ List.perm_insertionSort _ kids
  have whole' : firstKid' :: rest' ~ kids := (sorted' ▸ List.perm_insertionSort _ kids').trans perm
  have earliest := head_earliest (sorted ▸ List.sorted_insertionSort createdNoLater kids)
  have earliest' := head_earliest (sorted' ▸ List.sorted_insertionSort createdNoLater kids')
  have same : firstKid' = firstKid :=
    unique _ (whole'.subset (.head _)) _ (whole.subset (.head _))
      (fun c member => earliest' c (whole'.symm.subset member))
      (fun c member => earliest c (whole.symm.subset member))
  subst same
  exact ⟨rfl, (whole'.trans whole.symm).cons_inv⟩

theorem accumulateGaps_gapTotal (store : TaskRunStore) (pr : PipelineRun) :
    (accumulateGaps store pr).gapTotal = ((accumulateGaps store pr).gapEntries.map (·.gap)).sum := by
  unfold accumulateGaps
  split
  · rfl
  · dsimp only
    split
    · rfl
    · simp [gapTotal_eq_sum]

/-- The PipelineRun with its child references listed as `refs`. -/
def withChildReferences (pr : PipelineRun) (refs : List ChildStatusReference) : PipelineRun :=
  { pr with status := { pr.status with childReferences := refs } }

theorem rel_perm_cases {a b : Option (List TaskRun)} (rel : Option.Rel List.Perm a b) :
    (a = none ∧ b = none) ∨ ∃ kids' kids, a = some kids' ∧ b = some kids ∧ kids' ~ kids := by
  cases rel with
  | none => exact .inl ⟨rfl, rfl⟩
  | some p => exact .inr ⟨_, _, rfl, rfl, p⟩

theorem calculateGaps_of_perm (pr : PipelineRun) {kids kids' : List TaskRun} (kidsPerm : kids' ~ kids)
    (unique : EarliestUnique kids) :
    (calculateGaps pr (kids'.insertionSort createdNoLater)
        ((kids'.filter (·.status.completionTime.isSome)).insertionSort completedNoEarlier)).map (·.gap) ~
      (calculateGaps pr (kids.insertionSort createdNoLater)
        ((kids.filter (·.status.completionTime.isSome)).insertionSort completedNoEarlier)).map (·.gap) := by
  cases finished : isUnknown (getCondition pr.status.conditions conditionSucceeded)
  · have lengths : (kids'.insertionSort createdNoLater).length = (kids.insertionSort createdNoLater).length := by
      simp [List.length_insertionSort, kidsPerm.length_eq]
    have completed := ((List.perm_insertionSort completedNoEarlier _).trans
      (kidsPerm.filter (·.status.completionTime.isSome))).trans (List.perm_insertionSort completedNoEarlier _).symm
    cases sorted' : kids'.insertionSort createdNoLater with
    | nil =>
      cases sorted : kids.insertionSort createdNoLater with
      | nil => simp [calculateGaps]
      | cons => simp [sorted, sorted'] at lengths
    | cons firstKid' rest' =>
      cases sorted : kids.insertionSort createdNoLater with
      | nil => simp [sorted, sorted'] at lengths
      | cons firstKid rest =>
        obtain ⟨rfl, tails⟩ := sorted_heads_eq kidsPerm unique sorted sorted'
        exact gaps_perm finished tails completed (List.sorted_insertionSort _ _) (List.sorted_insertionSort _ _)
  · simp [calculateGaps, finished]

/-- The gap values of a reordering are a permutation of the original ones when
one TaskRun is created before all others. -/
theorem gapEntries_reorder (store : TaskRunStore) (pr : PipelineRun) (refs : List ChildStatusReference)
    (perm : refs ~ pr.status.childReferences)
    (unique : ∀ kids, fetchTaskRuns store pr.status.childReferences = some kids → EarliestUnique kids) :
    (accumulateGaps store (withChildReferences pr refs)).gapEntries.map (·.gap) ~
      (accumulateGaps store pr).gapEntries.map (·.gap) := by
  have skip : skipPipelineRun (withChildReferences pr refs) = skipPipelineRun pr := by
    simp [skipPipelineRun, withChildReferences, perm.length_eq]
  unfold accumulateGaps
  rw [skip]
  split
  · exact .refl _
  rcases rel_perm_cases (fetchTaskRuns_perm store perm) with ⟨failed', failed⟩ |
    ⟨kids', kids, fetched', fetched, kidsPerm⟩
  · have failed'' : fetchTaskRuns store (withChildReferences pr refs).status.childReferences = none := failed'
    simp [sortTaskRuns_of_failed failed, sortTaskRuns_of_failed failed'']
  · have fetched'' : fetchTaskRuns store (withChildReferences pr refs).status.childReferences = some kids' :=
      fetched'
    simp only [sortTaskRuns_of_fetched fetched, sortTaskRuns_of_fetched fetched'',
      Bool.false_eq_true, ite_false]
    exact calculateGaps_of_perm pr kidsPerm (unique kids fetched)

/-- When one TaskRun is created before all the others, listing a PipelineRun's
child references in any other order gives the same gap total and the same gap
values. -/
theorem accumulateGaps_reorder (store : TaskRunStore) (pr : PipelineRun) (refs : List ChildStatusReference)
    (perm : refs ~ pr.status.childReferences)
    (unique : ∀ kids, fetchTaskRuns store pr.status.childReferences = some kids → EarliestUnique kids) :
    (accumulateGaps store (withChildReferences pr refs)).gapTotal = (accumulateGaps store pr).gapTotal ∧
      (accumulateGaps store (withChildReferences pr refs)).gapEntries.map (·.gap) ~
        (accumulateGaps store pr).gapEntries.map (·.gap) := by
  have gaps := gapEntries_reorder store pr refs perm unique
  exact ⟨by rw [accumulateGaps_gapTotal, accumulateGaps_gapTotal, gaps.sum_eq], gaps⟩

theorem accumulateGaps_reorder_distinct_creations :
    let build : PipelineRun :=
      { name := "build", creationTimestamp := 1000
        status := { conditions := [{ type := "Succeeded", status := .conditionTrue }]
                    startTime := some 1000, completionTime := some 400000
                    childReferences := [⟨"TaskRun", "x"⟩, ⟨"TaskRun", "y"⟩] } }
    let store := TaskRunStore.ofList
      [{ name := "x", creationTimestamp := 11000, status := { completionTime := some 101000 } },
       { name := "y", creationTimestamp := 21000, status := { completionTime := some 31000 } }] fun _ => none
    let swapped := [⟨"TaskRun", "y"⟩, ⟨"TaskRun", "x"⟩]
    swapped ~ build.status.childReferences ∧
      (∀ kids, fetchTaskRuns store build.status.childReferences = some kids → EarliestUnique kids) ∧
      (accumulateGaps store (withChildReferences build swapped)).gapTotal = (accumulateGaps store build).gapTotal ∧
      (accumulateGaps store (withChildReferences build swapped)).gapEntries.map (·.gap) ~
        (accumulateGaps store build).gapEntries.map (·.gap) := by
  intro build store swapped
  have unique : ∀ kids, fetchTaskRuns store build.status.childReferences = some kids → EarliestUnique kids := by
    intro kids fetched
    cases Option.some.inj fetched
    decide
  exact ⟨by decide, unique, accumulateGaps_reorder store build swapped (by decide) unique⟩

/-- Two TaskRuns created in the same second: whichever is listed first is taken
as the first TaskRun, and a third one then counts as parallel or not. -/
theorem gapTotal_depends_on_tied_reference_order :
    let build : PipelineRun :=
      { name := "build", creationTimestamp := 1000
        status := { conditions := [{ type := "Succeeded", status := .conditionTrue }]
                    startTime := some 1000, completionTime := some 400000
                    childReferences := [⟨"TaskRun", "x"⟩, ⟨"TaskRun", "y"⟩, ⟨"TaskRun", "z"⟩] } }
    let store := TaskRunStore.ofList
      [{ name := "x", creationTimestamp := 11000, status := { completionTime := some 101000 } },
       { name := "y", creationTimestamp := 11000, status := { completionTime := some 31000 } },
       { name := "z", creationTimestamp := 41000, status := { completionTime := some 51000 } }] fun _ => none
    let swapped := [⟨"TaskRun", "y"⟩, ⟨"TaskRun", "x"⟩, ⟨"TaskRun", "z"⟩]
    swapped ~ build.status.childReferences ∧
      (accumulateGaps store build).gapTotal = 60000 ∧
      (accumulateGaps store (withChildReferences build swapped)).gapTotal = 30000 := by
  decide

end PipelineServiceExporter.Proofs.GapOrder
