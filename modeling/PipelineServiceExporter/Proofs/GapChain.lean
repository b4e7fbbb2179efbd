import PipelineServiceExporter.Proofs.GapOrder

/-! The reconstructed timeline against the one it approximates. When a
PipelineRun's TaskRuns ran one after another, each created no earlier than the
one before it completed, the reconstructor recovers the true timeline in
whatever order the child references list them: the first gap runs from the
PipelineRun's creation and every other from the completion of the TaskRun
before it, so the gap total is the time from the PipelineRun's creation to the
last completion during which no TaskRun ran. -/

namespace PipelineServiceExporter.Proofs.GapChain
open Collector GapTimeline GapOrder
open scoped List

/-- The true gaps of TaskRuns that ran one after another, the first measured from `since`. -/
def chainGaps (since : Int) : List TaskRun → List Int
  | [] => []
  | kid :: kids => (kid.creationTimestamp - since) :: chainGaps (completedAt kid) kids

/-- The last completion, or `since` when there is none. -/
def lastCompletion (since : Int) : List TaskRun → Int
  | [] => since
  | kid :: kids => lastCompletion (completedAt kid) kids

theorem chainGaps_sum (since : Int) (kids : List TaskRun) :
    (chainGaps since kids).sum + (kids.map fun kid => completedAt kid - kid.creationTimestamp).sum =
      lastCompletion since kids - since := by
  induction kids generalizing since with
  | nil => simp [chainGaps, lastCompletion]
  | cons kid kids ih =>
    have rest := ih (completedAt kid)
    simp only [chainGaps, lastCompletion, List.sum_cons, List.map_cons] at rest ⊢
    omega

/-- TaskRuns that ran one after another: each completed, after it was created,
and no later than the next one was created; no two share a name. -/
structure Sequential (kids : List TaskRun) : Prop where
  completed : ∀ kid ∈ kids, kid.status.completionTime.isSome = true
  ran : ∀ kid ∈ kids, kid.creationTimestamp < completedAt kid
  chained : kids.Chain' fun prev next => completedAt prev ≤ next.creationTimestamp
  named : (kids.map (·.name)).Nodup

variable {pr : PipelineRun} {kids : List TaskRun}

theorem Sequential.pairwise (sequential : Sequential kids) :
    kids.Pairwise fun a b => completedAt a ≤ b.creationTimestamp := by
  obtain ⟨-, ran, chained, -⟩ := sequential
  induction kids with
  | nil => exact .nil
  | cons a rest ih =>
    have tail := ih (fun kid member => ran kid (.tail _ member)) chained.tail
    refine .cons (fun x member => ?_) tail
    cases rest with
    | nil => cases member
    | cons b rest =>
      have link : completedAt a ≤ b.creationTimestamp := (List.chain'_cons.mp chained).1
      rcases List.mem_cons.mp member with rfl | later
      · exact link
      · have := List.rel_of_pairwise_cons tail later
        have := ran b (.tail _ (.head _))
        omega

/-- A list strictly sorted by `lt` is the only ordering of its elements sorted
by a relation `le` that never holds against `lt`. -/
theorem eq_of_perm_of_sorted_strict {α : Type} {lt le : α → α → Prop} (incompatible : ∀ a b, lt a b → le b a → False)
    {l₁ l₂ : List α} (perm : l₁ ~ l₂) (strict : l₁.Sorted lt) (sorted : l₂.Sorted le) : l₁ = l₂ := by
  induction l₁ generalizing l₂ with
  | nil => exact (List.nil_perm.mp perm).symm
  | cons a l₁ ih =>
    cases l₂ with
    | nil => exact absurd perm.length_eq (by simp)
    | cons b l₂ =>
      have same : a = b := by
        rcases List.mem_cons.mp (perm.subset (.head _)) with same | later
        · exact same
        rcases List.mem_cons.mp (perm.symm.subset (.head _)) with same | earlier
        · exact same.symm
        exact (incompatible a b (List.rel_of_sorted_cons strict b earlier)
          (List.rel_of_sorted_cons sorted a later)).elim
      subst same
      rw [ih perm.cons_inv strict.of_cons sorted.of_cons]

theorem insertionSort_created {fetched : List TaskRun} (sequential : Sequential kids) (perm : fetched ~ kids) :
    fetched.insertionSort createdNoLater = kids := by
  have strict : kids.Sorted fun a b => a.creationTimestamp < b.creationTimestamp :=
    sequential.pairwise.imp_of_mem fun {a _} member _ link => lt_of_lt_of_le (sequential.ran a member) link
  exact (@eq_of_perm_of_sorted_strict TaskRun (fun a b => a.creationTimestamp < b.creationTimestamp) createdNoLater
    (fun _ _ before after => not_le.mpr before after) _ _ ((List.perm_insertionSort _ _).trans perm).symm strict
    (List.sorted_insertionSort createdNoLater fetched)).symm

theorem insertionSort_completed {fetched : List TaskRun} (sequential : Sequential kids) (perm : fetched ~ kids) :
    (fetched.filter (·.status.completionTime.isSome)).insertionSort completedNoEarlier = kids.reverse := by
  rw [List.filter_eq_self.mpr fun kid member => sequential.completed kid (perm.subset member)]
  have strict : kids.reverse.Sorted fun a b => completedAt b < completedAt a :=
    List.pairwise_reverse.mpr (sequential.pairwise.imp_of_mem fun {_ b} _ member link =>
      lt_of_le_of_lt link (sequential.ran b member))
  exact (@eq_of_perm_of_sorted_strict TaskRun (fun a b => completedAt b < completedAt a) completedNoEarlier
    (fun _ _ before after => not_le.mpr before after) _ _
    (((List.perm_insertionSort _ _).trans perm).trans (List.reverse_perm kids).symm).symm strict
    (List.sorted_insertionSort completedNoEarlier fetched)).symm

theorem find_candidate {before after : List TaskRun} {prev tr : TaskRun}
    (sequential : Sequential (before ++ prev :: tr :: after)) :
    (before ++ prev :: tr :: after).reverse.find? (candidate tr) = some prev := by
  have ordered := sequential.pairwise
  simp only [List.pairwise_append, List.pairwise_cons, List.mem_cons] at ordered
  obtain ⟨-, ⟨fromPrev, fromTr, -⟩, -⟩ := ordered
  have names := sequential.named
  simp only [List.map_append, List.map_cons, List.nodup_append, List.nodup_cons, List.mem_cons,
    List.mem_map] at names
  obtain ⟨-, ⟨prevUnique, -⟩, -⟩ := names
  have later : ∀ x ∈ after, candidate tr x = false := fun x member => by
    have := fromTr x member
    have := sequential.ran tr (by simp)
    have := sequential.ran x (by simp [member])
    simp [candidate]
    omega
  have none : after.reverse.find? (candidate tr) = none :=
    List.find?_eq_none.mpr fun x member => by simp [later x (List.mem_reverse.mp member)]
  have distinct : prev.name ≠ tr.name := fun same => prevUnique (.inl same)
  have chosen : candidate tr prev = true := by simp [candidate, distinct, fromPrev tr (.inl rfl)]
  have self : candidate tr tr = false := by simp [candidate]
  simp [List.reverse_append, List.find?_append, none, self, chosen]

theorem completionTime_eq {tr : TaskRun} (completed : tr.status.completionTime.isSome = true) :
    tr.status.completionTime = some (completedAt tr) := by
  obtain ⟨time, same⟩ := Option.isSome_iff_exists.mp completed
  simp [completedAt, same]

theorem referenceTime_of_sequential {before after : List TaskRun} {firstKid prev tr : TaskRun}
    (sequential : Sequential (before ++ prev :: tr :: after)) (first : firstKid ∈ before ++ [prev]) :
    referenceTime pr firstKid (before ++ prev :: tr :: after).reverse tr = completedAt prev := by
  have split : before ++ prev :: tr :: after = (before ++ [prev]) ++ tr :: after := by simp
  have member : firstKid ∈ before ++ prev :: tr :: after := split ▸ List.mem_append_left _ first
  have earlier : completedAt firstKid ≤ tr.creationTimestamp :=
    (List.pairwise_append.mp (split ▸ sequential.pairwise)).2.2 firstKid first tr (.head _)
  have sequenced : parallelTo firstKid tr = false := by
    simp [parallelTo, completionTime_eq (sequential.completed firstKid member), earlier]
  rw [referenceTime, if_neg (by simp [sequenced]), gapPredecessor_time_eq, find_candidate sequential]
  rfl

theorem later_gaps {firstKid : TaskRun} (sequential : Sequential kids) :
    ∀ {before after : List TaskRun} {prev : TaskRun}, kids = before ++ prev :: after → firstKid ∈ before ++ [prev] →
      after.map (fun tr => tr.creationTimestamp - referenceTime pr firstKid kids.reverse tr) =
        chainGaps (completedAt prev) after := by
  intro before after
  induction after generalizing before with
  | nil => intro _ _ _; rfl
  | cons tr after ih =>
    intro prev split first
    subst split
    have measured : referenceTime pr firstKid _ tr = completedAt prev := referenceTime_of_sequential sequential first
    simp only [List.map_cons, chainGaps, measured]
    exact congrArg _ (@ih (before ++ [prev]) tr (by simp) (List.mem_append_left _ first))

theorem accumulateGaps_of_fetched {store : TaskRunStore} {fetched : List TaskRun} (counted : skipPipelineRun pr = false)
    (found : fetchTaskRuns store pr.status.childReferences = some fetched) :
    accumulateGaps store pr =
      let gapEntries := calculateGaps pr (fetched.insertionSort createdNoLater)
        ((fetched.filter (·.status.completionTime.isSome)).insertionSort completedNoEarlier)
      ⟨gapEntries.foldl (fun gapTotal gapEntry => gapTotal + gapEntry.gap) 0, gapEntries, true⟩ := by
  simp [accumulateGaps, counted, sortTaskRuns_of_fetched found]

/-- For a finished PipelineRun whose TaskRuns ran one after another, listed in
any order, the reconstructor finds the true gaps: the first from the
PipelineRun's creation, each later one from the completion of the TaskRun
before it; its gap total is the time from the PipelineRun's creation to the last
completion minus the time the TaskRuns ran. -/
theorem sequential_gaps_exact (store : TaskRunStore) (pr : PipelineRun) {fetched : List TaskRun}
    (finished : isUnknown (getCondition pr.status.conditions conditionSucceeded) = false)
    (counted : skipPipelineRun pr = false)
    (found : fetchTaskRuns store pr.status.childReferences = some fetched) (perm : fetched ~ kids)
    (sequential : Sequential kids) :
    (accumulateGaps store pr).foundGaps = true ∧
      (accumulateGaps store pr).gapEntries.map (·.gap) = chainGaps pr.creationTimestamp kids ∧
      (accumulateGaps store pr).gapTotal = lastCompletion pr.creationTimestamp kids - pr.creationTimestamp -
        (kids.map fun kid => completedAt kid - kid.creationTimestamp).sum := by
  have gaps : (accumulateGaps store pr).gapEntries.map (·.gap) = chainGaps pr.creationTimestamp kids := by
    rw [accumulateGaps_of_fetched counted found]
    dsimp only
    rw [insertionSort_created sequential perm, insertionSort_completed sequential perm]
    cases kids with
    | nil => simp [calculateGaps, chainGaps]
    | cons firstKid rest =>
      rw [calculateGaps_gaps finished, chainGaps,
        later_gaps sequential (show firstKid :: rest = [] ++ firstKid :: rest from rfl)
          (List.mem_singleton_self _)]
  refine ⟨by simp [accumulateGaps_of_fetched counted found], gaps, ?_⟩
  rw [accumulateGaps_gapTotal, gaps]
  linarith [chainGaps_sum pr.creationTimestamp kids]

theorem sequential_gaps_exact_listed_out_of_order :
    let kid (name : String) (created completed : Int) : TaskRun :=
      { name, creationTimestamp := created, status := { completionTime := some completed } }
    let kids := [kid "a" 2000 5000, kid "b" 6000 9000, kid "c" 9000 15000]
    let fetched := [kid "b" 6000 9000, kid "c" 9000 15000, kid "a" 2000 5000]
    let build : PipelineRun :=
      { name := "build", creationTimestamp := 1000
        status := { conditions := [{ type := "Succeeded", status := .conditionTrue }]
                    startTime := some 1000, completionTime := some 16000
                    childReferences := [⟨"TaskRun", "b"⟩, ⟨"TaskRun", "c"⟩, ⟨"TaskRun", "a"⟩] } }
    let store := TaskRunStore.ofList kids fun _ => none
    isUnknown (getCondition build.status.conditions conditionSucceeded) = false ∧ skipPipelineRun build = false ∧
      fetchTaskRuns store build.status.childReferences = some fetched ∧ fetched ~ kids ∧ Sequential kids ∧
      (accumulateGaps store build).foundGaps = true ∧
      (accumulateGaps store build).gapEntries.map (·.gap) = chainGaps build.creationTimestamp kids ∧
      (accumulateGaps store build).gapTotal = lastCompletion build.creationTimestamp kids - build.creationTimestamp -
        (kids.map fun kid => completedAt kid - kid.creationTimestamp).sum := by
  intro kid kids fetched build store
  have found : fetchTaskRuns store build.status.childReferences = some fetched := by decide
  have perm : fetched ~ kids := by decide
  have sequential : Sequential kids :=
    ⟨by decide, by decide, .cons (by decide) (.cons (by decide) .nil), by decide⟩
  exact ⟨rfl, rfl, found, perm, sequential, sequential_gaps_exact store build rfl rfl found perm sequential⟩

end PipelineServiceExporter.Proofs.GapChain
