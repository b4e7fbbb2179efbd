import PipelineServiceExporter.Proofs.DeadlockCycles

/-! The stuck gauge the tracker's calls drive. After a polling cycle, the gauge
of a namespace polled in it counts the objects that failed there in this cycle
and the one before; when the first poll there was itself such a failure, nothing
zeroed the gauge first and the count adds to its previous value. Every other
namespace is dropped. So the value depends on the order of the polls. -/

namespace PipelineServiceExporter.Proofs.StuckGauge
open Collector DeadlockTracker DeadlockCycles

/-- Whether a call is the reset that ends a cycle. -/
def CollectorCall.isReset : CollectorCall → Bool
  | .resetCollector _ => true
  | _ => false

variable {ns : String} {gauge gauge' : String → Option Nat}

@[simp] theorem applyCalls_nil (gauge : String → Option Nat) : applyCalls gauge [] = gauge := rfl

@[simp] theorem applyCalls_cons (gauge : String → Option Nat) (call : CollectorCall) (calls : List CollectorCall) :
    applyCalls gauge (call :: calls) = applyCalls (call.apply gauge) calls := rfl

theorem applyCalls_append (gauge : String → Option Nat) (first second : List CollectorCall) :
    applyCalls gauge (first ++ second) = applyCalls (applyCalls gauge first) second := List.foldl_append _ _ _ _

theorem apply_other {call : CollectorCall} (gauge : String → Option Nat) (other : CollectorCall.isFor ns call = false)
    (kept : CollectorCall.isReset call = false) : call.apply gauge ns = gauge ns := by
  cases call with
  | incCollector n | zeroCollector n =>
    have other : ns ≠ n := fun same => by simp [CollectorCall.isFor, same] at other
    simp [CollectorCall.apply, Function.update_noteq other]
  | resetCollector keys => cases kept

theorem apply_congr {call : CollectorCall} (kept : CollectorCall.isReset call = false) (same : gauge ns = gauge' ns) :
    call.apply gauge ns = call.apply gauge' ns := by
  cases call with
  | incCollector n | zeroCollector n =>
    by_cases here : ns = n
    · subst here
      simp [CollectorCall.apply, same]
    · simp [CollectorCall.apply, Function.update_noteq here, same]
  | resetCollector keys => cases kept

theorem applyCalls_congr {calls : List CollectorCall} (kept : ∀ call ∈ calls, CollectorCall.isReset call = false)
    (same : gauge ns = gauge' ns) : applyCalls gauge calls ns = applyCalls gauge' calls ns := by
  induction calls generalizing gauge gauge' with
  | nil => exact same
  | cons call calls ih =>
    exact ih (fun c member => kept c (.tail _ member)) (apply_congr (kept call (.head _)) same)

theorem applyCalls_filter (gauge : String → Option Nat) {calls : List CollectorCall}
    (kept : ∀ call ∈ calls, CollectorCall.isReset call = false) :
    applyCalls gauge calls ns = applyCalls gauge (calls.filter (CollectorCall.isFor ns)) ns := by
  induction calls generalizing gauge with
  | nil => rfl
  | cons call calls ih =>
    have rest : ∀ c ∈ calls, CollectorCall.isReset c = false := fun c member => kept c (.tail _ member)
    rw [applyCalls_cons, ih _ rest, List.filter_cons]
    cases here : CollectorCall.isFor ns call
    · exact applyCalls_congr (fun c member => rest c (List.mem_of_mem_filter member))
        (apply_other gauge here (kept call (.head _)))
    · rfl

theorem applyCalls_zeroings (gauge : String → Option Nat) (a : Nat) :
    applyCalls gauge (List.replicate a (.zeroCollector ns)) ns = if a = 0 then gauge ns else some 0 := by
  induction a generalizing gauge with
  | zero => rfl
  | succ a ih =>
    rw [List.replicate_succ, applyCalls_cons, ih]
    split <;> simp [CollectorCall.apply]

theorem applyCalls_increments (gauge : String → Option Nat) (m : Nat) :
    applyCalls gauge (List.replicate m (.incCollector ns)) ns =
      if m = 0 then gauge ns else some ((gauge ns).getD 0 + m) := by
  induction m generalizing gauge with
  | zero => rfl
  | succ m ih =>
    rw [List.replicate_succ, applyCalls_cons, ih]
    split <;> simp [CollectorCall.apply] <;> omega

theorem applyCalls_zeroings_increments (gauge : String → Option Nat) (a m : Nat) :
    applyCalls gauge (List.replicate a (.zeroCollector ns) ++ List.replicate m (.incCollector ns)) ns =
      if a + m = 0 then gauge ns else some ((if a = 0 then (gauge ns).getD 0 else 0) + m) := by
  rw [applyCalls_append, applyCalls_increments, applyCalls_zeroings]
  by_cases none : a = 0 <;> by_cases noInc : m = 0 <;> simp [none, noInc]

theorem pollAll_kept (d : DeadlockTracker) (polls : List Poll) :
    ∀ call ∈ (d.pollAll polls).2, CollectorCall.isReset call = false := by
  induction polls generalizing d with
  | nil => simp [pollAll]
  | cons poll polls ih =>
    rw [pollAll_cons]
    refine fun call member => (List.mem_append.mp member).elim (fun first => ?_) (ih _ call)
    rcases perform_cases d poll with ⟨-, calls⟩ | ⟨-, -, -, calls⟩ | ⟨-, -, -, calls⟩ <;> rw [calls] at first
    · cases first
    · simp_all [CollectorCall.isReset]
    · split at first <;> simp_all [CollectorCall.isReset]

theorem zeroOut_kept (lastScan currentScan : Scan) :
    ∀ call ∈ zeroOutPriorHitNamespacesThatAreNowEmpty lastScan currentScan, CollectorCall.isReset call = false := by
  intro call zeroed
  obtain ⟨_, -, rfl⟩ := List.mem_map.mp zeroed
  rfl

/-- The gauge after one cycle, from any tracker and any gauge before it. -/
theorem pollCycle_gauge (d : DeadlockTracker) (polls : List Poll) (gauge : String → Option Nat) (ns : String) :
    applyCalls gauge (d.pollCycle polls).2 ns =
      if ns ∉ d.filter ∧ ∃ poll ∈ polls, poll.ns = ns then
        some ((if firstHitLastTime d.lastScan ns polls then (gauge ns).getD 0 else 0) +
          (polls.filter (hitLastTime d.lastScan ns)).length)
      else none := by
  have kept := List.forall_mem_append.mpr
    ⟨pollAll_kept (cycleStart d) polls, zeroOut_kept d.lastScan ((cycleStart d).pollAll polls).1.currentScan⟩
  have sameCalls := congrArg (fun cycle => cycle.2.filter (CollectorCall.isFor ns)) (pollCycle_eq d polls).symm
  simp only [List.filter_append, innerReset, List.filter_cons, CollectorCall.isFor, Bool.false_eq_true,
    if_false, List.filter_nil, List.append_nil] at sameCalls
  rw [pollCycle_eq, applyCalls_append]
  simp only [innerReset, applyCalls_cons, applyCalls_nil, CollectorCall.apply, ← AList.mem_keys,
    cycleStart_scanned]
  by_cases scanned : ns ∉ d.filter ∧ ∃ poll ∈ polls, poll.ns = ns
  · obtain ⟨a, calls, atLeastOne, first⟩ := pollCycle_calls d polls scanned.1
    rw [if_pos scanned, if_pos scanned, applyCalls_filter gauge kept, List.filter_append, sameCalls, calls,
      applyCalls_zeroings_increments, if_neg (by have := atLeastOne (.inl scanned.2); omega)]
    by_cases none : a = 0
    · simp [none, (first scanned.2).mp none]
    · have miss : firstHitLastTime d.lastScan ns polls = false :=
        Bool.eq_false_iff.mpr fun hit => none ((first scanned.2).mpr hit)
      simp [none, miss]
  · rw [if_neg scanned, if_neg scanned]

/-- After any run of polling cycles from a fresh tracker, a namespace polled in
the next cycle has, after it, a gauge equal to the number of its polls that
failed for a name that also failed there in the previous cycle, on top of its
old value when its first poll was such a failure; every other namespace is
dropped. -/
theorem stuck_gauge_after_cycle (filter : List String) (cycles : List (List Poll)) (polls : List Poll)
    (gauge : String → Option Nat) (ns : String) :
    applyCalls gauge (((DeadlockTracker.initial filter).runCycles cycles).pollCycle polls).2 ns =
      if ns ∉ filter ∧ ∃ poll ∈ polls, poll.ns = ns then
        some ((if ((polls.find? (·.ns == ns)).map (repeatsFailure (cycles.getLast?.getD []) ns)).getD false
            then (gauge ns).getD 0 else 0) +
          (polls.filter (repeatsFailure (cycles.getLast?.getD []) ns)).length)
      else none := by
  rw [pollCycle_gauge, runCycles_filter, initial_filter]
  by_cases unfiltered : ns ∈ filter
  · simp [unfiltered]
  · have same := funext (hitLastTime_eq (runCycles_records filter cycles)
      (by rw [runCycles_filter]; exact unfiltered))
    simp only [firstHitLastTime, same]

theorem exists_of_firstHitLastTime {lastScan : Scan} {polls : List Poll} (hit : firstHitLastTime lastScan ns polls = true) :
    ∃ poll ∈ polls, hitLastTime lastScan ns poll = true := by
  unfold firstHitLastTime at hit
  cases found : polls.find? (·.ns == ns) with
  | none => simp [found] at hit
  | some poll =>
    simp only [found, Option.map_some', Option.getD_some] at hit
    exact ⟨poll, List.mem_of_find?_eq_some found, hit⟩

/-- After any run of polling cycles from a fresh tracker, the gauge of an
unfiltered namespace polled in the next cycle is positive after it exactly when
some poll there failed for a name that also failed there in the previous cycle,
whatever the gauge held before. -/
theorem stuck_gauge_positive_iff_repeated (filter : List String) (cycles : List (List Poll)) (polls : List Poll)
    (gauge : String → Option Nat) (ns : String) (polled : ns ∉ filter ∧ ∃ poll ∈ polls, poll.ns = ns) :
    ∃ value, applyCalls gauge (((DeadlockTracker.initial filter).runCycles cycles).pollCycle polls).2 ns = some value ∧
      (0 < value ↔ ∃ poll ∈ polls, repeatsFailure (cycles.getLast?.getD []) ns poll = true) := by
  let d := (DeadlockTracker.initial filter).runCycles cycles
  have unfiltered : ns ∉ d.filter := by rw [runCycles_filter, initial_filter]; exact polled.1
  have same : hitLastTime d.lastScan ns = repeatsFailure (cycles.getLast?.getD []) ns :=
    funext (hitLastTime_eq (runCycles_records filter cycles) unfiltered)
  have repeated : (∃ poll ∈ polls, hitLastTime d.lastScan ns poll = true) ↔
      0 < (polls.filter (hitLastTime d.lastScan ns)).length := by
    simp [List.length_pos, List.filter_eq_nil_iff]
  refine ⟨_, (pollCycle_gauge d polls gauge ns).trans (if_pos ⟨unfiltered, polled.2⟩), ?_⟩
  rw [← same, repeated]
  cases hit : firstHitLastTime d.lastScan ns polls
  · simp
  · have := repeated.mp (exists_of_firstHitLastTime hit)
    simp only [ite_true]
    omega

theorem stuck_gauge_positive_iff_repeated_second_cycle :
    let x : Poll := ⟨"x", "ci", true⟩
    "ci" ∉ ([] : List String) ∧ (∃ poll ∈ [x], poll.ns = "ci") ∧
      ∃ value, applyCalls (fun _ => none) (((DeadlockTracker.initial []).runCycles [[x]]).pollCycle [x]).2 "ci" = some value ∧
        (0 < value ↔ ∃ poll ∈ [x], repeatsFailure ([[x]].getLast?.getD []) "ci" poll = true) := by
  intro x
  have polled : "ci" ∉ ([] : List String) ∧ ∃ poll ∈ [x], poll.ns = "ci" := ⟨by simp, x, by simp, rfl⟩
  exact ⟨polled.1, polled.2, stuck_gauge_positive_iff_repeated [] [[x]] [x] (fun _ => none) "ci" polled⟩

/-- One object failing in every cycle: the gauge reads 0, then 1, then 2. -/
example :
    let x : Poll := ⟨"x", "ci", true⟩
    let first := (DeadlockTracker.initial []).pollCycle [x]
    let second := first.1.pollCycle [x]
    let third := second.1.pollCycle [x]
    applyCalls (applyCalls (applyCalls (fun _ => none) first.2) second.2) third.2 "ci" = some 2 := by
  decide

/-- The same namespace with a healthy object polled first: the zeroing it makes
restarts the count, and the gauge reads 1. -/
example :
    let x : Poll := ⟨"x", "ci", true⟩
    let y : Poll := ⟨"y", "ci", false⟩
    let first := (DeadlockTracker.initial []).pollCycle [y, x]
    let second := first.1.pollCycle [y, x]
    let third := second.1.pollCycle [y, x]
    applyCalls (applyCalls (applyCalls (fun _ => none) first.2) second.2) third.2 "ci" = some 1 := by
  decide

end PipelineServiceExporter.Proofs.StuckGauge
