import PipelineServiceExporter.Collector.Deadlock

/-! The deadlock tracker over whole runs of polling cycles. The last scan records
exactly what failed in the previous cycle, and within a cycle the calls for one
namespace are zeroings followed by one increment per object that failed in this
cycle and in the one before. -/

namespace PipelineServiceExporter.Proofs.DeadlockCycles
open Collector DeadlockTracker

/-- Whether a collector call is for namespace `ns`; the reset that ends a cycle
is for no single namespace. -/
def CollectorCall.isFor (ns : String) : CollectorCall → Bool
  | .incCollector n => n == ns
  | .zeroCollector n => n == ns
  | .resetCollector _ => false

/-- A poll in `ns` failing for a name that failed at some poll in `ns` of the
previous cycle. -/
def repeatsFailure (previous : List Poll) (ns : String) (poll : Poll) : Bool :=
  poll.ns == ns && poll.failing &&
    previous.any fun earlier => earlier.ns == ns && earlier.failing && earlier.name == poll.name

/-- A poll in `ns` failing for a name the last scan holds under `ns`: the
source's `objHitLastTime` for a failing poll. -/
def hitLastTime (lastScan : Scan) (ns : String) (poll : Poll) : Bool :=
  poll.ns == ns && poll.failing && decide (poll.name ∈ (lastScan.lookup ns).getD [])

variable {d : DeadlockTracker} {poll : Poll} {ns : String}

@[simp] theorem perform_filter (d : DeadlockTracker) (poll : Poll) :
    (d.performDeadlockDetection poll).1.filter = d.filter := by
  simp only [performDeadlockDetection, apply_ite Prod.fst, ite_self]
  split <;> rfl

@[simp] theorem perform_lastScan (d : DeadlockTracker) (poll : Poll) :
    (d.performDeadlockDetection poll).1.lastScan = d.lastScan := by
  simp only [performDeadlockDetection, apply_ite Prod.fst, ite_self]
  split <;> rfl

theorem perform_currentScan (d : DeadlockTracker) (poll : Poll) :
    (d.performDeadlockDetection poll).1.currentScan =
      if poll.ns ∈ d.filter then d.currentScan
      else d.currentScan.insert poll.ns
        (if poll.failing then ((d.currentScan.lookup poll.ns).getD []).insert poll.name
         else (d.currentScan.lookup poll.ns).getD []) := by
  simp only [performDeadlockDetection, apply_ite Prod.fst, ite_self]
  split <;> rfl

theorem hitLastTime_of_ne {lastScan : Scan} (other : poll.ns ≠ ns) : hitLastTime lastScan ns poll = false := by
  simp [hitLastTime, other]

theorem hitLastTime_ns {lastScan : Scan} (hit : hitLastTime lastScan ns poll = true) : poll.ns = ns := by
  by_contra other
  simp [hitLastTime_of_ne other] at hit

theorem perform_cases (d : DeadlockTracker) (poll : Poll) :
    (poll.ns ∈ d.filter ∧ d.performDeadlockDetection poll = (d, [])) ∨
    (poll.ns ∉ d.filter ∧ hitLastTime d.lastScan poll.ns poll = true ∧
      (d.performDeadlockDetection poll).1.flaggedNamespaces = d.flaggedNamespaces.insert poll.ns ∧
      (d.performDeadlockDetection poll).2 = [.incCollector poll.ns]) ∨
    (poll.ns ∉ d.filter ∧ hitLastTime d.lastScan poll.ns poll = false ∧
      (d.performDeadlockDetection poll).1.flaggedNamespaces = d.flaggedNamespaces ∧
      (d.performDeadlockDetection poll).2 =
        if poll.ns ∈ d.flaggedNamespaces then [] else [.zeroCollector poll.ns]) := by
  dsimp only [performDeadlockDetection, hitLastTime]
  by_cases filtered : poll.ns ∈ d.filter
  · exact .inl ⟨filtered, if_pos filtered⟩
  · simp only [if_neg filtered, beq_self_eq_true, Bool.true_and]
    cases hit : (poll.failing && decide (poll.name ∈ (d.lastScan.lookup poll.ns).getD []))
    · refine .inr (.inr ⟨filtered, rfl, ?_, ?_⟩) <;> simp only [Bool.false_eq_true, ite_false] <;>
        split_ifs <;> rfl
    · exact .inr (.inl ⟨filtered, rfl, by simp [List.mem_insert_iff], by simp [List.mem_insert_iff]⟩)

theorem perform_flagged (d : DeadlockTracker) (poll : Poll) (ns : String) :
    ns ∈ (d.performDeadlockDetection poll).1.flaggedNamespaces ↔
      ns ∈ d.flaggedNamespaces ∨ ns ∉ d.filter ∧ hitLastTime d.lastScan ns poll := by
  rcases perform_cases d poll with ⟨filtered, same⟩ | ⟨unfiltered, hit, flagged, -⟩ | ⟨-, miss, flagged, -⟩
  · rw [same]
    exact ⟨.inl, fun inside => inside.elim id fun ⟨unfiltered, hit⟩ => absurd (hitLastTime_ns hit ▸ filtered) unfiltered⟩
  · rw [flagged, List.mem_insert_iff]
    by_cases same : poll.ns = ns
    · subst same
      simp [unfiltered, hit]
    · simp [Ne.symm same, hitLastTime_of_ne same]
  · rw [flagged]
    by_cases same : poll.ns = ns
    · subst same
      simp [miss]
    · simp [hitLastTime_of_ne same]

theorem perform_calls (d : DeadlockTracker) (poll : Poll) (unfiltered : ns ∉ d.filter) :
    (d.performDeadlockDetection poll).2.filter (CollectorCall.isFor ns) =
      if hitLastTime d.lastScan ns poll then [.incCollector ns]
      else if poll.ns = ns ∧ ns ∉ d.flaggedNamespaces then [.zeroCollector ns] else [] := by
  by_cases same : poll.ns = ns
  · subst same
    rcases perform_cases d poll with ⟨filtered, -⟩ | ⟨-, hit, -, calls⟩ | ⟨-, miss, -, calls⟩
    · exact absurd filtered unfiltered
    · simp [calls, hit, CollectorCall.isFor]
    · by_cases flagged : poll.ns ∈ d.flaggedNamespaces <;> simp [calls, miss, flagged, CollectorCall.isFor]
  · rw [hitLastTime_of_ne same]
    rcases perform_cases d poll with ⟨-, calls⟩ | ⟨-, -, -, calls⟩ | ⟨-, -, -, calls⟩ <;> rw [calls]
    · simp [same]
    · simp [same, CollectorCall.isFor]
    · by_cases flagged : poll.ns ∈ d.flaggedNamespaces <;> simp [flagged, same, CollectorCall.isFor]

theorem perform_calls_filtered (d : DeadlockTracker) (poll : Poll) (filtered : ns ∈ d.filter) :
    (d.performDeadlockDetection poll).2.filter (CollectorCall.isFor ns) = [] := by
  rcases perform_cases d poll with ⟨-, calls⟩ | ⟨unfiltered, -, -, calls⟩ | ⟨unfiltered, -, -, calls⟩ <;> rw [calls]
  · rfl
  · have other : poll.ns ≠ ns := fun same => unfiltered (same ▸ filtered)
    simp [CollectorCall.isFor, other]
  · have other : poll.ns ≠ ns := fun same => unfiltered (same ▸ filtered)
    by_cases flagged : poll.ns ∈ d.flaggedNamespaces <;> simp [flagged, CollectorCall.isFor, other]

theorem perform_scanned (d : DeadlockTracker) (poll : Poll) (ns : String) :
    (ns ∈ (d.performDeadlockDetection poll).1.currentScan ↔
      ns ∈ d.currentScan ∨ ns ∉ d.filter ∧ poll.ns = ns) ∧
    ∀ name, name ∈ ((d.performDeadlockDetection poll).1.currentScan.lookup ns).getD [] ↔
      name ∈ (d.currentScan.lookup ns).getD [] ∨ ns ∉ d.filter ∧ poll.ns = ns ∧ poll.failing ∧ poll.name = name := by
  rw [perform_currentScan]
  by_cases same : poll.ns = ns
  · subst same
    by_cases filtered : poll.ns ∈ d.filter
    · simp [filtered]
    · cases poll.failing <;> simp [filtered, List.mem_insert_iff, or_comm, eq_comm]
  · split_ifs <;> simp [AList.mem_insert, AList.lookup_insert_ne (Ne.symm same), Ne.symm same, same]

theorem pollAll_cons (d : DeadlockTracker) (poll : Poll) (polls : List Poll) :
    d.pollAll (poll :: polls) =
      (((d.performDeadlockDetection poll).1.pollAll polls).1,
        (d.performDeadlockDetection poll).2 ++ ((d.performDeadlockDetection poll).1.pollAll polls).2) := rfl

@[simp] theorem pollAll_filter (d : DeadlockTracker) (polls : List Poll) : (d.pollAll polls).1.filter = d.filter := by
  induction polls generalizing d with
  | nil => rfl
  | cons poll polls ih => rw [pollAll_cons, ih, perform_filter]

@[simp] theorem pollAll_lastScan (d : DeadlockTracker) (polls : List Poll) :
    (d.pollAll polls).1.lastScan = d.lastScan := by
  induction polls generalizing d with
  | nil => rfl
  | cons poll polls ih => rw [pollAll_cons, ih, perform_lastScan]

theorem pollAll_scanned (d : DeadlockTracker) (polls : List Poll) (ns : String) :
    (ns ∈ (d.pollAll polls).1.currentScan ↔ ns ∈ d.currentScan ∨ ns ∉ d.filter ∧ ∃ poll ∈ polls, poll.ns = ns) ∧
    ∀ name, name ∈ ((d.pollAll polls).1.currentScan.lookup ns).getD [] ↔
      name ∈ (d.currentScan.lookup ns).getD [] ∨
        ns ∉ d.filter ∧ ∃ poll ∈ polls, poll.ns = ns ∧ poll.failing ∧ poll.name = name := by
  induction polls generalizing d with
  | nil => simpa using ⟨Iff.rfl, fun _ => Iff.rfl⟩
  | cons poll polls ih =>
    obtain ⟨keys, names⟩ := ih (d.performDeadlockDetection poll).1
    obtain ⟨keys₁, names₁⟩ := perform_scanned d poll ns
    rw [perform_filter] at keys names
    rw [pollAll_cons]
    refine ⟨?_, fun name => ?_⟩
    · rw [keys, keys₁]
      simp only [List.mem_cons, or_and_right, exists_or, exists_eq_left, and_or_left, or_assoc]
    · rw [names, names₁]
      simp only [List.mem_cons, or_and_right, exists_or, exists_eq_left, and_or_left, or_assoc]

/-- Whether the first poll in `ns` hits the last scan. -/
def firstHitLastTime (lastScan : Scan) (ns : String) (polls : List Poll) : Bool :=
  ((polls.find? (·.ns == ns)).map (hitLastTime lastScan ns)).getD false

theorem pollAll_calls (d : DeadlockTracker) (polls : List Poll) (unfiltered : ns ∉ d.filter) :
    ∃ a, (d.pollAll polls).2.filter (CollectorCall.isFor ns) =
        List.replicate a (.zeroCollector ns) ++
          List.replicate (polls.filter (hitLastTime d.lastScan ns)).length (.incCollector ns) ∧
      (ns ∈ d.flaggedNamespaces → a = 0) ∧ ((∀ poll ∈ polls, poll.ns ≠ ns) → a = 0) ∧
      (ns ∉ d.flaggedNamespaces → (∃ poll ∈ polls, poll.ns = ns) →
        1 ≤ a + (polls.filter (hitLastTime d.lastScan ns)).length ∧
          (a = 0 ↔ firstHitLastTime d.lastScan ns polls = true)) := by
  induction polls generalizing d with
  | nil => exact ⟨0, rfl, fun _ => rfl, fun _ => rfl, fun _ ⟨_, absent, _⟩ => absurd absent (List.not_mem_nil _)⟩
  | cons poll polls ih =>
    obtain ⟨a, calls, flaggedNone, elsewhereNone, polledSome⟩ :=
      ih (d.performDeadlockDetection poll).1 (by simpa using unfiltered)
    rw [perform_lastScan] at calls polledSome
    have flagged := perform_flagged d poll ns
    rw [pollAll_cons, List.filter_append, perform_calls d poll unfiltered, calls]
    by_cases repeats : hitLastTime d.lastScan ns poll
    · have none := flaggedNone (flagged.mpr (.inr ⟨unfiltered, repeats⟩))
      subst none
      refine ⟨0, ?_, fun _ => rfl, fun _ => rfl, fun _ _ => ?_⟩
      · simp [List.filter_cons, repeats, List.replicate_succ]
      · simp [List.filter_cons, repeats, firstHitLastTime, List.find?_cons, hitLastTime_ns repeats]
    · by_cases zeroes : poll.ns = ns ∧ ns ∉ d.flaggedNamespaces
      · refine ⟨a + 1, ?_, fun inside => absurd inside zeroes.2,
          fun elsewhere => absurd zeroes.1 (elsewhere poll (.head _)), fun _ _ => ⟨by omega, ?_⟩⟩
        · simp [List.filter_cons, repeats, zeroes, List.replicate_succ]
        · simp [firstHitLastTime, List.find?_cons, zeroes.1, repeats]
      · refine ⟨a, ?_, fun inside => flaggedNone (flagged.mpr (.inl inside)),
          fun elsewhere => elsewhereNone fun p member => elsewhere p (.tail _ member), ?_⟩
        · simp [List.filter_cons, repeats, zeroes]
        · rintro unflagged ⟨p, member, inside⟩
          have other : poll.ns ≠ ns := fun same => zeroes ⟨same, unflagged⟩
          rcases List.mem_cons.mp member with rfl | later
          · exact absurd inside other
          · simpa [List.filter_cons, repeats, firstHitLastTime, List.find?_cons, other] using
              polledSome (fun again => (flagged.mp again).elim unflagged fun h => repeats h.2) ⟨p, later, inside⟩

theorem zeroings_for (ns : String) (keep : String → Bool) {keys : List String} (nodup : keys.Nodup) :
    ((keys.filter keep).map CollectorCall.zeroCollector).filter (CollectorCall.isFor ns) =
      if ns ∈ keys ∧ keep ns then [.zeroCollector ns] else [] := by
  induction keys with
  | nil => simp
  | cons k keys ih =>
    obtain ⟨fresh, nodup⟩ := List.nodup_cons.mp nodup
    have rest := ih nodup
    by_cases same : k = ns
    · subst same
      rw [if_neg fun inside => fresh inside.1] at rest
      cases kept : keep k <;> simp [List.filter_cons, kept, rest, CollectorCall.isFor]
    · cases kept : keep k <;> simp [List.filter_cons, kept, rest, CollectorCall.isFor, same, Ne.symm same]

theorem zeroOut_calls (lastScan currentScan : Scan) (ns : String) :
    (zeroOutPriorHitNamespacesThatAreNowEmpty lastScan currentScan).filter (CollectorCall.isFor ns) =
      if ns ∈ lastScan ∧ ns ∉ currentScan then [.zeroCollector ns] else [] := by
  rw [zeroOutPriorHitNamespacesThatAreNowEmpty, zeroings_for ns _ lastScan.keys_nodup]
  simp [AList.mem_keys]

/-- A cycle starts from the tracker with an empty current scan and nothing flagged. -/
def cycleStart (d : DeadlockTracker) : DeadlockTracker := { d with currentScan := ∅, flaggedNamespaces := [] }

@[simp] theorem cycleStart_filter (d : DeadlockTracker) : (cycleStart d).filter = d.filter := rfl
@[simp] theorem cycleStart_lastScan (d : DeadlockTracker) : (cycleStart d).lastScan = d.lastScan := rfl
@[simp] theorem cycleStart_flaggedNamespaces (d : DeadlockTracker) : (cycleStart d).flaggedNamespaces = [] := rfl
@[simp] theorem cycleStart_currentScan (d : DeadlockTracker) : (cycleStart d).currentScan = ∅ := rfl

theorem pollCycle_eq (d : DeadlockTracker) (polls : List Poll) :
    d.pollCycle polls =
      ({ ((cycleStart d).pollAll polls).1 with lastScan := ((cycleStart d).pollAll polls).1.currentScan },
        ((cycleStart d).pollAll polls).2 ++
          zeroOutPriorHitNamespacesThatAreNowEmpty d.lastScan ((cycleStart d).pollAll polls).1.currentScan ++
          innerReset ((cycleStart d).pollAll polls).1.currentScan.keys) := by
  simp [pollCycle, buildLastScanCopy, cycleStart]

theorem cycleStart_scanned (d : DeadlockTracker) (polls : List Poll) (ns : String) :
    ns ∈ ((cycleStart d).pollAll polls).1.currentScan ↔ ns ∉ d.filter ∧ ∃ poll ∈ polls, poll.ns = ns := by
  simpa [cycleStart, AList.not_mem_empty] using (pollAll_scanned (cycleStart d) polls ns).1

theorem pollCycle_calls (d : DeadlockTracker) (polls : List Poll) (unfiltered : ns ∉ d.filter) :
    ∃ a, (d.pollCycle polls).2.filter (CollectorCall.isFor ns) =
        List.replicate a (.zeroCollector ns) ++
          List.replicate (polls.filter (hitLastTime d.lastScan ns)).length (.incCollector ns) ∧
      ((∃ poll ∈ polls, poll.ns = ns) ∨ ns ∈ d.lastScan → 1 ≤ a + (polls.filter (hitLastTime d.lastScan ns)).length) ∧
      ((∃ poll ∈ polls, poll.ns = ns) → (a = 0 ↔ firstHitLastTime d.lastScan ns polls = true)) := by
  obtain ⟨a, calls, -, elsewhereNone, polledSome⟩ := pollAll_calls (cycleStart d) polls unfiltered
  have scanned := cycleStart_scanned d polls ns
  rw [pollCycle_eq, List.filter_append, List.filter_append, calls, zeroOut_calls]
  simp only [innerReset, List.filter_cons, CollectorCall.isFor, List.filter_nil, List.append_nil]
  by_cases polled : ∃ poll ∈ polls, poll.ns = ns
  · have inside : ns ∈ ((cycleStart d).pollAll polls).1.currentScan := scanned.mpr ⟨unfiltered, polled⟩
    exact ⟨a, by simp [inside], fun _ => by simpa using (polledSome (by simp) polled).1,
      fun _ => by simpa using (polledSome (by simp) polled).2⟩
  · have noPolls : ∀ poll ∈ polls, poll.ns ≠ ns := fun poll member same => polled ⟨poll, member, same⟩
    have noRepeats : polls.filter (hitLastTime d.lastScan ns) = [] :=
      List.filter_eq_nil_iff.mpr fun poll member => by simp [hitLastTime, noPolls poll member]
    have outside : ns ∉ ((cycleStart d).pollAll polls).1.currentScan := fun inside => polled (scanned.mp inside).2
    obtain rfl := elsewhereNone noPolls
    refine ⟨if ns ∈ d.lastScan then 1 else 0, ?_, ?_, fun polledNow => absurd polledNow polled⟩
    · by_cases last : ns ∈ d.lastScan <;> simp [noRepeats, outside, last]
    · rintro (polledNow | last)
      · exact absurd polledNow polled
      · simp [last]

theorem pollCycle_calls_filtered (d : DeadlockTracker) (polls : List Poll) (filtered : ns ∈ d.filter)
    (clean : ns ∉ d.lastScan) : (d.pollCycle polls).2.filter (CollectorCall.isFor ns) = [] := by
  have quiet : ∀ (d : DeadlockTracker) (polls : List Poll), ns ∈ d.filter →
      (d.pollAll polls).2.filter (CollectorCall.isFor ns) = [] := by
    intro d polls filtered
    induction polls generalizing d with
    | nil => rfl
    | cons poll polls ih =>
      rw [pollAll_cons, List.filter_append, perform_calls_filtered d poll filtered,
        ih _ (by simpa using filtered), List.nil_append]
  rw [pollCycle_eq, List.filter_append, List.filter_append, quiet (cycleStart d) polls filtered, zeroOut_calls]
  simp [clean, innerReset, CollectorCall.isFor]

/-- The last scan records exactly the unfiltered namespaces polled in the
previous cycle and, under each, the names that failed there. -/
structure Records (d : DeadlockTracker) (previous : List Poll) : Prop where
  keys : ∀ ns, ns ∈ d.lastScan ↔ ns ∉ d.filter ∧ ∃ poll ∈ previous, poll.ns = ns
  names : ∀ ns name, name ∈ (d.lastScan.lookup ns).getD [] ↔
    ns ∉ d.filter ∧ ∃ poll ∈ previous, poll.ns = ns ∧ poll.failing ∧ poll.name = name

theorem initial_records (filter : List String) : Records (initial filter) [] :=
  ⟨fun ns => by simp [initial, AList.not_mem_empty], fun ns name => by simp [initial, AList.lookup_empty]⟩

theorem pollCycle_records (d : DeadlockTracker) (polls : List Poll) : Records (d.pollCycle polls).1 polls := by
  rw [pollCycle_eq]
  refine ⟨fun ns => ?_, fun ns name => ?_⟩
  · simpa using cycleStart_scanned d polls ns
  · simpa [cycleStart, AList.lookup_empty] using (pollAll_scanned (cycleStart d) polls ns).2 name

theorem pollCycle_filter (d : DeadlockTracker) (polls : List Poll) : (d.pollCycle polls).1.filter = d.filter := by
  simp [pollCycle_eq, cycleStart]

theorem runCycles_filter (d : DeadlockTracker) (cycles : List (List Poll)) : (d.runCycles cycles).filter = d.filter := by
  induction cycles generalizing d with
  | nil => rfl
  | cons polls cycles ih => exact (ih _).trans (pollCycle_filter d polls)

theorem runCycles_concat (d : DeadlockTracker) (cycles : List (List Poll)) (polls : List Poll) :
    d.runCycles (cycles ++ [polls]) = ((d.runCycles cycles).pollCycle polls).1 :=
  List.foldl_concat _ _ _ _

/-- After any run of cycles, the last scan holds what failed in the last cycle. -/
theorem runCycles_records (filter : List String) (cycles : List (List Poll)) :
    Records ((initial filter).runCycles cycles) (cycles.getLast?.getD []) := by
  rcases List.eq_nil_or_concat cycles with rfl | ⟨cycles, polls, rfl⟩
  · exact initial_records filter
  · rw [List.concat_eq_append, runCycles_concat, List.getLast?_concat, Option.getD_some]
    exact pollCycle_records _ polls

theorem hitLastTime_eq {previous : List Poll} (records : Records d previous) (unfiltered : ns ∉ d.filter) (poll : Poll) :
    hitLastTime d.lastScan ns poll = repeatsFailure previous ns poll := by
  have names := records.names ns poll.name
  rw [Bool.eq_iff_iff]
  simp only [hitLastTime, repeatsFailure, Bool.and_eq_true, beq_iff_eq, decide_eq_true_eq, names, List.any_eq_true]
  constructor
  · rintro ⟨⟨same, failing⟩, -, earlier, member, inNs, failed, named⟩
    exact ⟨⟨same, failing⟩, earlier, member, by simp [inNs, failed, named]⟩
  · rintro ⟨⟨same, failing⟩, earlier, member, matched⟩
    exact ⟨⟨same, failing⟩, unfiltered, earlier, member, matched.1.1, matched.1.2, matched.2⟩

/-- Over any run of polling cycles from a fresh tracker, the calls one cycle
makes for a namespace are none when it is filtered, and otherwise zeroings
followed by one increment per poll that failed for a name which also failed in
that namespace in the previous cycle, with at least one call when the namespace
was polled or was in the last scan. -/
theorem pollCycle_namespace_calls (filter : List String) (cycles : List (List Poll)) (polls : List Poll)
    (ns : String) :
    let d := (DeadlockTracker.initial filter).runCycles cycles
    let calls := (d.pollCycle polls).2.filter (CollectorCall.isFor ns)
    let repeated := (polls.filter (repeatsFailure (cycles.getLast?.getD []) ns)).length
    (ns ∈ filter → calls = []) ∧
      (ns ∉ filter → ∃ a, calls = List.replicate a (.zeroCollector ns) ++ List.replicate repeated (.incCollector ns) ∧
        ((∃ poll ∈ polls, poll.ns = ns) ∨ ns ∈ d.lastScan → 1 ≤ a + repeated)) := by
  intro d calls repeated
  have records := runCycles_records filter cycles
  have sameFilter : d.filter = filter := runCycles_filter _ cycles
  refine ⟨fun filtered => ?_, fun unfiltered => ?_⟩
  · rw [← sameFilter] at filtered
    exact pollCycle_calls_filtered d polls filtered fun member => ((records.keys ns).mp member).1 filtered
  · rw [← sameFilter] at unfiltered
    have same : polls.filter (hitLastTime d.lastScan ns) = polls.filter (repeatsFailure (cycles.getLast?.getD []) ns) :=
      List.filter_congr fun poll _ => hitLastTime_eq records unfiltered poll
    obtain ⟨a, calls, atLeastOne, -⟩ := pollCycle_calls d polls unfiltered
    rw [same] at calls atLeastOne
    exact ⟨a, calls, atLeastOne⟩

theorem pollAll_flagged (d : DeadlockTracker) (polls : List Poll) (ns : String) :
    ns ∈ (d.pollAll polls).1.flaggedNamespaces ↔
      ns ∈ d.flaggedNamespaces ∨ ns ∉ d.filter ∧ ∃ poll ∈ polls, hitLastTime d.lastScan ns poll := by
  induction polls generalizing d with
  | nil =>
    simp only [List.not_mem_nil, false_and, exists_false, and_false, or_false]
    exact Iff.rfl
  | cons poll polls ih =>
    rw [pollAll_cons, ih, perform_filter, perform_lastScan, perform_flagged]
    simp only [List.mem_cons, or_and_right, exists_or, exists_eq_left, and_or_left, or_assoc]

/-- A namespace ends a cycle flagged exactly when some poll there failed for a
name that also failed there in the previous cycle: one failing cycle never
flags it. -/
theorem flagged_iff_failed_twice (filter : List String) (cycles : List (List Poll)) (polls : List Poll)
    (ns : String) :
    ns ∈ (((DeadlockTracker.initial filter).runCycles cycles).pollCycle polls).1.flaggedNamespaces ↔
      ns ∉ filter ∧ ∃ poll ∈ polls, repeatsFailure (cycles.getLast?.getD []) ns poll := by
  have records := runCycles_records filter cycles
  rw [pollCycle_eq]
  refine (pollAll_flagged _ polls ns).trans ?_
  simp only [cycleStart_flaggedNamespaces, List.not_mem_nil, false_or, cycleStart_filter, cycleStart_lastScan,
    runCycles_filter]
  refine and_congr_right fun unfiltered => ?_
  have unfiltered' : ns ∉ ((DeadlockTracker.initial filter).runCycles cycles).filter := by
    rwa [runCycles_filter]
  simp only [hitLastTime_eq records unfiltered']

/-- After any run of polling cycles from a fresh tracker, the last scan holds,
under each namespace, exactly the names that failed there in the last cycle, and
nothing under a filtered namespace. -/
theorem lastScan_holds_previous_failures (filter : List String) (cycles : List (List Poll)) (ns name : String) :
    name ∈ ((((DeadlockTracker.initial filter).runCycles cycles).lastScan.lookup ns).getD []) ↔
      ns ∉ filter ∧ ∃ poll ∈ cycles.getLast?.getD [], poll.ns = ns ∧ poll.failing ∧ poll.name = name := by
  rw [(runCycles_records filter cycles).names, runCycles_filter]
  rfl

/-- After any run of polling cycles from a fresh tracker, the last scan tracks
exactly the unfiltered namespaces polled in the last cycle, those where nothing
failed included: a namespace leaves it only in a cycle that does not poll it. -/
theorem lastScan_tracks_polled_namespaces (filter : List String) (cycles : List (List Poll)) (ns : String) :
    ns ∈ ((DeadlockTracker.initial filter).runCycles cycles).lastScan ↔
      ns ∉ filter ∧ ∃ poll ∈ cycles.getLast?.getD [], poll.ns = ns := by
  rw [(runCycles_records filter cycles).keys, runCycles_filter]
  rfl

end PipelineServiceExporter.Proofs.DeadlockCycles
