import PipelineServiceExporter.Collector.Objects

/-! The deadlock tracker: a namespace flagged only when an object fails the
liveness predicate on two consecutive polling cycles. Go maps are association
lists; their random iteration order is the list order, which every result
below leaves arbitrary. The collector is the sequence of calls made on it. -/

namespace PipelineServiceExporter.Collector

/-- Namespace to the names that failed in one scan. -/
abbrev Scan := AList fun _ : String => List String

inductive CollectorCall where
  | incCollector (ns : String)
  | zeroCollector (ns : String)
  | resetCollector (keys : List String)
  deriving DecidableEq, Repr

/-- One poll of an object, with what `d.deadlocked()` answered for it. -/
structure Poll where
  name : String
  ns : String
  failing : Bool
  deriving DecidableEq, Repr

structure DeadlockTracker where
  filter : List String
  flaggedNamespaces : List String
  lastScan : Scan
  currentScan : Scan

namespace DeadlockTracker

def performDeadlockDetection (d : DeadlockTracker) (poll : Poll) :
    DeadlockTracker × List CollectorCall :=
  if poll.ns ∈ d.filter then (d, [])
  else
    let objMap := (d.currentScan.lookup poll.ns).getD []
    let objHitLastTime := poll.name ∈ (d.lastScan.lookup poll.ns).getD []
    let hit := poll.failing && objHitLastTime
    let flaggedNamespaces :=
      if hit then d.flaggedNamespaces.insert poll.ns else d.flaggedNamespaces
    let tracked := { d with
      currentScan := d.currentScan.insert poll.ns (if poll.failing then objMap.insert poll.name else objMap)
      flaggedNamespaces }
    let bumped := if hit then [CollectorCall.incCollector poll.ns] else []
    if poll.ns ∈ flaggedNamespaces then (tracked, bumped)
    else (tracked, bumped ++ [CollectorCall.zeroCollector poll.ns])

end DeadlockTracker

def zeroOutPriorHitNamespacesThatAreNowEmpty (lastScan currentScan : Scan) : List CollectorCall :=
  (lastScan.keys.filter (· ∉ currentScan)).map CollectorCall.zeroCollector

/-- Modelled from the spec: `innerReset` is not under src/. At the end of a
cycle the spec drops the namespaces absent from the new scan from tracking; here
that is one call telling the collector which namespaces it keeps. -/
def innerReset (keys : List String) : List CollectorCall := [CollectorCall.resetCollector keys]

/-- The copy of a scan is the scan itself: values are never shared here. -/
def buildLastScanCopy (m : Scan) : Scan × List CollectorCall := (m, innerReset m.keys)

/-- Modelled from the spec: the collector behind `IncCollector`, `ZeroCollector`
and `innerReset` is not under src/. It keeps one stuck gauge per namespace: an
increment adds one, a zeroing sets zero, and a reset drops every namespace it
does not keep. -/
def CollectorCall.apply (gauge : String → Option Nat) : CollectorCall → String → Option Nat
  | .incCollector ns => Function.update gauge ns (some ((gauge ns).getD 0 + 1))
  | .zeroCollector ns => Function.update gauge ns (some 0)
  | .resetCollector keys => fun ns => if ns ∈ keys then gauge ns else none

def applyCalls (gauge : String → Option Nat) (calls : List CollectorCall) : String → Option Nat :=
  calls.foldl CollectorCall.apply gauge

namespace DeadlockTracker

def initial (filter : List String) : DeadlockTracker := ⟨filter, [], ∅, ∅⟩

@[simp] theorem initial_filter (filter : List String) : (initial filter).filter = filter := rfl

/-- The polls of one cycle, in order. -/
def pollAll (d : DeadlockTracker) : List Poll → DeadlockTracker × List CollectorCall
  | [] => (d, [])
  | poll :: polls =>
    let (polled, first) := d.performDeadlockDetection poll
    let (final, rest) := polled.pollAll polls
    (final, first ++ rest)

/-- Modelled from the spec: the polling loop that drives a tracker is not under
src/. A cycle starts with an empty current scan and no flagged namespace, polls
every object, zeroes the namespaces that dropped out, and keeps a copy of the
current scan as the last one. -/
def pollCycle (d : DeadlockTracker) (polls : List Poll) : DeadlockTracker × List CollectorCall :=
  let (polled, calls) := pollAll { d with currentScan := ∅, flaggedNamespaces := [] } polls
  let zeroed := zeroOutPriorHitNamespacesThatAreNowEmpty polled.lastScan polled.currentScan
  let (lastScan, reset) := buildLastScanCopy polled.currentScan
  ({ polled with lastScan }, calls ++ zeroed ++ reset)

def runCycles (d : DeadlockTracker) (cycles : List (List Poll)) : DeadlockTracker :=
  cycles.foldl (fun d polls => (d.pollCycle polls).1) d

end DeadlockTracker

end PipelineServiceExporter.Collector
