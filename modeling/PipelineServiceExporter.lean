import PipelineServiceExporter.Collector.Objects
import PipelineServiceExporter.Collector.Gaps
import PipelineServiceExporter.Collector.Overhead
import PipelineServiceExporter.Collector.Deadlock
import PipelineServiceExporter.Collector.WaitTime
import PipelineServiceExporter.Cluster
import PipelineServiceExporter.Proofs.ThrottleScan
import PipelineServiceExporter.Proofs.GapTimeline
import PipelineServiceExporter.Proofs.GapOrder
import PipelineServiceExporter.Proofs.GapChain
import PipelineServiceExporter.Proofs.ReconcileContract
import PipelineServiceExporter.Proofs.ClusterRuns
import PipelineServiceExporter.Proofs.ClusterProvenance
import PipelineServiceExporter.Proofs.DeadlockCycles
import PipelineServiceExporter.Proofs.WaitTimes
import PipelineServiceExporter.Proofs.StuckGauge
