import DevnetChaos.Proofs.Artifact.Store
import DevnetChaos.Proofs.Client.Completion
import DevnetChaos.Proofs.Duration.Reading
import DevnetChaos.Proofs.Enclave.BuildReport
import DevnetChaos.Proofs.Enclave.Convergence
import DevnetChaos.Proofs.Planner.Offset
import DevnetChaos.Proofs.Planner.Refusals
import DevnetChaos.Proofs.Run.Cancellation
import DevnetChaos.Proofs.Run.SuiteCourse
import DevnetChaos.Proofs.Run.Targets
import DevnetChaos.Proofs.Run.TestConduct
import DevnetChaos.Proofs.Run.TestStates
import DevnetChaos.Proofs.Schema.Experiment
import DevnetChaos.Proofs.ServiceName.Grammar
import DevnetChaos.Proofs.Simulation.BuildAgreement
import DevnetChaos.Proofs.Simulation.Mirror
import DevnetChaos.Proofs.Simulation.PlannedRun
import DevnetChaos.Proofs.Target.Selection
import DevnetChaos.Proofs.Topology.Agreement
import DevnetChaos.Proofs.Topology.Pairing
import DevnetChaos.Run.Trace
import DevnetChaos.Sample
import DevnetChaos.Schema.Platform
import DevnetChaos.Schema.Text
import DevnetChaos.Simulation.Session
import DevnetChaos.Proofs.Simulation.SubmissionScripts
import DevnetChaos.Proofs.Fault.Manifest
