import ActionPlan.Main
import ActionPlan.Proofs.Planner.Graphs
import ActionPlan.Graph.Preview
import ActionPlan.Item.Duration
import ActionPlan.Model.Address
import ActionPlan.Model.Chat
import ActionPlan.Proofs.Planner.Safety
import ActionPlan.Proofs.Planner.Refined
import ActionPlan.Proofs.Path.Writing
import ActionPlan.Proofs.Planner.Composition
import ActionPlan.Proofs.Planner.Fallback
import ActionPlan.Proofs.Planner.UnsafeWording
import ActionPlan.Proofs.Instruction.Division
import ActionPlan.Proofs.Graph.RoundTrip
import ActionPlan.Proofs.Item.Decoding
import ActionPlan.Proofs.Path.Existing
import ActionPlan.Proofs.Path.Absolute
import ActionPlan.Proofs.Model.Answer
import ActionPlan.Proofs.Planner.FileReading
import ActionPlan.Proofs.Plan.Pauses
import ActionPlan.Proofs.Plan.Completion
import ActionPlan.Proofs.Plan.Targets
import ActionPlan.Proofs.Plan.Keystrokes
import ActionPlan.Proofs.Plan.Acceptance
import ActionPlan.Proofs.Plan.Repetition
import ActionPlan.Proofs.Graph.Partition
import ActionPlan.Proofs.Instruction.FileCreation
import ActionPlan.Proofs.Instruction.Remnants
import ActionPlan.Proofs.Instruction.DirectPlan
import ActionPlan.Proofs.Instruction.FileNames
import ActionPlan.Proofs.Planner.Bounds
import ActionPlan.Proofs.Instruction.Effort
