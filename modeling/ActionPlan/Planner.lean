import ActionPlan.Config.Basic
import ActionPlan.Graph.Segment
import ActionPlan.Instruction.Phrasebook
import ActionPlan.Instruction.Route
import ActionPlan.Instruction.Subtask
import ActionPlan.Model.Answer
import ActionPlan.Model.Prompt
import ActionPlan.Plan.Check
import ActionPlan.Plan.Repair
import ActionPlan.Plan.Request

/-!
# The Planner

A planner turns an instruction into a plan, and a larger instruction into graphs.

What becomes of one instruction is an `Attempt`. Either it is settled without a model, or
it asks the model once and the answer settles it; there is no third case, so no attempt
asks twice. The attempt itself is a value. Running it takes a function that answers
requests, in any monad, so that the same planner works with a server, with a script of
answers, and with answers that are merely assumed.

A plan that was generated, in whichever way, is finally held against the rule for paths.
A file outside turns the whole plan into a refusal. A refusal is an empty plan, and one
refused subtask refuses the instruction.

## Main definitions

* `Planner`: A configuration, whether there is a model, and a rule for paths.
* `Attempt`: What becomes of one instruction.
* `Planner.attempt`: The attempt at an instruction.
* `Planner.createPlan`: An attempt, run.
* `Planner.createGraphs`: The graphs of an instruction.
-/

namespace ActionPlan

/-- A question to a model. -/
structure Request where
  system : String
  user : String
  deriving DecidableEq

/-- What a model has to say. -/
abbrev Reply := Except ModelError String

/-- A configuration, whether there is a model to ask, and a rule for paths. -/
structure Planner where
  config : Config
  hasClient : Bool
  rule : PathRule

/-- What becomes of one instruction: a result, or a question whose answer is the result. -/
inductive Attempt
  | settled (result : Except PlanError Plan)
  | ask (request : Request) (finish : Reply → Except PlanError Plan)

/-- The result of an attempt, with a function that answers requests. -/
def Attempt.run {m : Type → Type} [Monad m] (client : Request → m Reply) :
    Attempt → m (Except PlanError Plan)
  | .settled result => pure result
  | .ask request finish => return finish (← client request)

namespace Planner

/-- The model is asked, as there is one and the configuration wants it. -/
def usesModel (planner : Planner) : Bool :=
  planner.hasClient && planner.config.planner.useModel

/-- The greatest number of items in a plan. -/
def maxItems (planner : Planner) : Nat :=
  planner.config.planner.maxActions

/-- The limits to splitting an instruction. -/
def limits (planner : Planner) : Instruction.Limits :=
  ⟨planner.config.planner.maxActions, planner.config.planner.maxDepth⟩

/-- A check as a step of planning. -/
def checking {α : Type} : Except PlanFault α → Except PlanError α
  | .ok a => .ok a
  | .error fault => .error fault.toPlanError

/-- The plan of the phrasebook, with its saves completed. -/
def phrasebookPlan (planner : Planner) (instruction : String) : Except PlanError Plan := do
  let plan ← Phrasebook.plan instruction
  let plan := Plan.completeSaves plan instruction
  checking (plan.checkCount planner.maxItems)
  return plan

/-- A plan that the model proposed, reduced to what was asked for, repaired and checked. -/
def refine (planner : Planner) (instruction : String) (proposed : Plan) :
    Except PlanError Plan := do
  let plan ← (proposed.keepRequested instruction).repair instruction
  checking (plan.validate instruction planner.maxItems)

/-- What the model proposed, if its reply holds a plan. -/
def proposed (planner : Planner) : Reply → Except PlanError Plan
  | .ok text => Answer.plan text planner.maxItems
  | .error e => .error (.model e)

/-- The plan that follows from the model's reply. Where the model failed to produce one, the
    phrasebook stands in if the configuration says so; a plan that was produced and then
    rejected stays rejected. -/
def planFromReply (planner : Planner) (instruction : String) (reply : Reply) :
    Except PlanError Plan :=
  match planner.proposed reply with
  | .ok plan => planner.refine instruction plan
  | .error e =>
    if e.isGeneratorFailure && planner.config.onFailure == .deterministic then
      planner.phrasebookPlan instruction
    else .error e

/-- The item may be part of a plan: it is no file item, or its target is inside. -/
def permits (planner : Planner) (item : Item) : Bool :=
  match item.target? with
  | some target => item.context != .file || (planner.rule target).isOk
  | none => true

/-- The plan if all its files are inside, and otherwise the empty plan. -/
def confine (planner : Planner) (plan : Plan) : Plan :=
  if plan.all planner.permits then plan else []

/-- The question that an instruction comes with. -/
def question (planner : Planner) (instruction : String) (findings : List Finding) : Request :=
  ⟨systemPrompt planner.maxItems, userPrompt instruction findings⟩

/-- The attempt of a generator at an instruction. -/
def generate (planner : Planner) (instruction : String) (findings : List Finding) : Attempt :=
  if planner.usesModel then
    .ask (planner.question instruction findings) fun reply =>
      (planner.planFromReply instruction reply).map planner.confine
  else .settled ((planner.phrasebookPlan instruction).map planner.confine)

/-- The attempt at an instruction: the direct route if there is one, then the screening, then
    a generator. -/
def attempt (planner : Planner) (instruction : String) (findings : List Finding) : Attempt :=
  match Instruction.route planner.rule instruction with
  | .direct plan => .settled (.ok plan)
  | .rejected _ => .settled (.ok [])
  | .generate =>
    match Instruction.screen instruction with
    | .error e => .settled (.error e)
    | .ok (.rejected _) => .settled (.ok [])
    | .ok _ => planner.generate instruction findings

variable {m : Type → Type} [Monad m]

/-- The plan of an instruction. An empty one is a refusal. -/
def createPlan (planner : Planner) (client : Request → m Reply) (instruction : String)
    (findings : List Finding) : m (Except PlanError Plan) :=
  (planner.attempt instruction findings).run client

/-- The graphs of the tasks from the given index on, behind those of the tasks before. The
    first task without a plan ends the work, and so does one that is refused. -/
def graphsOfTasks (planner : Planner) (client : Request → m Reply) (findings : List Finding)
    (total : Nat) : Nat → List Graph → List String → m (Except PlanError (List Graph))
  | _, done, [] => return .ok done
  | index, done, task :: tasks => do
    match ← planner.createPlan client task findings with
    | .error e => return .error e
    | .ok [] => return .ok []
    | .ok plan =>
      planner.graphsOfTasks client findings total (index + 1)
        (done ++ Graph.segments task plan index total) tasks

/-- The graphs of an instruction: those of its subtasks, one after the other. -/
def createGraphs (planner : Planner) (client : Request → m Reply) (instruction : String)
    (findings : List Finding) : m (Except PlanError (List Graph)) :=
  match Instruction.subtasks planner.limits instruction with
  | .error e => return .error e
  | .ok tasks => planner.graphsOfTasks client findings tasks.length 0 [] tasks

end Planner

end ActionPlan
