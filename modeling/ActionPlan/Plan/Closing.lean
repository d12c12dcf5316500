import ActionPlan.Error
import ActionPlan.Item.Basic

/-!
# Closing Apps

An action that closes an app may come without a target. The apps it can mean are those
that the plan launched or focused before it. If that is a single one, it is meant; if
there is none, or a choice, only the caller can tell, and gets the candidates with the
most recently introduced one last.

Closing is also what can destroy typed text. A close directly behind typing gets a wait
of two seconds in front of it, and all closes are then moved behind everything else.

## Main definitions

* `Plan.resolveCloses`: Closes with their targets filled in.
* `Plan.pauseBeforeCloses`: Waits between typing and closing.
* `Plan.closesLast`: Closes behind everything else.
* `Plan.requireCloseTargets`: The check that no target is left open.
-/

namespace ActionPlan

namespace Item

/-- The item closes an app. -/
def isClose (item : Item) : Bool :=
  item.isKind .closeApp

/-- The app that an item introduces, by launching it or by focusing its window. -/
def introduces? : Item → Option String
  | .action a =>
    if a.kind = .launchApp ∨ a.kind = .focusWindow then a.target else none
  | .observation _ => none

/-- The item closes an app but does not say which. -/
def isOpenClose (item : Item) : Bool :=
  item.isClose && item.target?.isNone

/-- The item with its target filled in, if it is an action. -/
def withTarget (item : Item) (target : String) : Item :=
  match item with
  | .action a => .action (a.withTarget target)
  | .observation o => .observation o

end Item

namespace Plan

/-- The candidates with one more, unless it is among them. -/
def addCandidate (candidates : List String) : Option String → List String
  | some app => if app ∈ candidates then candidates else candidates ++ [app]
  | none => candidates

/-- The closes resolved, given the apps introduced before. -/
def resolveClosesFrom (candidates : List String) : Plan → Except PlanError Plan
  | [] => .ok []
  | item :: items =>
    if item.isOpenClose then
      match candidates with
      | [app] => do
        let rest ← resolveClosesFrom candidates items
        return item.withTarget app :: rest
      | _ => .error (.needsClarification candidates)
    else do
      let rest ← resolveClosesFrom (addCandidate candidates item.introduces?) items
      return item :: rest

/-- The closes without a target get the one app that was introduced before them. -/
def resolveCloses (plan : Plan) : Except PlanError Plan :=
  resolveClosesFrom [] plan

/-- A wait of two seconds between typing and a close directly behind it. -/
def pauseBeforeCloses : Plan → Plan
  | [] => []
  | [item] => [item]
  | item :: next :: items =>
    if item.isKind .typeText && next.isClose then
      item :: .action (.waitFor "2.0") :: pauseBeforeCloses (next :: items)
    else item :: pauseBeforeCloses (next :: items)

/-- All closes behind everything else, each group in its order. -/
def closesLast (plan : Plan) : Plan :=
  plan.filter (!·.isClose) ++ plan.filter (·.isClose)

/-- The plan, if every close says what it closes. -/
def requireCloseTargets (plan : Plan) : Except PlanError Plan :=
  if plan.any (·.isOpenClose) then
    .error (.ambiguousInstruction "'close_app' action has no target and could not be repaired")
  else .ok plan

end Plan

end ActionPlan
