import ActionPlan.Item.Basic
import ActionPlan.Text.Excerpt

/-!
# Wording of Steps

Each item is announced by what it is meant to do and by what is expected to happen.
Launching something whose name starts like a web address counts as navigating to it.
A typed text is shown by its first thirty characters.

## Main definitions

* `Item.intent`: What the item is meant to do.
* `Item.outcome`: What is expected to happen.
-/

namespace ActionPlan

/-- The target is announced as a web address. -/
def isAddress (target : String) : Bool :=
  "http".toList.isPrefixOf target.toList

/-- What the item is meant to do. -/
def Item.intent : Item → String
  | .action a =>
    let target := a.target.getD ""
    match a.kind with
    | .launchApp =>
      if isAddress target then "Navigate to " ++ target
      else "Launch " ++ target ++ " application"
    | .typeText => "Type text '" ++ Text.excerpt 30 (a.text.getD "") ++ "'"
    | .focusWindow => "Focus " ++ target ++ " window"
    | .closeApp => "Close " ++ target ++ " application"
    | .wait => "Wait " ++ target ++ " seconds"
    | .clickControl => "Execute " ++ a.kind.name
  | .observation o =>
    match o.kind with
    | .readText => "Read text from " ++ o.target
    | .queryElement => "Query element " ++ o.target
    | kind => "Observe " ++ kind.name

/-- What is expected to happen. -/
def Item.outcome : Item → String
  | .action a =>
    let target := a.target.getD ""
    match a.kind with
    | .launchApp =>
      if isAddress target then "Browser navigates to " ++ target
      else target ++ " window appears"
    | .typeText => "Text appears in focused element"
    | .focusWindow => target ++ " window becomes active"
    | .closeApp => target ++ " window closes"
    | .wait => "Pause for " ++ target ++ " seconds"
    | .clickControl => "Action completes successfully"
  | .observation _ => "Data retrieved successfully"

end ActionPlan
