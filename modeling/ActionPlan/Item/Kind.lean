/-!
# Kinds of Plan Items

A plan tells an executor what to do and what to look at. The executor works in three
contexts, knows six kinds of action and five kinds of observation, and nothing else:
the names below are the closed vocabulary of the wire format.

An action is causal if it changes something. Waiting and focusing a window do not, so
they are helpers that need no ground in the instruction.

## Main definitions

* `Context`: Where an item takes effect.
* `ActionKind`: What an action does.
* `ObservationKind`: What an observation looks at.
* `ActionKind.isCausal`: The action changes something.
-/

namespace ActionPlan

/-- Where an item takes effect. -/
inductive Context
  | desktop
  | web
  | file
  deriving DecidableEq

namespace Context

/-- The name of a context. -/
def name : Context → String
  | .desktop => "desktop"
  | .web => "web"
  | .file => "file"

/-- All contexts. -/
def all : List Context :=
  [.desktop, .web, .file]

/-- The context with a name, which has to match exactly. -/
def ofName? (s : String) : Option Context :=
  all.find? fun context => context.name == s

end Context

/-- What an action does. -/
inductive ActionKind
  | launchApp
  | typeText
  | closeApp
  | focusWindow
  | wait
  | clickControl
  deriving DecidableEq

namespace ActionKind

/-- The name of an action. -/
def name : ActionKind → String
  | .launchApp => "launch_app"
  | .typeText => "type_text"
  | .closeApp => "close_app"
  | .focusWindow => "focus_window"
  | .wait => "wait"
  | .clickControl => "click_control"

/-- All kinds of action. -/
def all : List ActionKind :=
  [.launchApp, .typeText, .closeApp, .focusWindow, .wait, .clickControl]

/-- The action with a name, which has to match exactly. -/
def ofName? (s : String) : Option ActionKind :=
  all.find? fun kind => kind.name == s

/-- The action changes something; waiting and focusing a window do not. -/
def isCausal : ActionKind → Bool
  | .wait => false
  | .focusWindow => false
  | _ => true

end ActionKind

/-- What an observation looks at. -/
inductive ObservationKind
  | readText
  | queryElement
  | vision
  | checkAppState
  | visionBufferRead
  deriving DecidableEq

namespace ObservationKind

/-- The name of an observation. -/
def name : ObservationKind → String
  | .readText => "read_text"
  | .queryElement => "query_element"
  | .vision => "vision"
  | .checkAppState => "check_app_state"
  | .visionBufferRead => "vision_buffer_read"

/-- All kinds of observation. -/
def all : List ObservationKind :=
  [.readText, .queryElement, .vision, .checkAppState, .visionBufferRead]

/-- The observation with a name, which has to match exactly. -/
def ofName? (s : String) : Option ObservationKind :=
  all.find? fun kind => kind.name == s

end ObservationKind

end ActionPlan
