import ActionPlan.Graph.Basic
import ActionPlan.Text.Excerpt

/-!
# Rendering for a Terminal

Graphs are shown on a terminal with or without colour. A styled piece starts with the
codes of its style and ends with a reset; a reset inside the piece, which can come in
with a target, is followed by the codes again, so that the style lasts to the end.

## Main definitions

* `Style`: The codes of a styled piece.
* `Graph.render`: One graph, numbered among several.
* `renderGraphs`: Several graphs.
-/

namespace ActionPlan

/-- The styles of the pieces on a terminal. -/
inductive Style
  | bold
  | dimmed
  | green
  | cyan
  | red
  | boldBlue
  | boldMagenta
  | boldYellow
  | boldRed

namespace Style

/-- The codes of a style. -/
def codes : Style → String
  | .bold => "1"
  | .dimmed => "2"
  | .green => "32"
  | .cyan => "36"
  | .red => "31"
  | .boldBlue => "1;34"
  | .boldMagenta => "1;35"
  | .boldYellow => "1;33"
  | .boldRed => "1;31"

/-- What turns a style on. -/
def start (style : Style) : List Char :=
  "\x1b[".toList ++ style.codes.toList ++ ['m']

/-- What turns every style off. -/
def reset : List Char :=
  "\x1b[0m".toList

/-- The text with a style turned on again behind every reset in it. -/
def renew (style : Style) : List Char → List Char
  | '\x1b' :: '[' :: '0' :: 'm' :: text => reset ++ style.start ++ renew style text
  | c :: text => c :: renew style text
  | [] => []

/-- A piece of text in a style, or plain if colour is off. -/
def paint (color : Bool) (style : Style) (text : String) : String :=
  if color then String.ofList (style.start ++ style.renew text.toList ++ reset) else text

end Style

/-- The badge of a context. -/
def contextBadge (color : Bool) : Option Context → String
  | some .desktop => Style.boldBlue.paint color "[desktop]"
  | some .web => Style.boldMagenta.paint color "[web]"
  | some .file => Style.boldYellow.paint color "[file]"
  | none => Style.dimmed.paint color "[empty]"

/-- The name of an item's type, in the colour of actions or of observations. -/
def typeBadge (color : Bool) (item : Item) : String :=
  (if item.isAction then Style.green else Style.cyan).paint color item.typeName

/-- A number, set to the right in two places if it is shorter. -/
def twoPlaces (n : Nat) : String :=
  if n < 10 then " " ++ toString n else toString n

namespace Graph

/-- The lines of one step. -/
def renderStep (color : Bool) (step : Step) : List String :=
  let approval :=
    if step.requiresApproval then " " ++ Style.boldRed.paint color "REQUIRES APPROVAL" else ""
  [ "  " ++ twoPlaces step.id ++ ". " ++ typeBadge color step.item ++ approval,
    "      " ++ step.intent,
    "      " ++ Style.dimmed.paint color "→" ++ " " ++
      Style.dimmed.paint color step.expectedOutcome ] ++
  (match step.item.text? with
    | some text => ["      text: '" ++ Text.excerpt 50 text ++ "'"]
    | none => [])

/-- One graph, numbered `index` of `total`. -/
def render (color : Bool) (index total : Nat) (graph : Graph) : String :=
  "\n".intercalate
    ([ Style.bold.paint color ("Plan " ++ toString index ++ "/" ++ toString total) ++ " " ++
        contextBadge color graph.context? ++ " " ++ graph.instruction,
       "  " ++ toString graph.steps.length ++ " steps: " ++ toString graph.totalActions ++
        " actions, " ++ toString graph.totalObservations ++ " observations" ] ++
     graph.steps.flatMap (renderStep color))

end Graph

/-- Several graphs, numbered from one and set apart by an empty line. -/
def renderGraphs (color : Bool) (graphs : List Graph) : String :=
  "\n\n".intercalate (graphs.mapIdx fun index graph => graph.render color (index + 1) graphs.length)

end ActionPlan
