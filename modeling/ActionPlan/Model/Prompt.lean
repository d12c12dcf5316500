import ActionPlan.Decimal.Layout
import ActionPlan.Model.Finding

/-!
# Prompts

A model is asked with two texts. The system prompt tells it what a plan is, with the
greatest number of items it may have; it does not depend on the instruction. The user
prompt holds the instruction and, if there are any, the findings of earlier observations,
one a line.

## Main definitions

* `systemPrompt`: The standing part.
* `userPrompt`: The part for one instruction.
-/

namespace ActionPlan

namespace Prompt

/-- Confidences are written without exponent and without a fraction of zero. -/
def confidenceLayout : Decimal.Layout where
  positional := none
  pointZero := false
  plusSign := false
  tie := .upward

/-- What was seen with at most this confidence has to be confirmed by a human. -/
def lowConfidence : String := "0.7"

/-! ### The system prompt -/

/-- What the model is. -/
def opening : List String :=
  [ "You are an action planner for a desktop automation agent with desktop, web and " ++
      "file contexts." ]

/-- The form of an answer. -/
def outputContract (maxActions : Nat) : List String :=
  [ "### Output contract",
    "- Output ONLY a JSON array of objects. No explanations, no markdown, no code " ++
      "fences.",
    "- Every element is a JSON object with named keys. Never emit bare values.",
    "- At most " ++ toString maxActions ++ " items per plan.",
    "- Special keys are written inside string values only, e.g. \"\x7bENTER\x7d\".",
    "- If the instruction is ambiguous (\"do it\", \"fix the thing\") or unsafe, " ++
      "output an empty array: []" ]

/-- What an answer may hold. -/
def contentRules : List String :=
  [ "### Content rules",
    "1. Only type what the user explicitly asked for. Never invent filler text.",
    "2. Opening an app does not imply typing anything into it.",
    "3. Saving a file (\"save as name.txt\") is always four separate actions:",
    "   - \x7b\"action_type\": \"type_text\", \"context\": \"desktop\", \"text\": " ++
      "\"^s\"\x7d",
    "   - \x7b\"action_type\": \"type_text\", \"context\": \"desktop\", \"text\": " ++
      "\"^a\x7bBACKSPACE\x7d\"\x7d",
    "   - \x7b\"action_type\": \"type_text\", \"context\": \"desktop\", \"text\": " ++
      "\"name.txt\"\x7d",
    "   - \x7b\"action_type\": \"type_text\", \"context\": \"desktop\", \"text\": " ++
      "\"\x7bENTER\x7d\"\x7d",
    "   Never merge them into one string such as \"^sname.txt\x7bENTER\x7d\".",
    "4. Save before closing. close_app always comes after every save or type step." ]

/-- The fields of an action. -/
def fieldRules : List String :=
  [ "### Action schema",
    "- \"action_type\": one of launch_app, type_text, close_app, focus_window, wait, " ++
      "click_control",
    "- \"context\": one of desktop, web, file",
    "- \"target\": required for launch_app, focus_window, wait, click_control and " ++
      "close_app",
    "- \"text\": required for type_text",
    "- \"verify\": optional \x7b\"requires_approval\": true, \"reason\": \"...\"\x7d " ++
      "for low-confidence steps",
    "- Never include coordinates. Coordinate input is not supported." ]

/-- An action of each kind in each context. -/
def contextExamples : List String :=
  [ "### Actions by context",
    "DESKTOP",
    "  \x7b\"action_type\": \"launch_app\", \"context\": \"desktop\", \"target\": " ++
      "\"notepad.exe\"\x7d",
    "  \x7b\"action_type\": \"type_text\", \"context\": \"desktop\", \"text\": \"hello " ++
      "world\"\x7d",
    "  \x7b\"action_type\": \"wait\", \"context\": \"desktop\", \"target\": \"2.0\"\x7d",
    "  \x7b\"action_type\": \"click_control\", \"context\": \"desktop\", \"target\": " ++
      "\"Save\"\x7d",
    "  \x7b\"action_type\": \"focus_window\", \"context\": \"desktop\", \"target\": " ++
      "\"Notepad\"\x7d",
    "  \x7b\"action_type\": \"close_app\", \"context\": \"desktop\", \"target\": " ++
      "\"notepad.exe\"\x7d",
    "WEB",
    "  \x7b\"action_type\": \"launch_app\", \"context\": \"web\", \"target\": " ++
      "\"https://example.com\"\x7d",
    "  \x7b\"action_type\": \"type_text\", \"context\": \"web\", \"target\": " ++
      "\"input[name='q']\", \"text\": \"hello\"\x7d",
    "  \x7b\"action_type\": \"click_control\", \"context\": \"web\", \"target\": " ++
      "\"button[type='submit']\"\x7d",
    "FILE",
    "  \x7b\"action_type\": \"type_text\", \"context\": \"file\", \"target\": " ++
      "\"notes.txt\", \"text\": \"file content\"\x7d" ]

/-- The one way to create a file. -/
def fileCreationRule : List String :=
  [ "### File creation (non-negotiable)",
    "Creating a file is EXACTLY ONE action: type_text with context \"file\", a " ++
      "relative target path and the content as text.",
    "Never add launch_app, never open an editor, never add a second file action.",
    "  \"create file notes.txt with text hello\"",
    "  -> [\x7b\"action_type\": \"type_text\", \"context\": \"file\", \"target\": " ++
      "\"notes.txt\", \"text\": \"hello\"\x7d]" ]

/-- The observations. -/
def observationRules : List String :=
  [ "### Observations (read-only)",
    "  \x7b\"observation_type\": \"read_text\", \"context\": \"web\", \"target\": " ++
      "\"h1\"\x7d",
    "  \x7b\"observation_type\": \"read_text\", \"context\": \"file\", \"target\": " ++
      "\"notes.txt\"\x7d",
    "  \x7b\"observation_type\": \"query_element\", \"context\": \"web\", \"target\": " ++
      "\"#search\"\x7d",
    "read_text is ONLY an observation_type, never an action_type.",
    "Reading a file produces observations only, no actions." ]

/-- What to do with doubtful sights. -/
def visionRules : List String :=
  [ "### Vision context",
    "If the plan relies on vision output with confidence <= " ++ lowConfidence ++ ", add",
    "\"verify\": \x7b\"requires_approval\": true, \"reason\": \"Action based on " ++
      "low-confidence vision: <details>\"\x7d",
    "to the affected action. Never click blindly on uncertain vision results." ]

/-- A plan that opens an app and types. -/
def launchExample : List String :=
  [ "### Examples",
    "\"open notepad and type hello\"",
    "[\x7b\"action_type\": \"launch_app\", \"context\": \"desktop\", \"target\": " ++
      "\"notepad.exe\"\x7d, \x7b\"action_type\": \"type_text\", \"context\": " ++
      "\"desktop\", \"text\": \"hello\"\x7d]" ]

/-- A plan that opens a page and reads. -/
def pageExample : List String :=
  [ "\"open example.com and read the heading\"",
    "[\x7b\"action_type\": \"launch_app\", \"context\": \"web\", \"target\": " ++
      "\"https://example.com\"\x7d, \x7b\"observation_type\": \"read_text\", " ++
      "\"context\": \"web\", \"target\": \"h1\"\x7d]" ]

/-- A plan that saves and closes. -/
def saveExample : List String :=
  [ "\"open notepad, type hello, save as test.txt, close\"",
    "[\x7b\"action_type\": \"launch_app\", \"context\": \"desktop\", \"target\": " ++
      "\"notepad.exe\"\x7d, \x7b\"action_type\": \"type_text\", \"context\": " ++
      "\"desktop\", \"text\": \"hello\"\x7d, \x7b\"action_type\": \"type_text\", " ++
      "\"context\": \"desktop\", \"text\": \"^s\"\x7d, \x7b\"action_type\": " ++
      "\"type_text\", \"context\": \"desktop\", \"text\": \"^a\x7bBACKSPACE\x7d\"\x7d, " ++
      "\x7b\"action_type\": \"type_text\", \"context\": \"desktop\", \"text\": " ++
      "\"test.txt\"\x7d, \x7b\"action_type\": \"type_text\", \"context\": \"desktop\", " ++
      "\"text\": \"\x7bENTER\x7d\"\x7d, \x7b\"action_type\": \"close_app\", \"context\": " ++
      "\"desktop\", \"target\": \"notepad.exe\"\x7d]" ]

/-- The call to answer. -/
def request : List String :=
  [ "Now generate the plan." ]

/-- The sections of the system prompt. -/
def sections (maxActions : Nat) : List (List String) :=
  [ opening, outputContract maxActions, contentRules, fieldRules, contextExamples,
    fileCreationRule, observationRules, visionRules, launchExample, pageExample, saveExample,
    request ]

/-! ### The user prompt -/

/-- The line of a finding. A finding with a confidence was seen on the screen. -/
def findingLine (f : Finding) : String :=
  let kind := f.observation.kind.name
  let target := f.observation.target
  let result := f.result.getD "<no result>"
  match f.status, f.confidence with
  | .notFound, _ => "- [" ++ kind ++ " NOT FOUND]: " ++ target ++ "\n"
  | .failed, _ =>
    "- [" ++ kind ++ " FAILED]: " ++ target ++ " (" ++ f.error.getD "unknown error" ++ ")\n"
  | .success, some confidence =>
    "- [VISION (Confidence: " ++ confidenceLayout.text confidence ++ ")]: " ++ result ++ "\n"
  | .success, none => "- [" ++ kind ++ "]: " ++ result ++ "\n"

/-- The findings as a section of the user prompt; nothing without findings. -/
def findingSection (findings : List Finding) : String :=
  if findings.isEmpty then ""
  else
    "\nCONTEXT FROM OBSERVATIONS:\n" ++ String.join (findings.map findingLine) ++
      "\nUSE THIS CONTEXT to inform your plan. If Vision confidence is low (<=" ++
      lowConfidence ++ ") and uncorroborated, you MUST act cautiously.\n"

end Prompt

/-- The standing part of a prompt, for plans of at most so many items. -/
def systemPrompt (maxActions : Nat) : String :=
  "\n\n".intercalate ((Prompt.sections maxActions).map ("\n".intercalate ·))

/-- The part of a prompt for one instruction. -/
def userPrompt (instruction : String) (findings : List Finding) : String :=
  "Instruction: " ++ instruction ++ "\n" ++ Prompt.findingSection findings ++
    "\nGenerate the action plan:"

end ActionPlan
