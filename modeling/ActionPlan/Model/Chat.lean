import ActionPlan.Config.Basic
import ActionPlan.Error
import ActionPlan.Json.Printer
import ActionPlan.Json.Tree
import ActionPlan.Model.Address
import ActionPlan.Text.Blank

/-!
# Chats with a Model

A model is reached over HTTP at a chat endpoint. A request holds the two prompts as
messages and asks for the answer in one piece. The answer comes in the content of a
message, or, from an endpoint that completes texts, in the response.

## Main definitions

* `Chat.request`: The body of a request.
* `Chat.requestLine?`: The first line of a request.
* `Chat.answer`: The text in a response.
-/

namespace ActionPlan

namespace Chat

open Json (Value)

/-- The address of a server without slashes at its end. -/
def trimAddress (address : String) : String :=
  String.ofList (Text.dropEnd (· == '/') address.toList)

/-- The path of the chat endpoint below the address of a server. -/
def endpoint : String := "/api/chat"

/-- The first line of a request; none if the server has no proper address. -/
def requestLine? (config : ModelConfig) : Option String := do
  let target ← Address.target? (trimAddress config.address ++ endpoint)
  return "POST " ++ target ++ " HTTP/1.1"

/-- A message of a chat. -/
def message (role content : String) : Value :=
  .object [("content", .string content), ("role", .string role)]

/-- A temperature as a JSON value; null stands for one that is no number or infinite. -/
def temperatureValue : Binary64 → Value
  | .finite sign s e => .number (.binary (.finite sign s e))
  | _ => .null

/-- The body of a request, with its keys in ascending order. -/
def request (config : ModelConfig) (system user : String) : Value :=
  .object
    [ ("messages", .array [message "system" system, message "user" user]),
      ("model", .string config.model),
      ("options", .object [("temperature", temperatureValue config.temperature)]),
      ("stream", .bool false) ]

/-- The text in the body of a response: the content of its message if it has one, or else
    its response. -/
def content (body : Value) : Except ModelError String :=
  let found := (body.field? "message" >>= Value.field? "content") <|> body.field? "response"
  match found >>= Value.string? with
  | some text => .ok (String.ofList (Text.trim text.toList))
  | none => .error (.invalidResponse "missing 'message.content' field")

/-- The status of a response that has no body, whatever is sent behind it. -/
def noContent : Nat := 204

/-- The text in a response. -/
def answer (status : Nat) (body : String) : Except ModelError String :=
  if status < 200 || 300 ≤ status then .error (.status status)
  else
    match Value.ofText? (if status = noContent then "" else body) with
    | some v => content v
    | none => .error (.invalidResponse "Failed to parse JSON: error decoding response body")

end Chat

end ActionPlan
