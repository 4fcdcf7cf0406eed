import RStepper.Json.Writer

/-!
The messages of the debug adapter protocol: requests of the client, responses to them, and events.
Every message carries the number its sender gave it.
-/

namespace RStepper.Adapter

/-- What a message says. -/
inductive Content where
  | request (command : String) (arguments : Option Json)
  | response (answered : Nat) (success : Bool) (command : String) (message : Option String)
    (body : Option Json)
  | event (name : String) (body : Option Json)
  deriving Repr, Inhabited

/-- A message: its number, its type as it is written, and what it says. -/
structure Message where
  number : Nat
  type : String
  content : Content
  deriving Repr, Inhabited

/-- The type that a content is sent as. -/
def Content.type : Content → String
  | .request .. => "request"
  | .response .. => "response"
  | .event .. => "event"

/-- A content as its sender numbers it. -/
def Content.numbered (content : Content) (number : Nat) : Message :=
  ⟨number, content.type, content⟩

def Message.isRequest (message : Message) : Bool :=
  message.type == "request"

/-- The fields of a content, in the order they are written. What is absent is written as null. -/
def Content.fields : Content → List (String × Json)
  | .request command arguments =>
    [("command", .str command), ("arguments", arguments.getD .null)]
  | .response answered success command message body =>
    [("request_seq", .int answered), ("success", .bool success), ("command", .str command),
      ("message", .ofOption .str message), ("body", body.getD .null)]
  | .event name body => [("event", .str name), ("body", body.getD .null)]

def Message.toJson (message : Message) : Json :=
  .obj (("seq", .int message.number) :: ("type", .str message.type) :: message.content.fields)

/-- A field of a message is read once: a key that stands there twice spoils it. -/
def once? (fields : List (String × Json)) (key : String) : Option (Option Json) :=
  match fields.filter (·.1 == key) with
  | [] => some none
  | [(_, value)] => some (some value)
  | _ => none

def required? (fields : List (String × Json)) (key : String) (read : Json → Option α) : Option α :=
  (once? fields key).bind (·.bind read)

def optional? (fields : List (String × Json)) (key : String) (read : Json → Option α) :
    Option (Option α) :=
  (once? fields key).bind fun
    | none => some none
    | some .null => some none
    | some value => (read value).map some

def anyValue? (value : Json) : Option Json :=
  some value.ordered

namespace Content

def requestOf? (fields : List (String × Json)) : Option Content := do
  return .request (← required? fields "command" Json.string?)
    (← optional? fields "arguments" anyValue?)

def responseOf? (fields : List (String × Json)) : Option Content := do
  return .response (← required? fields "request_seq" Json.counter?)
    (← required? fields "success" Json.bool?) (← required? fields "command" Json.string?)
    (← optional? fields "message" Json.string?) (← optional? fields "body" anyValue?)

def eventOf? (fields : List (String × Json)) : Option Content := do
  return .event (← required? fields "event" Json.string?) (← optional? fields "body" anyValue?)

/-- What some fields say: a request if they can be read as one, or else a response, or else an
event. Fields with other keys are passed over. -/
def ofFields? (fields : List (String × Json)) : Option Content :=
  (requestOf? fields).or ((responseOf? fields).or (eventOf? fields))

def ofJson? : Json → Option Content
  | .obj fields => ofFields? fields
  | _ => none

end Content

/-- A message read from JSON. Its type is taken as it is written, whatever the message says. -/
def Message.ofJson? : Json → Option Message
  | .obj fields => do
    return ⟨← required? fields "seq" Json.counter?, ← required? fields "type" Json.string?,
      ← Content.ofFields? fields⟩
  | _ => none

end RStepper.Adapter
