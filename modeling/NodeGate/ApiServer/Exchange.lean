import NodeGate.ApiServer.Target
import NodeGate.Fault
import NodeGate.Json.Decode
import NodeGate.Json.Parser

/-!
# Exchanges with the API server

A request names a method, a target and a document; the reply has a status and a
text. A reply of an error status is a refusal, described by the text if that is a
document of the form of a failure and by the status otherwise. The text of any
other reply is the document that was asked for, read as it is written.
-/

namespace NodeGate.ApiServer

open Json

/-- A request. -/
structure Request where
  method : String
  target : Target
  /-- The form of the document, if there is one. -/
  contentType : Option String
  body : Json

/-- What comes back. -/
inductive Reply where
  /-- No connection. -/
  | refused
  /-- A status and a text. -/
  | answered (status : Nat) (text : String)

/-- The form of documents that are sent whole. -/
def plainDocument : String := "application/json"

/-- The form of merge patches. -/
def mergePatch : String := "application/merge-patch+json"

/-- The target of an address. -/
def targetOf (address : String) : Except Fault Target :=
  match Target.ofAddress? address with
  | some target => .ok target
  | none => .error (.unanswered "the address of a request is not well-formed")

namespace Request

/-- A request without a document. -/
def get (address : String) : Except Fault Request := do
  return { method := "GET", target := ← targetOf address, contentType := none, body := .null }

/-- A request with a document. Its address ends in a query, if only an empty
one. -/
def send (method contentType address : String) (body : Json) : Except Fault Request := do
  return {
    method
    target := ← targetOf (address ++ "?")
    contentType := some contentType
    body }

/-- A request that adds an object to a collection. -/
def post : String → Json → Except Fault Request :=
  send "POST" plainDocument

/-- A request that changes an object by a merge patch. -/
def patch : String → Json → Except Fault Request :=
  send "PATCH" mergePatch

/-- A request that deletes an object under the given conditions. -/
def delete : String → Json → Except Fault Request :=
  send "DELETE" plainDocument

end Request

/-- The name of an object as a part of an address. -/
def namePart (name : String) : Except Fault String :=
  if name.isEmpty then .error (.unanswered "a request needs the name of its object")
  else .ok name

/-- Decodes a failure document. -/
def failureOf? (json : Json) : Option ApiFailure := do
  let fields ← record? ["status", "message", "reason", "code"] json
  some {
    status := ← required "status" asText fields
    message := ← orDefault "message" "" asText fields
    reason := ← orDefault "reason" "" asText fields
    code := ← required "code" (asNat 65535) fields }

/-- The failure that an error status stands for without a failure document. -/
def bareFailure (status : Nat) : ApiFailure where
  reason := "Failed to parse error data"
  code := status

/-- Whether a status is one of an error. -/
def isErrorStatus (status : Nat) : Bool :=
  400 ≤ status && status < 600

/-- The fault of a reply that cannot be read. -/
def unreadable : Fault :=
  .unanswered "the reply of the API server cannot be read"

/-- What a decoder makes of a text. -/
def decodeText? {α : Type} (decode : Json → Option α) (text : String) : Option α :=
  match Json.read text with
  | .ok json => decode json
  | .error _ => none

namespace Reply

/-- The failure that a reply tells of. -/
def failure? : Reply → Option ApiFailure
  | .refused => none
  | .answered status text =>
    if isErrorStatus status then
      some ((decodeText? failureOf? text).getD (bareFailure status))
    else none

/-- The object that a reply gives. -/
def read {α : Type} (decode : Json → Option α) (reply : Reply) : Except Fault α :=
  match reply with
  | .refused => .error (.unanswered "the API server refused the connection")
  | .answered _ text =>
    match reply.failure? with
    | some failure => .error (Fault.ofFailure failure)
    | none =>
      match decodeText? decode text with
      | some value => .ok value
      | none => .error unreadable

/-- The object that a reply gives, or none if it says that there is none. -/
def readIfFound {α : Type} (decode : Json → Option α) (reply : Reply) :
    Except Fault (Option α) :=
  match reply.failure? with
  | some failure =>
    if failure.reason = "NotFound" then .ok none else .error (Fault.ofFailure failure)
  | none =>
    match reply.read decode with
    | .ok value => .ok (some value)
    | .error fault => .error fault

end Reply

end NodeGate.ApiServer
