import NodeGate.Admission.Decision
import NodeGate.Json.Printer
import NodeGate.Text.Base64

/-!
# Admission reviews

The envelope in which the API server asks for a decision and gets the answer. A
request that cannot be decided on is denied as malformed. What a document has to be to
be that of a pod is left to a reader of pods: less is kept of a pod than its document
may hold, and a reader may ask more of the document than of what is kept.
-/

namespace NodeGate.Admission

open Json

/-- What a request is about to do. -/
inductive Operation where
  | create
  | update
  | delete
  | connect
deriving DecidableEq, Repr

/-- A request for a decision. -/
structure Request where
  uid : String
  /-- The kind of the object. -/
  kind : String := ""
  operation : Operation
  username : String := ""
  object : Option Json := none
  oldObject : Option Json := none

/-- The answer to a request. -/
structure Response where
  uid : String
  allowed : Bool
  /-- Code and message. -/
  status : Option (Nat × String) := none
  /-- The JSON patch in base 64. -/
  patch : Option String := none
  patchType : Option String := none
deriving DecidableEq

/-- The envelope of a request or an answer. -/
structure Review where
  apiVersion : String
  kind : String
  request : Option Request := none
  response : Option Response := none

/-- Decodes an operation. -/
def Operation.decode (json : Json) : Option Operation := do
  let name ← variantName? json
  if name = "CREATE" then some .create
  else if name = "UPDATE" then some .update
  else if name = "DELETE" then some .delete
  else if name = "CONNECT" then some .connect
  else none

/-- Decodes the kind of the object of a request, whose group and version must be
well-formed too. -/
def Request.decodeKind (json : Json) : Option String := do
  let fields ← record? ["group", "version", "kind"] json
  let _ ← orDefault "group" "" asText fields
  let _ ← orDefault "version" "" asText fields
  orDefault "kind" "" asText fields

/-- Decodes the name of the user behind a request. -/
def Request.decodeUser (json : Json) : Option String := do
  orDefault "username" "" asText (← record? ["username"] json)

/-- Decodes a request. -/
def Request.decode (json : Json) : Option Request := do
  let fields ← record? ["uid", "kind", "operation", "userInfo", "object", "oldObject"] json
  some {
    uid := ← required "uid" asText fields
    kind := ← orDefault "kind" "" Request.decodeKind fields
    operation := ← required "operation" Operation.decode fields
    username := ← orDefault "userInfo" "" Request.decodeUser fields
    object := ← optional "object" some fields
    oldObject := ← optional "oldObject" some fields }

/-- Decodes the status of an answer. -/
def Response.decodeStatus (json : Json) : Option (Nat × String) := do
  let fields ← record? ["code", "message"] json
  let code ← required "code" (asNat 65535) fields
  let message ← required "message" asText fields
  some (code, message)

/-- Decodes an answer. -/
def Response.decode (json : Json) : Option Response := do
  let fields ← record? ["uid", "allowed", "status", "patch", "patchType"] json
  some {
    uid := ← required "uid" asText fields
    allowed := ← required "allowed" asBool fields
    status := ← optional "status" Response.decodeStatus fields
    patch := ← optional "patch" asText fields
    patchType := ← optional "patchType" asText fields }

/-- The fields of an answer that are set. -/
def Response.toJson (response : Response) : Json :=
  .obj <|
    ("allowed", .bool response.allowed) ::
    (present "patch" (response.patch.map .str) ++
      present "patchType" (response.patchType.map .str) ++
      present "status" (response.status.map fun (code, message) =>
        .obj [("code", .nat code), ("message", .str message)]) ++
      [("uid", .str response.uid)])

/-- Decodes an envelope. -/
def Review.decode (json : Json) : Option Review := do
  let fields ← record? ["apiVersion", "kind", "request", "response"] json
  some {
    apiVersion := ← orDefault "apiVersion" "admission.k8s.io/v1" asText fields
    kind := ← orDefault "kind" "AdmissionReview" asText fields
    request := ← optional "request" Request.decode fields
    response := ← optional "response" Response.decode fields }

/-- An envelope with an answer. -/
def Review.toJson (review : Review) : Json :=
  .obj <|
    ("apiVersion", .str review.apiVersion) :: ("kind", .str review.kind) ::
    present "response" (review.response.map Response.toJson)

/-- The text of a JSON patch with these operations. -/
def patchText (operations : List AddOperation) : String :=
  Json.text (.arr (operations.map AddOperation.toJson))

/-- The answer that tells a decision. -/
def Response.ofDecision (uid : String) : Decision → Response
  | .allow message => { uid, allowed := true, status := some (200, message) }
  | .patch message operations =>
    { uid
      allowed := true
      status := some (200, message)
      patch := some (Text.Base64.encodeText (patchText operations))
      patchType := some "JSONPatch" }
  | .deny code message => { uid, allowed := false, status := some (code, message) }

/-- The answer to a request that cannot be decided on. -/
def Response.ofFault (uid : String) (fault : AdmissionFault) : Response :=
  { uid, allowed := false, status := some (400, fault.message) }

/-- The pod that is read in a part of a request. -/
def podOf (reads : Json → Option Pod) (part : String) : Option Json → Except AdmissionFault Pod
  | none => .error (.missing part)
  | some json =>
    match reads json with
    | some pod => .ok pod
    | none => .error .undecodable

/-- The decision on a request. -/
def Request.decide (reads : Json → Option Pod) (policy : Policy) (request : Request) :
    Except AdmissionFault Decision :=
  if request.kind ≠ "Pod" then .error (.unsupportedKind request.kind)
  else
    match request.operation with
    | .create =>
      match podOf reads "object" request.object with
      | .error fault => .error fault
      | .ok pod => decideNew policy pod
    | .update =>
      match podOf reads "object" request.object with
      | .error fault => .error fault
      | .ok new =>
        match podOf reads "oldObject" request.oldObject with
        | .error fault => .error fault
        | .ok old => .ok (decideChange policy old new request.username)
    | .delete => .ok (.allow "Operation is not reviewed")
    | .connect => .ok (.allow "Operation is not reviewed")

/-- The answer to a request. -/
def Request.answer (reads : Json → Option Pod) (policy : Policy) (request : Request) : Response :=
  match request.decide reads policy with
  | .ok decision => .ofDecision request.uid decision
  | .error fault => .ofFault request.uid fault

/-- The envelope that answers an envelope whose pods are read by the reader. -/
def Review.answerBy (reads : Json → Option Pod) (policy : Policy) (review : Review) : Review where
  apiVersion := review.apiVersion
  kind := review.kind
  response := some <|
    match review.request with
    | some request => request.answer reads policy
    | none => .ofFault "" (.missing "request")

/-- The envelope that answers an envelope when no more is asked of a pod than what is kept
of it. -/
def Review.answer (policy : Policy) (review : Review) : Review :=
  review.answerBy Pod.decode policy

end NodeGate.Admission
