import NodeGate.ApiServer.Exchange
import NodeGate.Cluster.Event
import NodeGate.Resource.ObjectMeta

/-!
# Event series

How events reach the API server. The first event of its sort is posted as an
object of its own. An event of the same sort that follows, whatever its note,
is counted in the series of the first, by a merge patch of the object that was
posted. Events about other versions or parts of an object are of other sorts.
The count goes on only from what the API server accepted.
-/

namespace NodeGate.ApiServer

open Json

/-- The repetitions of an event. -/
structure Series where
  count : Nat
  lastObserved : Instant
deriving DecidableEq

/-- An event as an object of the cluster. -/
structure EventObject where
  name : String
  /-- The namespace of the object that the event is about. -/
  space : Option String
  event : Event
  /-- Who reports the event. -/
  controller : String
  time : Instant
  series : Option Series := none
deriving DecidableEq

/-- What makes two events of one sort. -/
structure EventSort where
  object : ObjectReference
  warning : Bool
  reason : String
  action : String
deriving DecidableEq

/-- The sort of an event: everything but its note. -/
def EventSort.of (event : Event) : EventSort where
  object := event.object
  warning := event.warning
  reason := event.reason
  action := event.action

/-- The version of the events' interface. -/
def eventApiVersion : String := "events.k8s.io/v1"

namespace EventObject

/-- The document of an event. -/
def toJson (object : EventObject) : Json :=
  .obj <| Entries.ofPairs <|
    [("apiVersion", .str eventApiVersion), ("kind", .str "Event"),
      ("metadata",
        .obj (("name", .str object.name) :: present "namespace" (object.space.map .str))),
      ("action", .str object.event.action),
      ("reason", .str object.event.reason),
      ("type", .str (if object.event.warning then "Warning" else "Normal")),
      ("regarding", object.event.object.toJson),
      ("reportingController", .str object.controller),
      ("reportingInstance", .str object.controller),
      ("eventTime", .str object.time.text)] ++
    present "note" (object.event.note.map .str) ++
    present "series" (object.series.map fun series =>
      .obj [("count", nat series.count),
        ("lastObservedTime", .str series.lastObserved.text)])

/-- The namespace in which an event is kept. -/
def home (object : EventObject) : String :=
  object.space.getD "default"

/-- Counts the event once more. -/
def repeated (now : Instant) (object : EventObject) : EventObject :=
  { object with series := some {
      count := (object.series.map Series.count).getD 1 + 1
      lastObserved := now } }

/-- The collection of the events of a namespace. -/
def collection (object : EventObject) : String :=
  "/apis/" ++ eventApiVersion ++ "/namespaces/" ++ object.home ++ "/events"

/-- The request that makes an event known: a post of a first one, a patch of a
repeated one. -/
def request (object : EventObject) : Except Fault Request :=
  match object.series with
  | none => Request.post object.collection object.toJson
  | some _ => do
    Request.patch (object.collection ++ "/" ++ (← namePart object.name)) object.toJson

end EventObject

/-- A decoder of whole numbers of 32 bits. -/
def asShort : Json → Option Int :=
  asInt (-(Int.pow 2 31)) (Int.pow 2 31 - 1)

/-- Whether a document has the form of the repetitions of an event. -/
def isSeries (json : Json) : Bool :=
  (do
    let fields ← asFields json
    let _ ← orEmpty "count" 0 asShort fields
    optional "lastObservedTime" Instant.decode fields).isSome

/-- Whether a document has the form of the source of an event. -/
def isEventSource (json : Json) : Bool :=
  (do
    let fields ← asFields json
    let _ ← optional "component" asText fields
    optional "host" asText fields).isSome

/-- Reads the document of an event; only its form matters. -/
def eventObject? (json : Json) : Option Unit := do
  let fields ← asFields json
  fixed "apiVersion" eventApiVersion fields
  fixed "kind" "Event" fields
  let _ ← optional "metadata" ObjectMeta.decode fields
  let _ ← optional "action" asText fields
  let _ ← optional "note" asText fields
  let _ ← optional "reason" asText fields
  let _ ← optional "type" asText fields
  let _ ← optional "reportingController" asText fields
  let _ ← optional "reportingInstance" asText fields
  let _ ← optional "regarding" ObjectReference.decode fields
  let _ ← optional "related" ObjectReference.decode fields
  let _ ← optional "eventTime" Instant.decode fields
  let _ ← optional "deprecatedFirstTimestamp" Instant.decode fields
  let _ ← optional "deprecatedLastTimestamp" Instant.decode fields
  let _ ← optional "deprecatedCount" asShort fields
  let source ← optional "deprecatedSource" some fields
  let series ← optional "series" some fields
  if source.all isEventSource && series.all isSeries then some () else none

/-- The events that the API server accepted, the latest of each sort. -/
abbrev EventLog := List (EventSort × EventObject)

namespace EventLog

/-- The accepted event of a sort. -/
def find? (sort : EventSort) (log : EventLog) : Option EventObject :=
  (List.find? (fun entry => entry.1 = sort) log).map Prod.snd

/-- Keeps an accepted event in the place of the one of its sort. -/
def accept (sort : EventSort) (object : EventObject) (log : EventLog) : EventLog :=
  (sort, object) :: log.filter fun entry => entry.1 ≠ sort

/-- The object by which an event is made known: the accepted one of its sort
counted once more, or else a new one named after the object it is about and a
stamp. -/
def next (controller stamp : String) (now : Instant) (event : Event) (log : EventLog) :
    EventObject :=
  match log.find? (EventSort.of event) with
  | some object => object.repeated now
  | none => {
      name := event.object.name.getD controller ++ "." ++ stamp
      space := event.object.space
      event, controller
      time := now }

/-- The log after the reply to an object of that sort. -/
def afterReply (sort : EventSort) (object : EventObject) (reply : Reply) (log : EventLog) :
    EventLog :=
  match reply.read eventObject? with
  | .ok () => log.accept sort object
  | .error _ => log

end EventLog

end NodeGate.ApiServer
