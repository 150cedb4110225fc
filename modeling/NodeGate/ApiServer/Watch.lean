import NodeGate.ApiServer.Exchange
import NodeGate.Cluster.Cache
import NodeGate.Queue.RetryHistory

/-!
# Watches

A watch keeps a replica of the objects of a collection. It lists them page by
page, each page telling where the next one starts, and then follows a stream of
changes. A stream that ends is asked for again. A change without a version, or
word that the known version is too old, starts the watch over, and the new list
replaces the replica. A page that is not given starts it over too, while a stream
that does not start, and a line that cannot be read, leave it where it is.

After each failure the watch pauses. The pauses grow with the failures in a row
and are short again after any word of an object, a list or its end. A stream is
followed whatever the status of the reply is, and a line that breaks off is no
failure.
-/

namespace NodeGate.ApiServer

open Json

/-- How the objects of a collection are read. -/
structure Collection (α : Type) where
  decode : Json → Option α
  /-- The decoder of documents that were put aside before their kind was known. -/
  decodeAside : Json → Option α := decode
  metadata : α → ObjectMeta

/-- What a watch tells of. -/
inductive WatchEvent (α : Type) where
  /-- A list is about to come. -/
  | start
  /-- An object of the list. -/
  | listed (object : α)
  /-- The list is complete. -/
  | complete
  /-- An object was added or changed. -/
  | applied (object : α)
  /-- An object is gone. -/
  | deleted (object : α)
  /-- Something failed. -/
  | failed

/-- What a watch asks for next. -/
inductive WatchPhase where
  /-- The first page of the list. -/
  | fresh
  /-- Another page of the list. -/
  | paging
  /-- The stream of changes. -/
  | following
deriving DecidableEq, Repr

/-- A page of a list. -/
structure Page (α : Type) where
  items : List α
  /-- The version of the list, if the page tells one. -/
  version : Option String
  /-- Where the next page starts, if there is one. -/
  next : Option String

/-- A text unless it is empty. -/
def nonEmpty (text : Option String) : Option String :=
  text.filter fun text => !text.isEmpty

/-- Decodes the metadata of a page: the version and the start of the next page. -/
def pageMetadata? (json : Json) : Option (Option String × Option String) := do
  let fields ← asFields json
  let _ ← optional "remainingItemCount" ObjectMeta.asLong fields
  let _ ← optional "selfLink" asText fields
  let version ← optional "resourceVersion" asText fields
  let next ← optional "continue" asText fields
  some (nonEmpty version, nonEmpty next)

/-- A decoder of arrays for which null is empty. -/
def listOrNull {α : Type} (decode : Json → Option α) : Json → Option (List α)
  | .null => some []
  | json => asList decode json

/-- Decodes a page; what it tells besides has to be readable. -/
def Page.decode {α : Type} (decode : Json → Option α) (json : Json) : Option (Page α) := do
  let fields ← sortedOut? ["metadata", "items"] json
  let (version, next) ← orDefault "metadata" (none, none) pageMetadata? fields
  some { items := ← required "items" (listOrNull decode) fields, version, next }

/-- A line of a stream of changes. -/
inductive WatchLine (α : Type) where
  | applied (object : α)
  | deleted (object : α)
  /-- The known version is too old. -/
  | expired
  /-- Nothing of note. -/
  | quiet
  /-- A failure, or what cannot be read. -/
  | failed

/-- The code that tells that a version is too old. -/
def expiredCode : Nat := 410

/-- Whether a document has the form of the metadata of a bookmark. -/
def isBookmarkMetadata (json : Json) : Bool :=
  (do
    let fields ← record? ["resourceVersion", "annotations"] json
    let _ ← required "resourceVersion" asText fields
    orDefault "annotations" [] asTextEntries fields).isSome

/-- Whether a document has the form of a bookmark, which tells a version without
a change. -/
def isBookmark (json : Json) : Bool :=
  (do
    let fields ← sortedOut? ["metadata", "apiVersion", "kind"] json
    let _ ← required "apiVersion" asText fields
    let _ ← required "kind" asText fields
    required "metadata" some fields).any isBookmarkMetadata

namespace WatchLine

variable {α : Type}

/-- The line of a kind about an object. -/
def ofKind? (decode : Json → Option α) (kind : String) (object : Json) :
    Option (WatchLine α) :=
  if kind = "ADDED" ∨ kind = "MODIFIED" then (decode object).map .applied
  else if kind = "DELETED" then (decode object).map .deleted
  else if kind = "BOOKMARK" then if isBookmark object then some .quiet else none
  else if kind = "ERROR" then
    (failureOf? object).map fun failure =>
      if failure.code = expiredCode then .expired else .failed
  else none

/-- The line that a document tells, as an object with two members or by position.
An object that comes before its kind is put aside until the kind is known, so all
of it has to be readable. -/
def ofJson? (collection : Collection α) : Json → Option (WatchLine α)
  | .arr [kind, object] => do ofKind? collection.decode (← variantName? kind) object
  | .obj fields =>
    match fields.filter fun field => ["type", "object"].contains field.1 with
    | [("type", kind), ("object", object)] => do
      ofKind? collection.decode (← variantName? kind) object
    | [("object", object), ("type", kind)] =>
      if object.isReadable then do
        ofKind? collection.decodeAside (← variantName? kind) object
      else none
    | _ => none
  | _ => none

/-- Reads a line. -/
def ofText (collection : Collection α) (text : String) : WatchLine α :=
  match Json.read text with
  | .ok json => (ofJson? collection json).getD .failed
  | .error .truncated => .quiet
  | .error .malformed => .failed

end WatchLine

namespace WatchPhase

variable {α : Type}

/-- Whether an object tells its version. -/
def isVersioned (collection : Collection α) (object : α) : Bool :=
  (nonEmpty (collection.metadata object).resourceVersion).isSome

/-- Takes in a change and then the rest of a stream, unless the change tells no
version. -/
def takeChange (collection : Collection α) (object : α) (event : WatchEvent α)
    (rest : List (WatchEvent α) × WatchPhase) : List (WatchEvent α) × WatchPhase :=
  if isVersioned collection object then (event :: rest.1, rest.2) else ([.failed], .fresh)

/-- Follows the lines of a stream. -/
def follow (collection : Collection α) : List String → List (WatchEvent α) × WatchPhase
  | [] => ([], .following)
  | line :: rest =>
    match WatchLine.ofText collection line with
    | .applied object =>
      takeChange collection object (.applied object) (follow collection rest)
    | .deleted object =>
      takeChange collection object (.deleted object) (follow collection rest)
    | .expired => ([.failed], .fresh)
    | .quiet => follow collection rest
    | .failed =>
      let (events, phase) := follow collection rest
      (.failed :: events, phase)

/-- Takes in a page of the list. -/
def takePage (collection : Collection α) (reply : Reply) :
    List (WatchEvent α) × WatchPhase :=
  match reply.read (Page.decode collection.decode) with
  | .error _ => ([.failed], .fresh)
  | .ok page =>
    let listed := page.items.map .listed
    match page.version, page.next with
    | none, none => ([.failed], .fresh)
    | _, some _ => (listed, .paging)
    | some _, none => (listed ++ [.complete], .following)

/-- Takes in the reply to the request of a phase. -/
def receive (collection : Collection α) (phase : WatchPhase) (reply : Reply) :
    List (WatchEvent α) × WatchPhase :=
  match phase with
  | .fresh =>
    let (events, phase) := takePage collection reply
    (.start :: events, phase)
  | .paging => takePage collection reply
  | .following =>
    match reply with
    | .refused => ([.failed], .following)
    | .answered _ text => follow collection (text.splitOn "\n")

/-- Takes in the replies to one request after the other. -/
def receiveAll (collection : Collection α) : WatchPhase → List Reply → List (WatchEvent α)
  | _, [] => []
  | phase, reply :: rest =>
    let (events, phase) := phase.receive collection reply
    events ++ receiveAll collection phase rest

end WatchPhase

namespace WatchEvent

variable {α : Type}

/-- The pause after a first failure, in milliseconds. -/
def leastPause : Nat := 800

/-- The longest pause after a failure, in milliseconds. -/
def longestPause : Nat := 30000

/-- The pause after a number of failures in a row and one more. -/
def pauseAfter (failures : Nat) : Nat :=
  RetryHistory.delayAfter failures leastPause longestPause

/-- What a watch tells of until a time is over, each with its instant. Only the
pauses take time. -/
def timed (time : Nat) : (now failures : Nat) → List (WatchEvent α) →
    List (Nat × WatchEvent α)
  | _, _, [] => []
  | now, failures, event :: rest =>
    if time < now then []
    else
      (now, event) ::
        match event with
        | .failed => timed time (now + pauseAfter failures) (failures + 1) rest
        | _ => timed time now 0 rest

end WatchEvent

/-- What a watch of a collection tells of within a time, if its requests are
replied to in this way. -/
def Collection.watched {α : Type} (collection : Collection α) (time : Nat)
    (replies : List Reply) : List (Nat × WatchEvent α) :=
  WatchEvent.timed time 0 0 (WatchPhase.receiveAll collection .fresh replies)

/-- The objects as a watch knows them, and those of a list that is still coming. -/
structure Replica (α : Type) where
  objects : List α := []
  arriving : List α := []

/-- Takes in what a watch tells of. -/
def Replica.receive {α : Type} (metadata : α → ObjectMeta) (replica : Replica α) :
    WatchEvent α → Replica α
  | .start => { replica with arriving := [] }
  | .listed object => { replica with arriving := Cache.put metadata object replica.arriving }
  | .complete => { objects := replica.arriving }
  | .applied object => { replica with objects := Cache.put metadata object replica.objects }
  | .deleted object => { replica with objects := Cache.drop metadata object replica.objects }
  | .failed => replica

end NodeGate.ApiServer
