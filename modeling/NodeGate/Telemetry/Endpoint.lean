import NodeGate.Json.Printer
import NodeGate.Telemetry.Exposition

/-!
# The probe endpoint

Three pages: the exposition of the counters, a sign of life, and whether this
controller leads. Only reading is allowed; a request for the head of a page gets
its status and type without its body.
-/

namespace NodeGate.Telemetry

/-- An answer to a request for a page. -/
structure Response where
  status : Nat
  contentType : Option String
  body : String
deriving DecidableEq, Repr

/-- The page that tells whether this controller leads. -/
def leaderPage (leader : Bool) : Response where
  status := if leader then 200 else 503
  contentType := some "application/json"
  body := Json.text (.obj [("apiserver",
    .obj [("leader", .str (if leader then "true" else "false"))])])

/-- Whether a character may stand in the name of a scheme. -/
def isSchemeChar (c : Char) : Bool :=
  c.isAlphanum || c == '+' || c == '-' || c == '.'

/-- The path of an address: without the query, without what follows a number sign
and without scheme and host, if it names them. -/
def pathOf (address : String) : String :=
  let kept := address.toList.takeWhile fun c => c != '?' && c != '#'
  match kept.dropWhile isSchemeChar with
  | ':' :: '/' :: '/' :: place => String.ofList (place.dropWhile (· != '/'))
  | _ => String.ofList kept

/-- The page at an address. -/
def page? (counters : Counters) (leader : Bool) (address : String) : Option Response :=
  let place := pathOf address
  if place = "/metrics" then
    some ⟨200, some "text/plain; version=0.0.4", exposition counters⟩
  else if place = "/healthz" then some ⟨200, some "text/plain; charset=utf-8", "ok"⟩
  else if place = "/leader" then some (leaderPage leader)
  else none

/-- The answer to one request. -/
def respond (counters : Counters) (leader : Bool) (method address : String) : Response :=
  match page? counters leader address with
  | none => ⟨404, none, ""⟩
  | some page =>
    if method = "GET" then page
    else if method = "HEAD" then { page with body := "" }
    else ⟨405, none, ""⟩

end NodeGate.Telemetry
