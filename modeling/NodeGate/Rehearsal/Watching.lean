import NodeGate.ApiServer.Watch
import NodeGate.Rehearsal.Session

/-!
# Watches of a session

The caches of a session fed by watches. Each change of a pod is noticed, also
while the pods are listed; each later change of the configuration gives a pulse,
of which a channel of a given capacity keeps as many as fit.
-/

namespace NodeGate.Rehearsal

open ApiServer

/-- Isolated pods. -/
def podCollection : Collection Pod where
  decode := Pod.decode
  metadata := Pod.metadata

/-- Machines. -/
def vmiCollection : Collection Vmi where
  decode := Vmi.decode
  decodeAside := Vmi.decodeAside
  metadata := Vmi.metadata

/-- Nodes. -/
def nodeCollection : Collection Node where
  decode := Node.decode
  metadata := Node.metadata

/-- Configurations. -/
def configCollection : Collection GateConfig where
  decode := GateConfig.decode
  metadata := GateConfig.metadata

/-- The objects that are known after a watch of their collection for a time. -/
def known {α : Type} (collection : Collection α) (time : Nat) (replies : List Reply)
    (objects : List α) : List α :=
  ((collection.watched time replies).foldl
    (fun replica event => replica.receive collection.metadata event.2)
    { objects : Replica α }).objects

/-- A session whose pods are watched. -/
structure PodWatch (ω : Type) where
  session : Session ω
  replica : Replica Pod
  /-- The time that the watch has taken. -/
  elapsed : Nat := 0

namespace PodWatch

variable {ω : Type}

/-- Lets the time of the session go by until an instant of the watch. -/
def passUntil (instant : Nat) (watch : PodWatch ω) : PodWatch ω :=
  { watch with
    session := (watch.session.deskStep (.pass (instant - watch.elapsed))).2.2
    elapsed := instant }

/-- Takes in what a watch of the pods tells of and lets the session notice it. -/
def receive (watch : PodWatch ω) (event : WatchEvent Pod) : PodWatch ω :=
  let replica := watch.replica.receive Pod.metadata event
  let session := watch.session.withCache fun cache => { cache with pods := replica.objects }
  { watch with
    replica
    session :=
      match event with
      | .listed pod | .applied pod => session.noticePod pod
      | .deleted pod => session.noticeGone pod
      | _ => session }

end PodWatch

/-- Watches the pods of a session for a time. -/
def Session.followPods {ω : Type} (time : Nat) (replies : List Reply) (session : Session ω) :
    Session ω :=
  let watch : PodWatch ω := { session, replica := { objects := session.site.cache.pods } }
  let told := podCollection.watched time replies
  ((told.foldl (fun watch event => (watch.passUntil event.1).receive event.2)
    watch).passUntil time).session

/-- The pulses that a watch of the configurations for a time gives, as far as they
fit. -/
def pulses (capacity time : Nat) (replies : List Reply) : Nat :=
  min capacity ((configCollection.watched time replies).countP fun event =>
    match event.2 with
    | .applied _ | .deleted _ => true
    | _ => false)

end NodeGate.Rehearsal
