import NodeGate.Queue.WorkQueue
import NodeGate.Release.Disposition
import NodeGate.Resource.Pod

/-!
# Dispatch

How pods become work and what becomes of a key after its pass. A pod is queued
by its key when it is noticed and has work; a change of the configuration queues
every cached pod that has work.
-/

namespace NodeGate.WorkQueue

/-- Queues a pod by its key, if it has one. -/
def addPod (pod : Pod) (queue : WorkQueue) : WorkQueue :=
  match pod.key? with
  | some key => queue.add key
  | none => queue

/-- Queues a noticed pod if it has work. -/
def notice (pod : Pod) (queue : WorkQueue) : WorkQueue :=
  if pod.needsWork then queue.addPod pod else queue

/-- Queues pods in turn. -/
def addPods (pods : List Pod) (queue : WorkQueue) : WorkQueue :=
  pods.foldl (fun queue pod => queue.addPod pod) queue

/-- Queues a key again as its pass decided. -/
def requeue (key : String) (disposition : Disposition) (queue : WorkQueue) : WorkQueue :=
  match disposition with
  | .immediate => (queue.forget key).add key
  | .backOff => queue.retry key
  | .forget => queue.forget key

/-- Ends the work on a key after its pass. -/
def settle (key : String) (disposition : Disposition) (queue : WorkQueue) : WorkQueue :=
  (queue.requeue key disposition).finish key

/-- Whether noticing a pod queues a key, so that the queue length is reported. -/
def noticesKey (pod : Pod) : Bool :=
  pod.needsWork && pod.key?.isSome

end NodeGate.WorkQueue
