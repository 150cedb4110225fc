import NodeGate.Proofs.Cluster.Exchanges
import NodeGate.Proofs.Cluster.Registry
import NodeGate.Proofs.Queue.Order
import NodeGate.Proofs.Resource.WorkKeys
import NodeGate.Rehearsal.Session

/-!
# Pods that are passed over

A pod is queued when it is noticed and when the configuration changes, each time only if it has
work. Both ways let in the same pods, and what they leave out is what a pass has nothing to do
for: its gate is off and, if it is deleting, so is its finalizer.
-/

namespace NodeGate

namespace Pod

/-- The pod has a namespace and a name by which it can be addressed. -/
structure IsAddressed (pod : Pod) (key : ObjectKey) : Prop where
  space_eq : pod.metadata.space = some key.space
  name_eq : pod.metadata.name = some key.name
  proper : key.IsProper

variable {pod other : Pod} {key : ObjectKey}

/-- An addressed pod is queued by its key. -/
theorem IsAddressed.key?_eq (addressed : pod.IsAddressed key) : pod.key? = some key.text := by
  rw [key?, addressed.space_eq, addressed.name_eq]
  rfl

/-- A pod has the key of an addressed pod exactly if it has the same namespace and name. -/
theorem IsAddressed.key?_eq_iff (addressed : pod.IsAddressed key) :
    other.key? = pod.key? ↔ other.IsAddressed key := by
  constructor
  · intro same
    rw [addressed.key?_eq, key?] at same
    split at same
    next space name spaced named =>
      obtain ⟨rfl, rfl⟩ := ObjectKey.eq_of_workKey_eq addressed.proper (Option.some.inj same)
      exact ⟨spaced, named, addressed.proper⟩
    next => contradiction
  · intro likewise
    rw [likewise.key?_eq, addressed.key?_eq]

/-- What is queued by the key of an addressed pod has the namespace and the name of that pod. -/
theorem IsAddressed.sameIdentity (addressed : pod.IsAddressed key)
    (keyed : other.key? = some key.text) :
    Cache.sameIdentity other.metadata pod.metadata = true := by
  have likewise : other.IsAddressed key :=
    addressed.key?_eq_iff.mp (keyed.trans addressed.key?_eq.symm)
  simp [Cache.sameIdentity, ObjectMeta.nameOrEmpty, likewise.space_eq, likewise.name_eq,
    addressed.space_eq, addressed.name_eq]

end Pod

namespace Cache

variable {pod : Pod} {key : ObjectKey} {cache : Cache}

/-- A cached pod is found by its key. -/
theorem pod?_of_isAddressed (addressed : pod.IsAddressed key) (cached : pod ∈ cache.pods)
    (distinct : Distinct Pod.metadata cache.pods) : cache.pod? key = some pod := by
  have found : findExact Pod.metadata (some key.space) key.name cache.pods = some pod := by
    refine (findExact_eq_some_iff distinct).mpr ⟨cached, addressed.space_eq, ?_⟩
    rw [ObjectMeta.nameOrEmpty, addressed.name_eq, Option.getD_some]
  rw [pod?, findIn, found]

end Cache

namespace WorkQueue

variable {queue : WorkQueue} {pod : Pod} {pods : List Pod} {key : String}

/-- A queue that is shut down takes no pods. -/
theorem addPod_of_shuttingDown (closed : queue.shuttingDown = true) : queue.addPod pod = queue := by
  unfold addPod
  split
  · rw [add, if_pos (.inl closed)]
  · rfl

theorem shuttingDown_addPod : (queue.addPod pod).shuttingDown = queue.shuttingDown := by
  unfold addPod
  split
  · exact shuttingDown_add
  · rfl

/-- An open queue takes a pod that has a key. -/
theorem mem_dirty_addPod (opened : queue.shuttingDown = false) :
    key ∈ (queue.addPod pod).dirty ↔ pod.key? = some key ∨ key ∈ queue.dirty := by
  unfold addPod
  split
  next keyed => rw [mem_dirty_add opened, keyed, Option.some.injEq, eq_comm]
  next unkeyed => simp [unkeyed]

theorem notice_of_shuttingDown (closed : queue.shuttingDown = true) :
    queue.notice pod = queue := by
  unfold notice
  split
  · exact addPod_of_shuttingDown closed
  · rfl

theorem addPods_of_shuttingDown (closed : queue.shuttingDown = true) :
    queue.addPods pods = queue := by
  unfold addPods
  induction pods with
  | nil => rfl
  | cons first rest ih => rw [List.foldl_cons, addPod_of_shuttingDown closed, ih]

/-- An open queue takes the pods that have a key, whatever their order. -/
theorem mem_dirty_addPods (opened : queue.shuttingDown = false) :
    key ∈ (queue.addPods pods).dirty ↔
      (∃ pod ∈ pods, pod.key? = some key) ∨ key ∈ queue.dirty := by
  induction pods generalizing queue with
  | nil => simp [addPods]
  | cons first rest ih =>
      have step : key ∈ (queue.addPods (first :: rest)).dirty ↔
          (∃ pod ∈ rest, pod.key? = some key) ∨ key ∈ (queue.addPod first).dirty :=
        ih (shuttingDown_addPod.trans opened)
      rw [step, mem_dirty_addPod opened, List.exists_mem_cons_iff, or_left_comm, or_assoc]

end WorkQueue

namespace Release

open Program

variable {site : Site} {key : ObjectKey} {pod : Pod} {trace : List Happening}

/-- Nothing is done in a pass over a pod without work. -/
theorem attend_of_not_needsWork (idle : pod.needsWork = false) :
    attend site key pod = pure (.ok .forget) := by
  simp only [Pod.needsWork, Pod.isGated, Bool.or_eq_false_iff, Bool.and_eq_false_iff,
    decide_eq_false_iff_not, Nat.not_lt, Nat.le_zero] at idle
  obtain ⟨ungated, settled⟩ := idle
  rw [attend, if_pos ungated]
  split
  next deleting =>
    have released : pod.hasFinalizer = false := by simpa [deleting] using settled
    rw [depart, if_pos released]
  next => rfl

/-- The pass for the key of a cached pod without work drops the key and does nothing else. -/
theorem pass_of_not_needsWork (addressed : pod.IsAddressed key) (cached : pod ∈ site.cache.pods)
    (distinct : Cache.Distinct Pod.metadata site.cache.pods) (idle : pod.needsWork = false) :
    pass site key.text = pure .forget := by
  have named : ObjectKey.ofText key.text = .ok key :=
    ObjectKey.ofText_eq_ok_iff.mpr ⟨rfl, addressed.proper⟩
  have attempted : attempt site key.text = pure (.ok .forget) := by
    simp only [attempt, named, Cache.pod?_of_isAddressed addressed cached distinct]
    exact attend_of_not_needsWork idle
  rw [pass, attempted]
  rfl

end Release

namespace Rehearsal.Session

variable {ω : Type} {session : Session ω} {pod : Pod} {key : ObjectKey} {site : Site}

/-- Work on the key is awaited. -/
def Awaits (session : Session ω) (key : String) : Prop :=
  key ∈ session.desk.queue.dirty

instance {key : String} : Decidable (session.Awaits key) :=
  inferInstanceAs (Decidable (key ∈ session.desk.queue.dirty))

theorem queue_noticePod : (session.noticePod pod).desk.queue = session.desk.queue.notice pod := by
  unfold noticePod
  dsimp only
  split <;> rfl

theorem queue_noticeAll : session.noticeAll.desk.queue =
    session.desk.queue.addPods session.site.cache.pending :=
  rfl

/-- A pod that is noticed while the queue is open is queued exactly if it has work. -/
theorem awaits_noticePod_iff (opened : session.desk.queue.shuttingDown = false)
    (addressed : pod.IsAddressed key) :
    (session.noticePod pod).Awaits key.text ↔
      pod.needsWork = true ∨ session.Awaits key.text := by
  rw [Awaits, queue_noticePod, WorkQueue.notice]
  split
  next busy => simp [WorkQueue.mem_dirty_addPod opened, addressed.key?_eq, busy]
  next idle => simp [idle, Awaits]

/-- A cached pod is queued with all others that are pending exactly if it has work. -/
theorem awaits_noticeAll_iff (opened : session.desk.queue.shuttingDown = false)
    (addressed : pod.IsAddressed key) (cached : pod ∈ session.site.cache.pods)
    (distinct : Cache.Distinct Pod.metadata session.site.cache.pods) :
    session.noticeAll.Awaits key.text ↔ pod.needsWork = true ∨ session.Awaits key.text := by
  rw [Awaits, queue_noticeAll, WorkQueue.mem_dirty_addPods opened]
  refine or_congr_left ⟨?_, fun busy => ?_⟩
  · rintro ⟨other, pending, keyed⟩
    obtain ⟨there, busy⟩ := List.mem_filter.mp pending
    -- No other cached pod has the key of this one.
    have same := distinct other there pod cached (addressed.sameIdentity keyed)
    exact same ▸ busy
  · exact ⟨pod, List.mem_filter.mpr ⟨cached, busy⟩, addressed.key?_eq⟩

/-- Noticing a pod queues it exactly if queueing all pods would, were it cached. If neither
does while the queue is open, a pass over the cached pod calls and tells nothing and drops its
key, whatever else is cached. -/
theorem skipping_is_harmless (addressed : pod.IsAddressed key) (cached : pod ∈ site.cache.pods)
    (distinct : Cache.Distinct Pod.metadata site.cache.pods) :
    ((session.noticePod pod).Awaits key.text ↔
        { session with site := site }.noticeAll.Awaits key.text) ∧
      (session.desk.queue.shuttingDown = false → ¬(session.noticePod pod).Awaits key.text →
        ∀ trace disposition, Program.Runs (Release.pass site key.text) trace disposition ↔
          trace = [] ∧ disposition = .forget) := by
  constructor
  · cases state : session.desk.queue.shuttingDown with
    | true =>
        rw [Awaits, queue_noticePod, WorkQueue.notice_of_shuttingDown state, Awaits,
          queue_noticeAll, WorkQueue.addPods_of_shuttingDown state]
    | false =>
        have all : { session with site := site }.noticeAll.Awaits key.text ↔
            pod.needsWork = true ∨ session.Awaits key.text :=
          awaits_noticeAll_iff state addressed cached distinct
        rw [awaits_noticePod_iff state addressed, all]
  · intro opened skipped trace disposition
    have idle : pod.needsWork = false := by
      rw [awaits_noticePod_iff opened addressed, not_or] at skipped
      exact eq_false_of_ne_true skipped.1
    rw [Release.pass_of_not_needsWork addressed cached distinct idle]
    exact Program.runs_pure_iff

/-- A deleting pod whose finalizer is off already. -/
def releasedPod : Pod where
  metadata :=
    { name := some "p"
      space := some "a"
      deletionTimestamp := some ⟨⟨2024, 1, 1⟩, 0, 0, 0, 0⟩ }

/-- The released pod is cached behind a gated one. -/
def releasedSite : Site where
  cache :=
    { pods :=
        [{ metadata := { name := some "q", space := some "a" }
           spec := some { gates := some [gateName] } },
          releasedPod] }

/-- The released pod is passed over, and a pass over it would find nothing to do. -/
theorem releasedPod_skipped_harmlessly :
    releasedPod.IsAddressed ⟨"a", "p"⟩ ∧ releasedPod ∈ releasedSite.cache.pods ∧
      Cache.Distinct Pod.metadata releasedSite.cache.pods ∧
      ¬(noticeAll { ({} : Session Unit) with site := releasedSite }).Awaits "a/p" ∧
      ∀ trace disposition, Program.Runs (Release.pass releasedSite "a/p") trace disposition ↔
        trace = [] ∧ disposition = .forget := by
  have addressed : releasedPod.IsAddressed ⟨"a", "p"⟩ :=
    ⟨rfl, rfl, by decide, by decide, by decide⟩
  have cached : releasedPod ∈ releasedSite.cache.pods := .tail _ (.head _)
  have distinct : Cache.Distinct Pod.metadata releasedSite.cache.pods := by
    simp [Cache.Distinct, releasedSite, releasedPod, Cache.sameIdentity,
      ObjectMeta.nameOrEmpty]
  have skipped : ¬(noticePod releasedPod ({} : Session Unit)).Awaits "a/p" := by decide
  obtain ⟨alike, harmless⟩ :=
    @skipping_is_harmless Unit {} releasedPod ⟨"a", "p"⟩ releasedSite addressed cached distinct
  exact ⟨addressed, cached, distinct, fun queued => skipped (alike.mpr queued),
    harmless rfl skipped⟩

end Rehearsal.Session

end NodeGate
