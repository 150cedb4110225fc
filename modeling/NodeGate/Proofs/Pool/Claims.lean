import NodeGate.Proofs.Pool.Interleaving

/-!
# Exclusive claims

However duties that go on at once interleave, a machine goes through the states of
the pool in the intended order and is trimmed only while it is available. It passes
from one pod to another only by being given back and claimed again, unless it is lost
in between.
-/

namespace NodeGate

namespace Write

/-- A machine that the pod of a work key held was given back. -/
def Returns (write : Write) (key : ObjectKey) (owner : String) : Prop :=
  ∃ duty before after, write = .own duty (.changed key before after) ∧
    before.poolState? = some .claimed ∧ before.claimant? = some owner ∧
    after.poolState? = some .available ∧ after.claimant? = none

/-- An available machine was claimed for the pod of a work key, by a pass for it. -/
def Claims (write : Write) (key : ObjectKey) (owner : String) : Prop :=
  ∃ text pod before after, write = .own (.pass text) (.changed key before after) ∧
    ObjectKey.ofText text = .ok pod ∧ pod.text = owner ∧
    before.poolState? = some .available ∧ after.poolState? = some .claimed ∧
    after.claimant? = some owner

/-- A machine was removed, but not by a tick. -/
def Loses (write : Write) (key : ObjectKey) : Prop :=
  ∃ vmi, write.effect = .removed key vmi ∧ ∀ effect, write ≠ .own .tick effect

end Write

/-- One state of the pool leads to another. -/
inductive PoolState.Leads : PoolState → PoolState → Prop where
  | comeUp : Leads .creating .available
  | taken : Leads .available .claimed
  | returned : Leads .claimed .available

/-- A lawful change goes from one state of the pool to one that it leads to. -/
theorem Lawful.leads {duty : Duty} {key : ObjectKey} {before after : Vmi}
    (lawful : Lawful duty (.changed key before after)) :
    ∃ old new, before.poolState? = some old ∧ after.poolState? = some new ∧ old.Leads new := by
  cases lawful with
  | promote creating available => exact ⟨_, _, creating, available, .comeUp⟩
  | claim _ available claimed => exact ⟨_, _, available, claimed, .taken⟩
  | giveBack claimed available => exact ⟨_, _, claimed, available, .returned⟩

/-- A lawful tick removes only what is available. -/
theorem Lawful.available_of_trim {key : ObjectKey} {vmi : Vmi}
    (lawful : Lawful .tick (.removed key vmi)) : vmi.poolState? = some .available := by
  cases lawful with
  | trim available => exact available
  | discard leaving => exact absurd rfl leaving

/-- A lawful change of a claimed machine gives it back. -/
theorem Lawful.returned {duty : Duty} {key : ObjectKey} {before after : Vmi}
    (lawful : Lawful duty (.changed key before after))
    (claimed : before.poolState? = some .claimed) :
    after.poolState? = some .available ∧ after.claimant? = none := by
  cases lawful with
  | promote creating =>
      rw [creating] at claimed
      contradiction
  | claim _ available =>
      rw [available] at claimed
      contradiction
  | giveBack _ available disowned => exact ⟨available, disowned⟩

/-- A lawful change that leaves a machine claimed is the claim of a pass. -/
theorem Lawful.claimed {duty : Duty} {key : ObjectKey} {before after : Vmi}
    (lawful : Lawful duty (.changed key before after))
    (claimed : after.poolState? = some .claimed) :
    ∃ text pod, duty = .pass text ∧ ObjectKey.ofText text = .ok pod ∧
      before.poolState? = some .available ∧ after.claimant? = some pod.text := by
  cases lawful with
  | promote _ available =>
      rw [available] at claimed
      contradiction
  | claim named available _ owned => exact ⟨_, _, rfl, named, available, owned⟩
  | giveBack _ available =>
      rw [available] at claimed
      contradiction

/-- The pod of a work key holds the stored machine of a key. -/
def MachineStore.IsHeld (store : MachineStore) (key : ObjectKey) (owner : String) : Prop :=
  ∃ vmi, store.stored key = some vmi ∧ vmi.poolState? = some .claimed ∧
    vmi.claimant? = some owner

namespace MachineStore

variable {store turned : MachineStore} {key : ObjectKey} {owner other : String} {write : Write}

/-- No machine is held by two pods. -/
theorem IsHeld.unique (held : store.IsHeld key owner) (also : store.IsHeld key other) :
    owner = other := by
  obtain ⟨vmi, stored, -, owned⟩ := held
  obtain ⟨same, storedToo, -, ownedToo⟩ := also
  rw [stored] at storedToo
  cases storedToo
  rw [owned] at ownedToo
  exact Option.some.inj ownedToo

/-- A held machine stays held by its pod unless it is given back or lost. -/
theorem IsHeld.after_write (held : store.IsHeld key owner) (lawful : write.IsLawful)
    (turns : store.Turns write.effect turned) :
    turned.IsHeld key owner ∨ write.Returns key owner ∨ write.Loses key := by
  obtain ⟨vmi, stored, claimed, owned⟩ := held
  by_cases here : key = write.effect.key
  · have before : write.effect.before? = some vmi := by
      rw [← turns.1, ← here, stored]
    subst here
    cases write with
    | own duty effect =>
        replace lawful : Lawful duty effect := lawful
        cases effect with
        | created => contradiction
        | changed key old new =>
            obtain rfl := Option.some.inj before
            obtain ⟨available, disowned⟩ := lawful.returned claimed
            exact .inr (.inl ⟨duty, old, new, rfl, claimed, owned, available, disowned⟩)
        | removed key old =>
            obtain rfl := Option.some.inj before
            refine .inr (.inr ⟨old, rfl, ?_⟩)
            rintro effect ⟨⟩
            rw [lawful.available_of_trim] at claimed
            contradiction
    | foreign effect =>
        cases effect with
        | created => contradiction
        | changed key old new =>
            obtain rfl := Option.some.inj before
            obtain ⟨sameState, sameClaimant⟩ := lawful
            exact .inl ⟨new, turns.stored_self, sameState.trans claimed,
              sameClaimant.trans owned⟩
        | removed => exact .inr (.inr ⟨_, rfl, by simp⟩)
  · exact .inl ⟨vmi, (turns.stored_of_ne here).trans stored, claimed, owned⟩

/-- A machine that a pod holds after a write it held before, or the machine was
available and the write claimed it. -/
theorem IsHeld.before_write (held : turned.IsHeld key owner) (lawful : write.IsLawful)
    (turns : store.Turns write.effect turned) :
    store.IsHeld key owner ∨ (write.Claims key owner ∧
      ∃ vmi, store.stored key = some vmi ∧ vmi.poolState? = some .available) := by
  obtain ⟨vmi, stored, claimed, owned⟩ := held
  by_cases here : key = write.effect.key
  · have after : write.effect.after? = some vmi := by
      rw [← turns.stored_self, ← here, stored]
    subst here
    cases write with
    | own duty effect =>
        replace lawful : Lawful duty effect := lawful
        cases effect with
        | created key made =>
            obtain rfl := Option.some.inj after
            cases lawful with
            | create unclaimed => exact absurd claimed unclaimed
        | changed key old new =>
            obtain rfl := Option.some.inj after
            obtain ⟨text, pod, rfl, named, available, mine⟩ := lawful.claimed claimed
            rw [mine] at owned
            cases owned
            exact .inr ⟨⟨text, pod, old, new, rfl, named, rfl, available, claimed, mine⟩, old,
              turns.1, available⟩
        | removed => contradiction
    | foreign effect =>
        cases effect with
        | created key made =>
            obtain rfl := Option.some.inj after
            exact absurd claimed lawful
        | changed key old new =>
            obtain rfl := Option.some.inj after
            obtain ⟨sameState, sameClaimant⟩ := lawful
            exact .inl ⟨old, turns.1, sameState.symm.trans claimed,
              sameClaimant.symm.trans owned⟩
        | removed => contradiction
  · exact .inl ⟨vmi, (turns.stored_of_ne here).symm.trans stored, claimed, owned⟩

end MachineStore

namespace Cluster

variable {cluster last : Cluster} {writes : List Write} {key : ObjectKey} {owner : String}

/-- A pod comes to hold a machine only by claiming it when it is available. -/
theorem Evolves.exists_claim (evolves : Evolves cluster writes last) (sound : cluster.Sound)
    (free : ¬cluster.store.IsHeld key owner) (held : last.store.IsHeld key owner) :
    ∃ front claimed back middle, writes = front ++ claimed :: back ∧
      Evolves cluster front middle ∧ claimed.Claims key owner ∧
      ∃ vmi, middle.store.stored key = some vmi ∧ vmi.poolState? = some .available := by
  induction evolves with
  | done => exact absurd held free
  | @next cluster middle _ wrote later step rest ih =>
      -- The claim is the first step after which the pod holds the machine.
      by_cases heldNow : middle.store.IsHeld key owner
      · cases wrote with
        | none =>
            rw [step.store_eq] at heldNow
            exact absurd heldNow free
        | some write =>
            obtain ⟨lawful, turns⟩ := sound.lawful step
            rcases heldNow.before_write lawful turns with before | ⟨claims, available⟩
            · exact absurd before free
            · exact ⟨[], write, later, cluster, rfl, .done, claims, available⟩
      · obtain ⟨front, claimed, back, at_claim, rfl, evolves, claims, available⟩ :=
          ih (sound.step step) heldNow held
        exact ⟨wrote.toList ++ front, claimed, back, at_claim, by simp, .next step evolves, claims,
          available⟩

/-- A pod ceases to hold a machine only when it is given back or lost. -/
theorem Evolves.exists_return_or_loss (evolves : Evolves cluster writes last)
    (sound : cluster.Sound) (held : cluster.store.IsHeld key owner)
    (free : ¬last.store.IsHeld key owner) :
    ∃ write ∈ writes, write.Returns key owner ∨ write.Loses key := by
  induction evolves with
  | done => exact absurd held free
  | @next cluster middle _ wrote later step rest ih =>
      by_cases heldNow : middle.store.IsHeld key owner
      · obtain ⟨write, member, ends⟩ := ih (sound.step step) heldNow free
        exact ⟨write, List.mem_append_right _ member, ends⟩
      · cases wrote with
        | none =>
            rw [step.store_eq] at heldNow
            exact absurd held heldNow
        | some write =>
            obtain ⟨lawful, turns⟩ := sound.lawful step
            rcases held.after_write lawful turns with after | ends
            · exact absurd after heldNow
            · exact ⟨write, by simp, ends⟩

/-- A machine passes from one pod to another only by being given back and then
claimed, unless it is lost. -/
theorem Evolves.passed_on {other : String} (evolves : Evolves cluster writes last)
    (sound : cluster.Sound) (held : cluster.store.IsHeld key owner)
    (heldThen : last.store.IsHeld key other) (distinct : owner ≠ other) :
    (∃ lost ∈ writes, lost.Loses key) ∨
      ∃ front returned between claimed back,
        writes = front ++ returned :: (between ++ claimed :: back) ∧
          returned.Returns key owner ∧ claimed.Claims key other := by
  have unclaimed : ¬cluster.store.IsHeld key other := fun also => distinct (held.unique also)
  obtain ⟨front, claimed, back, middle, rfl, before, claims, vmi, stored, available⟩ :=
    evolves.exists_claim sound unclaimed heldThen
  have free : ¬middle.store.IsHeld key owner := by
    rintro ⟨same, storedToo, isClaimed, -⟩
    rw [stored] at storedToo
    cases storedToo
    rw [available] at isClaimed
    contradiction
  obtain ⟨write, member, returns | loses⟩ := before.exists_return_or_loss sound held free
  · obtain ⟨first, between, rfl⟩ := List.append_of_mem member
    exact .inr ⟨first, write, between, claimed, back, by simp, returns, claims⟩
  · exact .inl ⟨write, List.mem_append_left _ member, loses⟩

/-- Whatever duties go on at once against stale caches: every change of a machine that
takes effect leads from one state of the pool to the next, a tick removes only a
machine that is available, and a machine that one pod holds comes to be held by
another only after it was given back and claimed anew, unless it was lost in between
to a departing pod or to others. -/
theorem pool_claims_exclusive {store : MachineStore}
    (evolves : Evolves ⟨store, []⟩ writes cluster) :
    (∀ duty key before after, .own duty (.changed key before after) ∈ writes →
      ∃ old new, before.poolState? = some old ∧ after.poolState? = some new ∧ old.Leads new) ∧
    (∀ key vmi, .own .tick (.removed key vmi) ∈ writes → vmi.poolState? = some .available) ∧
    ∀ later last key owner other, Evolves cluster later last →
      cluster.store.IsHeld key owner → last.store.IsHeld key other → owner ≠ other →
        (∃ lost ∈ later, lost.Loses key) ∨
          ∃ front returned between claimed back,
            later = front ++ returned :: (between ++ claimed :: back) ∧
              returned.Returns key owner ∧ claimed.Claims key other := by
  have idle : Sound ⟨store, []⟩ := by simp [Sound]
  refine ⟨?_, ?_, ?_⟩
  · intro duty key before after member
    have lawful : Lawful duty (.changed key before after) := evolves.lawful idle _ member
    exact lawful.leads
  · intro key vmi member
    have lawful : Lawful .tick (.removed key vmi) := evolves.lawful idle _ member
    exact lawful.available_of_trim
  · intro later last key owner other continues held heldThen distinct
    exact continues.passed_on (evolves.sound idle) held heldThen distinct

/-- A running machine of the pool at a version and with labels. -/
def poolMachine (version : String) (labels : Entries String) : Vmi where
  metadata :=
    { name := some "m", space := some "pool", resourceVersion := some version
      labels := some labels }
  spec := {}
  status := some { phase := some .running }

/-- The machine as it is available. -/
def spare : Vmi :=
  poolMachine "1" [(poolStateLabel, PoolState.available.label)]

/-- The machine as the pod `a/p` claimed it. -/
def taken : Vmi :=
  poolMachine "2" [(claimantLabel, "a/p"), (poolStateLabel, PoolState.claimed.label)]

/-- Only that machine is stored, and it is available. -/
def spareStore : MachineStore where
  stored key := if key = ⟨"pool", "m"⟩ then some spare else none
  versions := [spare]
  key_of_stored := by
    intro key vmi stored
    split at stored
    · next same =>
      cases stored
      rw [same]
      rfl
    · contradiction
  mem_of_stored := by
    intro key vmi stored
    split at stored
    · cases stored
      exact List.mem_cons_self
    · contradiction
  versioned := by simp [spare, poolMachine]
  eq_of_version_eq := by simp

/-- Two gated pods and that machine. -/
def rivalSite : Site where
  cache :=
    { pods := ["a", "b"].map fun space =>
        { metadata := { name := some "p", space := some space }
          spec := some { containers := [], gates := some [gateName] } }
      vmis := [spare] }

/-- The first of the pods claims the machine. -/
theorem spareStore_serves_claim : ∃ served,
    spareStore.Serves (.changeMachine "pool" "m" (.claim (some "1") "a/p")) (.ok taken)
      (some (.changed ⟨"pool", "m"⟩ spare taken)) served := by
  have pinned (version : Json) (carried : (VmiPatch.claim (some "1") "a/p").toJson.metadataMember?
      "resourceVersion" = some version) :
      spare.metadata.resourceVersion.map .str = some version := by
    rw [VmiPatch.metadataMember?_resourceVersion] at carried
    exact carried
  have makes : (VmiPatch.claim (some "1") "a/p").Makes spare taken := by
    refine ⟨rfl, rfl, ?_⟩
    rw [VmiPatch.metadataMember?_labels_merged]
    rfl
  have fresh : spareStore.IsFresh taken := ⟨rfl, by simp [spareStore, spare, taken, poolMachine]⟩
  exact ⟨_, .change rfl pinned makes rfl fresh fun _ told => (Except.ok.inj told).symm⟩

/-- Two pods look at one cache in which the machine is available; the first takes it
and the second is refused. -/
theorem rivals_claim_exclusively :
    ∃ cluster, Evolves ⟨spareStore, []⟩
        [.own (.pass "a/p") (.changed ⟨"pool", "m"⟩ spare taken)] cluster ∧
      ∃ old new, spare.poolState? = some old ∧ taken.poolState? = some new ∧ old.Leads new := by
  have known : ∀ vmi ∈ rivalSite.cache.vmis, vmi ∈ spareStore.versions := fun _ member => member
  obtain ⟨served, serves⟩ := spareStore_serves_claim
  obtain ⟨cluster, writes, evolves, rfl⟩ : ∃ cluster writes,
      Evolves ⟨spareStore, []⟩ writes cluster ∧
        writes = [.own (.pass "a/p") (.changed ⟨"pool", "m"⟩ spare taken)] := by
    refine ⟨_, _, .next (@Step.begin _ _ (.pass "b/p") _ known)
      (.next (@Step.begin _ _ (.pass "a/p") _ known)
      (.next (@Step.go _ _ [] _ _ _ _ (@Task.Goes.call _ _ _ _ _ _ (.ok none) none _ .readMachine))
      (.next (@Step.go _ _ [_] _ _ _ _ (@Task.Goes.call _ _ _ _ _ _ (.ok none) none _ .readMachine))
      (.next (@Step.go _ _ [] _ _ _ _ (@Task.Goes.call _ _ _ _ _ _ (.ok taken) _ _ serves))
      (.next (@Step.go _ _ [_] _ _ _ _ (@Task.Goes.call _ _ _ _ _ _
        (.error (.conflict "")) none _ .refuse)) .done))))), rfl⟩
  exact ⟨cluster, evolves,
    (pool_claims_exclusive evolves).1 _ _ _ _ List.mem_cons_self⟩

end Cluster

end NodeGate
