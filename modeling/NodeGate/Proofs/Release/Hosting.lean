import NodeGate.Proofs.Capacity.MachineMemory
import NodeGate.Proofs.Release.Gate
import NodeGate.Proofs.Release.Outcomes

/-!
# The size of the machine that hosts a pod

A pod is hosted by a machine of its own, which is built with the size that the pod needs,
or by a machine of the pool, which is built before its pod is known and has the base size.
No pass compares the two. A claimed machine is therefore as large as the pod needs exactly
if the pod needs no more than the base.
-/

namespace NodeGate

open Program

variable {defaults : MachineDefaults} {key : ObjectKey} {pod : Pod} {size : MachineSize}

/-- The machine has the specification of one that was made for the pod of the key. -/
def Vmi.BuiltFor (defaults : MachineDefaults) (key : ObjectKey) (pod : Pod) (vmi : Vmi) : Prop :=
  ∃ size join, MachineSize.ofPod defaults pod = .ok size ∧
    vmi.spec = (Manifest.dedicated key.space key.name size defaults join).spec

/-- The machine has the specification of one that was made for the pool. -/
def Vmi.BuiltForPool (defaults : MachineDefaults) (vmi : Vmi) : Prop :=
  ∃ space name join, vmi.spec = (Manifest.pool space name defaults join).spec

/-- The machine has the size that the pod needs, or the base size if it is one of the pool;
then it is as large as the pod needs only if that is the base. -/
structure Vmi.Hosts (defaults : MachineDefaults) (size : MachineSize) (vmi : Vmi) : Prop where
  sized : vmi.IsSized (if vmi.isPooled then .base defaults else size)
  suffices_iff : vmi.Offers size ↔ (vmi.isPooled = true → size = .base defaults)

namespace Vmi

variable {vmi : Vmi}

/-- A machine that was made for a pod has the size that the pod needs. -/
theorem hosts_of_builtFor (bounded : defaults.baseMemoryMi ≤ maxLong)
    (needed : MachineSize.ofPod defaults pod = .ok size) (outside : vmi.isPooled = false)
    (built : vmi.BuiltFor defaults key pod) : vmi.Hosts defaults size := by
  obtain ⟨own, join, sized, specified⟩ := built
  obtain rfl : size = own := Except.ok.inj (needed.symm.trans sized)
  have isSized : vmi.IsSized size :=
    isSized_of_spec (MachineSize.memoryMi_le_of_ofPod bounded needed) specified
  constructor
  · simpa [outside] using isSized
  · simp [isSized.offers_iff, outside]

/-- A machine that was made for the pool has the base size. -/
theorem hosts_of_builtForPool (bounded : defaults.baseMemoryMi ≤ maxLong)
    (needed : MachineSize.ofPod defaults pod = .ok size) (pooled : vmi.isPooled = true)
    (built : vmi.BuiltForPool defaults) : vmi.Hosts defaults size := by
  obtain ⟨space, name, join, specified⟩ := built
  have isSized : vmi.IsSized (.base defaults) := isSized_of_spec bounded specified
  constructor
  · rwa [if_pos pooled]
  · rw [isSized.offers_iff, ← MachineSize.eq_base_iff needed]
    simp [pooled]

end Vmi

namespace Release

variable {site : Site} {text : String} {vmi : Vmi} {trace past : List Happening}

/-- Every machine that a pass can come upon was built under the configuration in effect: those
of the pool for the pool, and the one named after the pod for that pod. -/
structure MachinesBuilt (site : Site) (key : ObjectKey) (pod : Pod) (trace : List Happening) :
    Prop where
  bounded : site.defaults.baseMemoryMi ≤ maxLong
  pool : ∀ vmi ∈ site.cache.vmis, vmi.isPooled = true → vmi.BuiltForPool site.defaults
  own : ∀ vmi, site.cache.vmi? key = some vmi → vmi.isPooled = false →
    vmi.BuiltFor site.defaults key pod
  told : ∀ vmi, .answered (.readMachine key.space key.name) (.ok (some vmi)) ∈ trace →
    vmi.isPooled = false → vmi.BuiltFor site.defaults key pod

/-- What was told of a machine was answered by the API server. -/
theorem answered_of_toldMachine? (told : toldMachine? key past = some vmi) :
    .answered (.readMachine key.space key.name) (.ok (some vmi)) ∈ past := by
  induction past with
  | nil => contradiction
  | cons first rest ih =>
      unfold toldMachine? at told
      split at told
      · contradiction
      next found others same =>
        obtain ⟨rfl, rfl⟩ := List.cons.inj same
        split at told
        next named =>
          obtain ⟨rfl, rfl⟩ := named
          rw [told]
          exact .head _
        next => exact .tail _ (ih told)
      next others _ same =>
        obtain ⟨rfl, rfl⟩ := List.cons.inj same
        exact .tail _ (ih told)

/-- The machine that serves a pod was built for it or for the pool. -/
theorem MachinesBuilt.hosts_of_serving (built : MachinesBuilt site key pod trace)
    (needed : MachineSize.ofPod site.defaults pod = .ok size)
    (earlier : ∀ happening ∈ past, happening ∈ trace)
    (serving : servingMachine? site key past = some vmi) : vmi.Hosts site.defaults size := by
  unfold servingMachine? at serving
  split at serving
  next cached =>
    obtain rfl := Option.some.inj serving
    rcases Cache.machineOf?_eq_some cached with ⟨own, outside⟩ | ⟨holds, pooled⟩
    · exact Vmi.hosts_of_builtFor built.bounded needed outside (built.own _ own outside)
    · have member := (Cache.heldBy?_eq_some holds).1
      exact Vmi.hosts_of_builtForPool built.bounded needed pooled (built.pool _ member pooled)
  next =>
    obtain ⟨told, outside⟩ := Option.filter_eq_some_iff.mp serving
    replace outside : vmi.isPooled = false := by simpa using outside
    have answered := earlier _ (answered_of_toldMachine? told)
    exact Vmi.hosts_of_builtFor built.bounded needed outside (built.told vmi answered outside)

/-- A pass labels a machine as claimed for its pod only if it is the candidate. -/
theorem candidate_of_claims {patch : VmiPatch} {space name : String}
    (asked : PassCall site key pod (.changeMachine space name patch))
    (claims : patch.claimsFor key.text = true) :
    ∃ vmi, site.cache.candidate? = some vmi ∧ vmi.key = .ok ⟨space, name⟩ := by
  rcases asked with provision | parting | opening
  · cases provision with
    | claim candidate keyed => exact ⟨_, candidate, keyed⟩
  · cases parting with
    | giveBack =>
        simp [VmiPatch.claimsFor, VmiPatch.giveBack, Entries.get?] at claims
  · cases opening

/-- The machine that a pass claims for a pod is one of the pool and has the base size, and the
machine that a pass takes the gate off for has the base size if it is one of the pool, and
else the size that the pod needs. It is large enough for the pod exactly if it is the pod's
own or the pod needs no more than the base. -/
theorem hosts_have_built_size {disposition : Disposition}
    (run : Runs (pass site text) trace disposition) (named : ObjectKey.ofText text = .ok key)
    (cached : site.cache.pod? key = some pod)
    (needed : MachineSize.ofPod site.defaults pod = .ok size)
    (built : MachinesBuilt site key pod trace) :
    (∀ space name patch answer, .answered (.changeMachine space name patch) answer ∈ trace →
      patch.claimsFor key.text = true →
        ∃ vmi, site.cache.candidate? = some vmi ∧ vmi.key = .ok ⟨space, name⟩ ∧
          vmi.isPooled = true ∧ vmi.Hosts site.defaults size) ∧
      ∀ before asked answer after, trace = before ++ .answered asked answer :: after →
        asked.dropsGate = true →
          ∃ vmi, IsReady site key pod vmi before ∧ vmi.Hosts site.defaults size := by
  constructor
  · intro space name patch answer member claims
    obtain ⟨before, after, split⟩ := List.append_of_mem member
    have asks : Asks (pass site text) _ [] := pass_asks
    obtain ⟨other, others, parsed, found, asked⟩ := asks.rule_of_runs run split
    obtain rfl := Except.ok.inj (named.symm.trans parsed)
    obtain rfl := Option.some.inj (cached.symm.trans found)
    obtain ⟨vmi, candidate, keyed⟩ := candidate_of_claims asked claims
    obtain ⟨there, pooled, -, -⟩ := Cache.candidate?_eq_some candidate
    exact ⟨vmi, candidate, keyed, pooled,
      Vmi.hosts_of_builtForPool built.bounded needed pooled (built.pool vmi there pooled)⟩
  · intro before asked answer after split drops
    obtain ⟨other, others, vmi, patch, parsed, found, ready, -, -, -⟩ :=
      warranted_of_runs run split drops
    obtain rfl := Except.ok.inj (named.symm.trans parsed)
    obtain rfl := Option.some.inj (cached.symm.trans found)
    have earlier : ∀ happening ∈ before, happening ∈ trace := fun happening member => by
      rw [split]
      exact List.mem_append_left _ member
    exact ⟨vmi, ready, built.hosts_of_serving needed earlier ready.serving⟩

/-- A gated pod that asks for eight cores. -/
def largePod : Pod where
  metadata := { name := some "p", space := some "a" }
  spec := some
    { containers := [{ name := "c", requests := some [("cpu", "8")] }]
      gates := some [gateName] }

/-- The size that the large pod needs. -/
def largeSize : MachineSize :=
  ⟨9, 3072⟩

/-- A machine of the pool that can be claimed. -/
def spareMachine : Vmi where
  metadata :=
    { name := some "m"
      space := some "pool"
      labels := some [(poolStateLabel, PoolState.available.label)] }
  spec := (Manifest.pool "pool" "m" {} {}).spec
  status := some { phase := some .running }

/-- The large pod, and a machine of the pool. -/
def spareSite : Site where
  cache := { pods := [largePod], vmis := [spareMachine] }

/-- The pass for the large pod claims the machine of the pool. -/
def claimingTrace (told : Signal) : List Happening :=
  [.answered (.readMachine "a" "p") (.ok none),
    .answered (.changeMachine "pool" "m" (.claim none "a/p")) (.ok spareMachine),
    .answered (.changePod "a" "p" ⟨none, .host "m"⟩) (.ok ()), .told told]

theorem largePod_needs :
    MachineSize.ofPod spareSite.defaults largePod = .ok largeSize := by
  decide +kernel

theorem claimingTrace_runs :
    ∃ told, Runs (pass spareSite "a/p") (claimingTrace told) .immediate :=
  ⟨_, .request (.request (.request (.signal .done)))⟩

theorem spareSite_machinesBuilt (told : Signal) :
    MachinesBuilt spareSite ⟨"a", "p"⟩ largePod (claimingTrace told) where
  bounded := by decide
  pool vmi member _ := by
    obtain rfl := List.mem_singleton.mp member
    exact ⟨"pool", "m", {}, rfl⟩
  own vmi found := by
    have unnamed : spareSite.cache.vmi? ⟨"a", "p"⟩ = none := by decide
    rw [unnamed] at found
    contradiction
  told vmi member := by
    simp [claimingTrace] at member

theorem largePod_hosted_at_base : ∃ trace, Runs (pass spareSite "a/p") trace .immediate ∧
    ObjectKey.ofText "a/p" = .ok ⟨"a", "p"⟩ ∧
    spareSite.cache.pod? ⟨"a", "p"⟩ = some largePod ∧
    MachineSize.ofPod spareSite.defaults largePod = .ok largeSize ∧
    MachinesBuilt spareSite ⟨"a", "p"⟩ largePod trace ∧
    spareMachine.IsSized (.base spareSite.defaults) ∧ ¬spareMachine.Offers largeSize := by
  obtain ⟨told, run⟩ := claimingTrace_runs
  have built := spareSite_machinesBuilt told
  have named : ObjectKey.ofText "a/p" = .ok ⟨"a", "p"⟩ := by decide
  have cached : spareSite.cache.pod? ⟨"a", "p"⟩ = some largePod := by decide
  obtain ⟨vmi, candidate, -, pooled, hosts⟩ :=
    (hosts_have_built_size run named cached largePod_needs built).1 "pool" "m" _ _
      (.tail _ (.head _)) (by decide)
  have isCandidate : spareSite.cache.candidate? = some spareMachine := rfl
  obtain rfl := Option.some.inj (isCandidate.symm.trans candidate)
  refine ⟨_, run, named, cached, largePod_needs, built, ?_, ?_⟩
  · have sized := hosts.sized
    rwa [if_pos pooled] at sized
  · rw [hosts.suffices_iff]
    exact fun same => absurd (same pooled) (by decide)

/-- Not every machine that is claimed for a pod is as large as the pod needs: the large pod
claims the machine of the pool, which has two cores. -/
theorem largePod_claims_small_machine : ¬ ∀ (site : Site) (text : String) (key : ObjectKey)
    (pod : Pod) (size : MachineSize) (trace : List Happening) (disposition : Disposition),
    Runs (pass site text) trace disposition → ObjectKey.ofText text = .ok key →
    site.cache.pod? key = some pod → MachineSize.ofPod site.defaults pod = .ok size →
    MachinesBuilt site key pod trace → ∀ space name patch answer,
      .answered (.changeMachine space name patch) answer ∈ trace →
      patch.claimsFor key.text = true → ∀ vmi ∈ site.cache.vmis,
        vmi.key = .ok ⟨space, name⟩ → vmi.Offers size := by
  intro always
  obtain ⟨told, run⟩ := claimingTrace_runs
  have offers := always _ _ ⟨"a", "p"⟩ largePod largeSize _ _ run (by decide) (by decide)
    largePod_needs (spareSite_machinesBuilt told) "pool" "m" _ _ (.tail _ (.head _)) (by decide)
    spareMachine (.head _) (by decide)
  have sized : spareMachine.IsSized (.base {}) := Vmi.isSized_of_spec (by decide) rfl
  exact absurd (sized.offers_iff.mp offers).1 (by decide)

end Release

end NodeGate
