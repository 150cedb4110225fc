import NodeGate.Proofs.Cluster.Registry
import NodeGate.Proofs.Release.Hosting

/-!
# What a pass writes to

Whatever a pass over a pod is answered, it writes to nothing but the pod, the machine named
after the pod, the machine of the pool that the pod holds or is about to claim, and the node
of that machine. So it does not touch a machine of the pool that the cache shows as being
made, in a state that is not known, or as claimed for another pod.
-/

namespace NodeGate.Release

open Program

/-- The calls that write to nothing but the pod of a key, the machine named after it, and the
machines that it deals with and their nodes. The machine named after the pod is not deleted
if the cache shows that it belongs to the pool. -/
inductive Within (site : Site) (key : ObjectKey) (deals : Vmi → Prop) : Call → Prop where
  | read : Within site key deals (.readMachine key.space key.name)
  | pod {patch : PodPatch} : Within site key deals (.changePod key.space key.name patch)
  | create {vmi : Vmi} (keyed : vmi.key = .ok key) : Within site key deals (.createMachine vmi)
  | delete {version : Option String}
      (own : ∀ vmi, site.cache.vmi? key = some vmi → vmi.isPooled = false) :
      Within site key deals (.deleteMachine key.space key.name version)
  | machine {vmi : Vmi} {held : ObjectKey} {patch : VmiPatch} (dealt : deals vmi)
      (keyed : vmi.key = .ok held) :
      Within site key deals (.changeMachine held.space held.name patch)
  | node {vmi : Vmi} {patch : NodePatch} (dealt : deals vmi) :
      Within site key deals (.changeNode vmi.nodeName patch)

/-- The cache shows the machine as claimed for the pod of the key. -/
def Holds (site : Site) (key : ObjectKey) (vmi : Vmi) : Prop :=
  site.cache.heldBy? key.text = some vmi

/-- A pass deals with the machine of the pool that the pod holds, and with the first one that
is there to be claimed if it provides for the pod. -/
inductive DealsWith (site : Site) (key : ObjectKey) (pod : Pod) (vmi : Vmi) : Prop where
  | held (holds : Holds site key vmi)
  | spare (staying : pod.isDeleting = false) (gatedOnce : pod.gateCount = 1)
      (unserved : site.cache.machineOf? key = none)
      (candidate : site.cache.candidate? = some vmi)

/-- The cache shows a machine of the pool as being made, in a state that is not known, or as
claimed for another pod than that of the key. -/
structure IsForeign (key : ObjectKey) (vmi : Vmi) : Prop where
  pooled : vmi.isPooled = true
  state : vmi.poolState? = some .creating ∨ vmi.poolState? = none ∨
    (vmi.poolState? = some .claimed ∧ vmi.claimant? ≠ some key.text)

/-- A call neither changes nor deletes the machine, and changes the node of its name only as
that of a machine of the same name that is dealt with. -/
structure Spares (deals : Vmi → Prop) (vmi : Vmi) (asked : Call) : Prop where
  unchanged : ∀ held patch, vmi.key = .ok held → asked ≠ .changeMachine held.space held.name patch
  undeleted : ∀ held version, vmi.key = .ok held →
    asked ≠ .deleteMachine held.space held.name version
  node : ∀ patch, asked = .changeNode vmi.nodeName patch →
    ∃ dealt, deals dealt ∧ dealt.nodeName = vmi.nodeName

variable {site : Site} {key : ObjectKey} {pod : Pod} {vmi : Vmi} {past : List Happening}
  {text : String} {deals : Vmi → Prop} {asked : Call}

/-- A machine that the pod holds is cached, and is not foreign. -/
theorem Holds.not_isForeign (holds : Holds site key vmi) :
    vmi ∈ site.cache.vmis ∧ ¬IsForeign key vmi := by
  obtain ⟨member, -, claimed, claimant⟩ := Cache.heldBy?_eq_some holds
  refine ⟨member, fun foreign => ?_⟩
  simpa [claimed, claimant] using foreign.state

/-- So is every machine that a pass deals with. -/
theorem DealsWith.not_isForeign (dealt : DealsWith site key pod vmi) :
    vmi ∈ site.cache.vmis ∧ ¬IsForeign key vmi := by
  cases dealt with
  | held holds => exact holds.not_isForeign
  | spare _ _ _ candidate =>
      obtain ⟨member, -, available, -⟩ := Cache.candidate?_eq_some candidate
      refine ⟨member, fun foreign => ?_⟩
      simpa [available] using foreign.state

/-- What stays within the machines that are dealt with spares the foreign ones. -/
theorem Within.spares (within : Within site key deals asked)
    (dealt : ∀ other, deals other → other ∈ site.cache.vmis ∧ ¬IsForeign key other)
    (distinct : Cache.Distinct Vmi.metadata site.cache.vmis) (member : vmi ∈ site.cache.vmis)
    (foreign : IsForeign key vmi) : Spares deals vmi asked := by
  cases within with
  | @machine other otherHeld _ otherDealt otherKeyed =>
      constructor
      · intro held patch keyed same
        obtain ⟨sameSpace, sameName, -⟩ := Call.changeMachine.inj same
        have sameKey : otherHeld = held := by
          cases otherHeld
          cases held
          exact congrArg₂ ObjectKey.mk sameSpace sameName
        obtain ⟨otherMember, ours⟩ := dealt other otherDealt
        have isOther : other = vmi := distinct other otherMember vmi member
          ((Vmi.sameIdentity_iff_key otherKeyed keyed).mpr sameKey)
        exact ours (isOther ▸ foreign)
      · nofun
      · nofun
  | delete own =>
      constructor
      · nofun
      · -- The cache finds the foreign machine under the key that is deleted.
        intro held version keyed same
        obtain ⟨sameSpace, sameName, -⟩ := Call.deleteMachine.inj same
        have sameKey : held = key := by
          cases held
          cases key
          exact congrArg₂ ObjectKey.mk sameSpace.symm sameName.symm
        have outside := own vmi (sameKey ▸ Cache.vmi?_of_key distinct member keyed)
        simp [foreign.pooled] at outside
      · nofun
  | node otherDealt =>
      constructor
      · nofun
      · nofun
      · exact fun patch same => ⟨_, otherDealt, (Call.changeNode.inj same).1⟩
  | _ => constructor <;> nofun

theorem openGate_within :
    Asks (openGate site key pod vmi) (Within site key deals) past :=
  openGate_asks.relax fun _ _ opening => by
    cases opening
    exact .pod

theorem pinToMachine_within (dealt : deals vmi) :
    Asks (pinToMachine site key pod vmi) (Within site key deals) past :=
  pinToMachine_obeys (fun _ => .node dealt) (fun _ => .pod)

/-- Releasing a machine deals with the one that the pod holds. -/
theorem releaseMachine_within (holds : ∀ vmi, Holds site key vmi → deals vmi) :
    Asks (releaseMachine site key pod) (Within site key deals) past := by
  apply releaseMachine_obeys
  · intro vmi held
    apply giveBack_asks
    · intro own claimant node patch keyed _ _ _
      rw [← Vmi.nodeName_of_key keyed]
      exact .node (holds vmi held)
    · exact fun own keyed => .machine (holds vmi held) keyed
  · exact .read
  · exact .delete

theorem depart_within :
    Asks (depart site key pod) (Within site key (DealsWith site key pod)) past :=
  depart_obeys (releaseMachine_within fun _ => .held) fun _ _ _ => .pod

/-- What provides for a pod that no machine serves deals with the first machine that is there
to be claimed. -/
theorem Provision.within (staying : pod.isDeleting = false) (gatedOnce : pod.gateCount = 1)
    (unserved : site.cache.machineOf? key = none) (provision : Provision site key pod asked) :
    Within site key (DealsWith site key pod) asked := by
  cases provision with
  | read => exact .read
  | claim candidate keyed => exact .machine (.spare staying gatedOnce unserved candidate) keyed
  | reserve obtained joined tainted =>
      exact .node (obtained.elim .held (.spare staying gatedOnce unserved))
  | select obtained selected => exact .pod
  | create sized => exact .create rfl

theorem obtainMachine_within (staying : pod.isDeleting = false) (gatedOnce : pod.gateCount = 1)
    (unserved : site.cache.machineOf? key = none) :
    Asks (obtainMachine site key pod) (Within site key (DealsWith site key pod)) past := by
  apply obtainMachine_secures
  · exact .read
  · exact fun _ => trivial
  · exact fun _ _ _ => openGate_within
  · intro found program _ asks
    exact asks.relax fun _ _ provision => provision.within staying gatedOnce unserved

theorem serve_within (staying : pod.isDeleting = false) (gatedOnce : pod.gateCount = 1) :
    Asks (serve site key pod) (Within site key (DealsWith site key pod)) past := by
  unfold serve
  cases found : site.cache.machineOf? key with
  | none => exact obtainMachine_within staying gatedOnce found
  | some vmi =>
      dsimp only
      split
      next pooled =>
        have holds : Holds site key vmi := by
          rcases Cache.machineOf?_eq_some found with ⟨-, outside⟩ | ⟨holds, -⟩
          · simp [pooled] at outside
          · exact holds
        apply (pinToMachine_within (.held holds)).andThen
        rintro later (fault | _ | _) - -
        · trivial
        · exact openGate_within
        · trivial
      · exact openGate_within

/-- A call stays within the pod of a key, the machine named after it and the machines that are
dealt with, and spares the foreign ones if every machine of the cache has a key of its own. -/
structure Confined (site : Site) (key : ObjectKey) (deals : Vmi → Prop) (asked : Call) :
    Prop where
  within : Within site key deals asked
  spares : Cache.Distinct Vmi.metadata site.cache.vmis →
    ∀ vmi ∈ site.cache.vmis, IsForeign key vmi → Spares deals vmi asked

/-- Whatever the calls of a pass are answered, they are confined to the pod of its key; and so
are those when a pod vanished, which deal with the machine that it held. -/
theorem writes_confined (site : Site) :
    (∀ text trace disposition, Runs (pass site text) trace disposition →
      ∀ asked answer, .answered asked answer ∈ trace →
        ∃ key pod, ObjectKey.ofText text = .ok key ∧ site.cache.pod? key = some pod ∧
          Confined site key (DealsWith site key pod) asked) ∧
    ∀ pod trace, Runs (podVanished site pod) trace () →
      ∀ asked answer, .answered asked answer ∈ trace →
        ∃ text key, pod.key? = some text ∧ ObjectKey.ofText text = .ok key ∧
          Confined site key (Holds site key) asked := by
  constructor
  · intro text trace disposition run asked answer member
    have asks : Asks (pass site text) (fun asked => ∃ key pod, ObjectKey.ofText text = .ok key ∧
        site.cache.pod? key = some pod ∧ Within site key (DealsWith site key pod) asked) [] := by
      refine pass_obeys fun key pod named cached => ?_
      have within : Asks (attend site key pod) (Within site key (DealsWith site key pod)) [] :=
        attend_obeys (fun _ => depart_within) serve_within
      exact within.relax fun _ _ within => ⟨key, pod, named, cached, within⟩
    obtain ⟨key, pod, named, cached, within⟩ := asks.rule_of_mem run member
    refine ⟨key, pod, named, cached, within, ?_⟩
    exact fun distinct vmi there =>
      within.spares (fun _ dealt => dealt.not_isForeign) distinct there
  · intro pod trace run asked answer member
    have asks : Asks (podVanished site pod) (fun asked => ∃ text key, pod.key? = some text ∧
        ObjectKey.ofText text = .ok key ∧ Within site key (Holds site key) asked) [] := by
      refine podVanished_obeys fun text key keyed named => ?_
      exact (releaseMachine_within fun _ => id).relax
        fun _ _ within => ⟨text, key, keyed, named, within⟩
    obtain ⟨text, key, keyed, named, within⟩ := asks.rule_of_mem run member
    refine ⟨text, key, keyed, named, within, ?_⟩
    exact fun distinct vmi there =>
      within.spares (fun _ holds => holds.not_isForeign) distinct there

/-- A machine of the pool that another pod holds. -/
def takenMachine : Vmi where
  metadata :=
    { name := some "n"
      space := some "pool"
      labels := some [(claimantLabel, "b/q"), (poolStateLabel, PoolState.claimed.label)] }
  spec := {}

/-- The large pod, a machine of the pool, and one that another pod holds. -/
def sharedSite : Site where
  cache := { pods := [largePod], vmis := [takenMachine, spareMachine] }

/-- The pass that claims the one machine spares the other. -/
theorem sharedSite_spares : ∃ told, Runs (pass sharedSite "a/p") (claimingTrace told) .immediate ∧
    IsForeign ⟨"a", "p"⟩ takenMachine ∧
    ∀ asked answer, .answered asked answer ∈ claimingTrace told →
      Spares (DealsWith sharedSite ⟨"a", "p"⟩ largePod) takenMachine asked := by
  obtain ⟨told, run⟩ : ∃ told, Runs (pass sharedSite "a/p") (claimingTrace told) .immediate :=
    ⟨_, .request (.request (.request (.signal .done)))⟩
  have foreign : IsForeign ⟨"a", "p"⟩ takenMachine :=
    ⟨by decide, .inr (.inr ⟨by decide, by decide⟩)⟩
  have distinct : Cache.Distinct Vmi.metadata sharedSite.cache.vmis := by
    simp [Cache.Distinct, sharedSite, Cache.sameIdentity, takenMachine, spareMachine,
      ObjectMeta.nameOrEmpty]
  refine ⟨told, run, foreign, fun asked answer member => ?_⟩
  obtain ⟨key, pod, named, cached, confined⟩ :=
    (writes_confined sharedSite).1 _ _ _ run asked answer member
  have isKey : ObjectKey.ofText "a/p" = .ok ⟨"a", "p"⟩ := by decide
  obtain rfl := Except.ok.inj (isKey.symm.trans named)
  have isPod : sharedSite.cache.pod? ⟨"a", "p"⟩ = some largePod := by decide
  obtain rfl := Option.some.inj (isPod.symm.trans cached)
  exact confined.spares distinct takenMachine (.head _) foreign

end NodeGate.Release
