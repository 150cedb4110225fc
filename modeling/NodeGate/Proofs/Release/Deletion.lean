import NodeGate.Proofs.Cluster.Registry
import NodeGate.Proofs.Pool.Duty
import NodeGate.Proofs.Release.Tenancy

/-!
# What a release deletes

The machine named after a pod is deleted at whatever version it is stored. A machine of the
pool with that name is spared when the cache shows it, or when the API server is asked and
tells of it. Whoever asks does so before the deletion, and nothing that is asked in between
touches what is stored under that name.
-/

namespace NodeGate

namespace MachineStore

/-- One call after another is answered, and each leaves what is stored then. Nobody else
writes meanwhile, and a machine is read as it is stored. -/
inductive Answers : MachineStore → List Happening → MachineStore → Prop where
  | nothing {store : MachineStore} : Answers store [] store
  | told {store served : MachineStore} {told : Signal} {past : List Happening}
      (rest : Answers store past served) : Answers store (.told told :: past) served
  | answered {store between served : MachineStore} {asked : Call}
      {answer : Except Fault asked.Answer} {effect : Option Effect} {past : List Happening}
      (serves : store.Serves asked answer effect between)
      (truthful : ∀ space name found,
        Happening.answered asked answer = .answered (.readMachine space name) (.ok found) →
          store.stored ⟨space, name⟩ = found)
      (rest : Answers between past served) : Answers store (.answered asked answer :: past) served

/-- No machine of the pool is stored under that key. -/
def Unpooled (store : MachineStore) (key : ObjectKey) : Prop :=
  ∀ vmi, store.stored key = some vmi → vmi.isPooled = false

variable {store served : MachineStore} {before after : List Happening} {key : ObjectKey}

theorem Answers.of_append (answers : store.Answers (before ++ after) served) :
    ∃ between, store.Answers before between ∧ between.Answers after served := by
  induction before generalizing store with
  | nil => exact ⟨store, .nothing, answers⟩
  | cons first before ih =>
      cases answers with
      | told rest =>
          obtain ⟨between, former, latter⟩ := ih rest
          exact ⟨between, .told former, latter⟩
      | answered serves truthful rest =>
          obtain ⟨between, former, latter⟩ := ih rest
          exact ⟨between, .answered serves truthful former, latter⟩

/-- What the API server tells of a machine is what is stored when it is asked. -/
theorem Answers.stored_of_read {found : Option Vmi}
    (answers : store.Answers
      (.answered (.readMachine key.space key.name) (.ok found) :: after) served) :
    store.stored key = found := by
  cases answers with
  | answered serves truthful rest => exact truthful _ _ _ rfl

end MachineStore

namespace Release

open Program

/-- A call that writes no machine of that key. -/
inductive Prepares (key : ObjectKey) : Call → Prop where
  | free {name : String} {patch : NodePatch} : Prepares key (.changeNode name patch)
  | giveBack {held : ObjectKey} {version : Option String} (other : held ≠ key) :
      Prepares key (.changeMachine held.space held.name (.giveBack version))
  | read {space name : String} : Prepares key (.readMachine space name)

variable {site : Site} {key : ObjectKey} {pod : Pod} {past : List Happening}
  {store served : MachineStore}

theorem Prepares.stored_eq {asked : Call} {answer : Except Fault asked.Answer}
    {effect : Option Effect} (prepares : Prepares key asked)
    (serves : store.Serves asked answer effect served) : served.stored key = store.stored key := by
  cases effect with
  | none => rw [serves.eq_of_no_effect]
  | some effect =>
      apply serves.turns.stored_of_ne
      cases prepares with
      | free => cases serves
      | read => cases serves
      | giveBack other =>
          cases serves
          exact other.symm

/-- Every call that happened left the machine of the key alone. -/
abbrev IsPrepared (key : ObjectKey) (past : List Happening) : Prop :=
  AllCalls (Prepares key) past

theorem IsPrepared.stored_eq (prepared : IsPrepared key past)
    (answers : store.Answers past served) : served.stored key = store.stored key := by
  induction answers with
  | nothing => rfl
  | told _ ih => exact ih fun asked answer member => prepared _ _ (List.mem_cons_of_mem _ member)
  | answered serves _ _ ih =>
      rw [ih fun asked answer member => prepared _ _ (List.mem_cons_of_mem _ member)]
      exact (prepared _ _ List.mem_cons_self).stored_eq serves

/-- What was told of the machine meanwhile is stored still. -/
theorem IsPrepared.stored_of_read {found : Option Vmi} (prepared : IsPrepared key past)
    (answers : store.Answers past served)
    (read : .answered (.readMachine key.space key.name) (.ok found) ∈ past) :
    served.stored key = found := by
  obtain ⟨before, after, rfl⟩ := List.append_of_mem read
  obtain ⟨between, -, latter⟩ := answers.of_append
  rw [← latter.stored_of_read]
  refine IsPrepared.stored_eq (fun asked answer member => ?_) latter
  exact prepared asked answer (List.mem_append_right _ member)

/-- The API server is asked before the machine named after a pod is deleted: none of that
name is cached and the pod holds one of the pool. -/
def AsksFirst (site : Site) (key : ObjectKey) : Prop :=
  site.cache.vmi? key = none ∧ (site.cache.heldBy? key.text).isSome = true

/-- What is so when the machine named after a pod is about to be deleted. -/
structure Cleared (site : Site) (key : ObjectKey) (past : List Happening) : Prop where
  /-- None of the pool is cached under that name. -/
  outside : ∀ vmi, site.cache.vmi? key = some vmi → vmi.isPooled = false
  prepared : IsPrepared key past
  /-- Whoever asks first was told of a machine outside the pool. -/
  told : AsksFirst site key → ∃ found,
    .answered (.readMachine key.space key.name) (.ok (some found)) ∈ past ∧ found.isPooled = false

/-- A machine is deleted only when that is cleared. -/
def DeletesCleared (site : Site) (past : List Happening) : Call → Prop
  | .deleteMachine space name _ => Cleared site ⟨space, name⟩ past
  | _ => True

theorem Prepares.deletesCleared {asked : Call} (prepares : Prepares key asked) :
    DeletesCleared site past asked := by
  cases prepares <;> trivial

/-- A machine that the pod holds is another than the one named after it, unless the cache
shows that one as a machine of the pool. -/
theorem ne_of_heldBy? {vmi : Vmi} {held : ObjectKey}
    (distinct : Cache.Distinct Vmi.metadata site.cache.vmis)
    (outside : ∀ vmi, site.cache.vmi? key = some vmi → vmi.isPooled = false)
    (holds : site.cache.heldBy? key.text = some vmi) (keyed : vmi.key = .ok held) :
    held ≠ key := by
  rintro rfl
  obtain ⟨cached, pooled, -, -⟩ := Cache.heldBy?_eq_some holds
  rw [outside vmi (Cache.vmi?_of_key distinct cached keyed)] at pooled
  contradiction

/-- Giving back what the pod holds leaves the machine named after it alone, and tells whether
the pod held one. -/
theorem giveBackClaimed_prepares (distinct : Cache.Distinct Vmi.metadata site.cache.vmis)
    (outside : ∀ vmi, site.cache.vmi? key = some vmi → vmi.isPooled = false) :
    (giveBackClaimed site key pod).Secures (fun _ => Prepares key)
      (fun _ outcome => ∀ returned, outcome = .ok returned →
        returned = (site.cache.heldBy? key.text).isSome) past := by
  unfold giveBackClaimed
  cases holds : site.cache.heldBy? key.text with
  | none => exact fun returned same => (Except.ok.inj same).symm
  | some vmi =>
      have gives : Asks (giveBack site vmi) (Prepares key) past :=
        giveBack_asks (fun _ _ _ _ _ _ _ _ => .free)
          fun held keyed => .giveBack (ne_of_heldBy? distinct outside holds keyed)
      apply gives.andThen
      rintro later (fault | _) - -
      · exact fun returned same => nomatch same
      · exact fun returned same => (Except.ok.inj same).symm

/-- A release deletes nothing while the cache shows a machine of the pool under the name. -/
theorem releaseMachine_spares_cached {vmi : Vmi} (cached : site.cache.vmi? key = some vmi)
    (pooled : vmi.isPooled = true) :
    (releaseMachine site key pod).Secures (DeletesCleared site) (fun _ _ => True) past := by
  have spares : Asks (releaseMachine site key pod)
      (fun asked => ∀ past, DeletesCleared site past asked) past := by
    apply releaseMachine_obeys
    · intro held _
      exact giveBack_asks (fun _ _ _ _ _ _ _ _ _ => trivial) fun _ _ _ => trivial
    · exact fun _ => trivial
    · intro outside
      rw [outside vmi cached] at pooled
      contradiction
  exact spares.relax fun past _ clears => clears past

/-- Otherwise it deletes the machine after giving back another, and after asking for it if
that is to be done first. -/
theorem releaseMachine_clears_outside (distinct : Cache.Distinct Vmi.metadata site.cache.vmis)
    (outside : ∀ vmi, site.cache.vmi? key = some vmi → vmi.isPooled = false) :
    (releaseMachine site key pod).Secures (DeletesCleared site) (fun _ _ => True) [] := by
  have gives : (giveBackClaimed site key pod).Secures (DeletesCleared site)
      (fun later outcome => IsPrepared key later ∧ ∀ returned, outcome = .ok returned →
        returned = (site.cache.heldBy? key.text).isSome) [] :=
    ((giveBackClaimed_prepares distinct outside).collect allCalls_nil).relax
      fun _ _ prepares => prepares.2.deletesCleared
  apply gives.andThen
  rintro later (fault | returned) - ⟨prepared, tells⟩
  · trivial
  · cases cached : site.cache.vmi? key with
    | some vmi =>
        simp only [outside vmi cached, Bool.false_eq_true, if_false]
        exact deleteDedicated_obeys ⟨outside, prepared, fun asks => by simp [asks.1] at cached⟩
    | none =>
        obtain rfl := tells returned rfl
        dsimp only
        split
        next holds =>
          refine secures_call_bind.mpr ⟨trivial, ?_⟩
          rintro (fault | _ | found)
          · trivial
          · trivial
          · dsimp only
            split
            · trivial
            next unpooled =>
              have unpooled : found.isPooled = false := by simpa using unpooled
              apply deleteDedicated_obeys
              constructor
              · exact outside
              · exact allCalls_append_answered.mpr ⟨prepared, .read⟩
              · exact fun _ => ⟨found, by simp, unpooled⟩
        next idle =>
          exact deleteDedicated_obeys ⟨outside, prepared, fun asks => absurd asks.2 idle⟩

/-- A release deletes the machine named after the pod only when that is cleared. -/
theorem releaseMachine_clears (distinct : Cache.Distinct Vmi.metadata site.cache.vmis) :
    (releaseMachine site key pod).Secures (DeletesCleared site) (fun _ _ => True) [] := by
  by_cases pooled : ∃ vmi, site.cache.vmi? key = some vmi ∧ vmi.isPooled = true
  · obtain ⟨vmi, cached, pooled⟩ := pooled
    exact releaseMachine_spares_cached cached pooled
  · apply releaseMachine_clears_outside distinct
    intro vmi cached
    by_contra member
    exact pooled ⟨vmi, cached, by simpa using member⟩

theorem pass_clears {text : String} (distinct : Cache.Distinct Vmi.metadata site.cache.vmis) :
    (pass site text).Secures (DeletesCleared site) (fun _ _ => True) [] := by
  refine pass_obeys fun key pod _ _ => attend_obeys (fun _ => ?_) fun _ _ => ?_
  · exact depart_obeys (releaseMachine_clears distinct) fun _ _ _ => trivial
  · apply serve_asks.relax
    rintro past asked (provision | opening)
    · cases provision <;> trivial
    · cases opening
      trivial

end Release

namespace Duty

open Program Release

variable {site : Site} {duty : Duty} {space name : String} {version : Option String}
  {trace before after : List Happening} {answer : Except Fault Unit}
  {store served : MachineStore}

theorem program_clears (distinct : Cache.Distinct Vmi.metadata site.cache.vmis)
    (leaving : duty ≠ .tick) :
    (duty.program site).Secures (DeletesCleared site) (fun _ _ => True) [] := by
  cases duty with
  | pass text => exact secures_map.mpr ((pass_clears distinct).weaken fun _ _ _ => trivial)
  | farewell pod => exact podVanished_obeys fun _ _ _ _ => releaseMachine_clears distinct
  | tick => contradiction

/-- When a machine is deleted by its name, the cache shows none of the pool under that name,
and the API server stores none either exactly if it was asked first or stored none when the
release began. -/
theorem deletion_spares_pool_iff (distinct : Cache.Distinct Vmi.metadata site.cache.vmis)
    (leaving : duty ≠ .tick) (run : Runs (duty.program site) trace ())
    (split : trace = before ++ .answered (.deleteMachine space name version) answer :: after)
    (answers : store.Answers before served) :
    (∀ vmi, site.cache.vmi? ⟨space, name⟩ = some vmi → vmi.isPooled = false) ∧
      (served.Unpooled ⟨space, name⟩ ↔
        AsksFirst site ⟨space, name⟩ ∨ store.Unpooled ⟨space, name⟩) := by
  have cleared : Cleared site ⟨space, name⟩ before :=
    (program_clears distinct leaving).rule_of_runs run split
  have kept := cleared.prepared.stored_eq answers
  refine ⟨cleared.outside, ?_⟩
  unfold MachineStore.Unpooled
  rw [kept]
  constructor
  · exact .inr
  · rintro (asks | unpooled)
    · obtain ⟨found, read, outside⟩ := cleared.told asks
      intro vmi stored
      rw [← kept, cleared.prepared.stored_of_read answers read, Option.some.injEq] at stored
      rw [← stored, outside]
    · exact unpooled

/-- A pod of that key whose deletion was asked for, and these machines, are cached. -/
def partingSite (key : ObjectKey) (vmis : List Vmi) : Site where
  cache :=
    { pods :=
        [{ metadata :=
            { name := some key.name
              space := some key.space
              finalizers := some [finalizerName]
              deletionTimestamp := some ⟨⟨2024, 1, 1⟩, 0, 0, 0, 0⟩ } }]
      vmis := vmis }

/-- A machine of the pool that the pod holds. -/
def heldMachine : Vmi where
  metadata :=
    { name := some "m0", space := some "pool", resourceVersion := some "1"
      labels := some [(claimantLabel, "a/p"), (poolStateLabel, PoolState.claimed.label)] }
  spec := {}

/-- The machine after the pod gave it back. -/
def returnedMachine : Vmi :=
  heldMachine.relabelled (.giveBack (some "1")) "2"

/-- The machine that is named after the pod. -/
def ownMachine : Vmi where
  metadata := { name := some "p", space := some "a", resourceVersion := some "1" }
  spec := {}

/-- No machine is stored, and none was. -/
def bareStore : MachineStore where
  stored _ := none
  versions := []
  key_of_stored stored := by contradiction
  mem_of_stored stored := by contradiction
  versioned := by simp
  eq_of_version_eq := by simp

/-- Both machines are stored. -/
def holdingStore : MachineStore :=
  (bareStore.put ⟨"a", "p"⟩ ownMachine rfl ⟨rfl, by simp [bareStore]⟩).put ⟨"pool", "m0"⟩
    heldMachine rfl
    ⟨rfl, by simp [bareStore, MachineStore.put, ownMachine, heldMachine, Vmi.key]⟩

/-- The held machine is given back, and the API server is asked for the one of the pod's
own. -/
def askingTrace (counted remarked : Signal) : List Happening :=
  [.answered (.changeMachine "pool" "m0" (.giveBack (some "1"))) (.ok returnedMachine),
    .told counted, .told remarked, .answered (.readMachine "a" "p") (.ok (some ownMachine))]

/-- The machine named after the pod is deleted, and the pod is let go. -/
def partingTrace (key : ObjectKey) (told : Signal) (patch : PodPatch) : List Happening :=
  [.answered (.deleteMachine key.space key.name none) (.ok ()), .told told,
    .answered (.changePod key.space key.name patch) (.ok ())]

theorem holdingStore_answers (counted remarked : Signal) :
    ∃ served, holdingStore.Answers (askingTrace counted remarked) served := by
  have fresh : holdingStore.IsFresh returnedMachine := by
    refine ⟨rfl, fun other known _ => ?_⟩
    have version : other.metadata.resourceVersion = some "1" := by
      rcases List.mem_pair.mp known with rfl | rfl <;> rfl
    simp [version, returnedMachine, Vmi.relabelled]
  have stored : holdingStore.stored ⟨"pool", "m0"⟩ = some heldMachine := rfl
  have makes : (VmiPatch.giveBack (some "1")).Makes heldMachine returnedMachine :=
    VmiPatch.makes_relabelled _ _ _
  have serves : holdingStore.Serves
      (.changeMachine "pool" "m0" (.giveBack (some "1"))) (.ok returnedMachine) _ _ :=
    .change stored (fun pin carried => by
      rw [VmiPatch.metadataMember?_resourceVersion] at carried
      exact carried) makes rfl fresh (fun _ same => (Except.ok.inj same).symm)
  refine ⟨_, .answered serves ?_ (.told (.told (.answered .readMachine ?_ .nothing)))⟩
  · rintro space name found same
    cases same
  · rintro space name found same
    cases same
    rfl

/-- The pod holds a machine of the pool, gives it back, and is told of one of its own before
that is deleted. -/
theorem askedRelease_spares_pool :
    ∃ counted remarked told patch served,
      Runs ((Duty.pass "a/p").program (partingSite ⟨"a", "p"⟩ [heldMachine]))
        (askingTrace counted remarked ++ partingTrace ⟨"a", "p"⟩ told patch) () ∧
      holdingStore.Answers (askingTrace counted remarked) served ∧
      AsksFirst (partingSite ⟨"a", "p"⟩ [heldMachine]) ⟨"a", "p"⟩ ∧
      served.Unpooled ⟨"a", "p"⟩ := by
  obtain ⟨counted, remarked, told, patch, run⟩ : ∃ counted remarked told patch,
      Runs ((Duty.pass "a/p").program (partingSite ⟨"a", "p"⟩ [heldMachine]))
        (askingTrace counted remarked ++ partingTrace ⟨"a", "p"⟩ told patch) () :=
    ⟨_, _, _, _, .request (.signal (.signal (.request (.request (.signal (.request .done))))))⟩
  obtain ⟨served, answers⟩ := holdingStore_answers counted remarked
  have distinct : Cache.Distinct Vmi.metadata
      (partingSite ⟨"a", "p"⟩ [heldMachine]).cache.vmis := by
    simp [Cache.Distinct, partingSite]
  have leaving : Duty.pass "a/p" ≠ .tick := nofun
  have asks : AsksFirst (partingSite ⟨"a", "p"⟩ [heldMachine]) ⟨"a", "p"⟩ := ⟨rfl, rfl⟩
  have spares := (deletion_spares_pool_iff distinct leaving run rfl answers).2
  exact ⟨counted, remarked, told, patch, served, run, answers, asks, spares.mpr (.inl asks)⟩

/-- A pod has the name of a machine of the pool that the cache does not show yet. The machine
is deleted with the pod. -/
theorem namesake_in_pool_deleted : ¬∀ (site : Site) (duty : Duty) (trace before after)
    (space name : String) (version : Option String) (answer : Except Fault Unit)
    (store served : MachineStore), Cache.Distinct Vmi.metadata site.cache.vmis → duty ≠ .tick →
      Runs (duty.program site) trace () →
      trace = before ++ .answered (.deleteMachine space name version) answer :: after →
      store.Answers before served → served.Unpooled ⟨space, name⟩ := by
  intro spared
  obtain ⟨told, patch, run⟩ : ∃ told patch,
      Runs ((Duty.pass "pool/m0").program (partingSite ⟨"pool", "m0"⟩ []))
        (partingTrace ⟨"pool", "m0"⟩ told patch) () :=
    ⟨_, _, .request (.signal (.request .done))⟩
  have distinct : Cache.Distinct Vmi.metadata (partingSite ⟨"pool", "m0"⟩ []).cache.vmis :=
    fun _ member => nomatch member
  have leaving : Duty.pass "pool/m0" ≠ .tick := nofun
  have unpooled : Tenancy.twoSpares.Unpooled ⟨"pool", "m0"⟩ :=
    spared _ _ _ _ _ _ _ _ _ _ _ distinct leaving run (List.nil_append _).symm .nothing
  have pooled : (Tenancy.spareMachine "m0").isPooled = true := rfl
  rw [unpooled (Tenancy.spareMachine "m0") rfl] at pooled
  contradiction

end Duty

end NodeGate
