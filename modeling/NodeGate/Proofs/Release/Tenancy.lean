import Mathlib.Data.Set.Card
import NodeGate.Proofs.Cluster.MachineStore
import NodeGate.Proofs.Release.Acquisition

/-!
# The machines that a pod holds

Passes for one pod follow each other, each against a cache of its own that may be stale,
while others write too. A pod holds the machine of its own and all machines of the pool
that are labelled with its key. It never holds two as long as every pass that begins while
the pod holds a machine of the pool finds a machine for it in its cache. A cache that
trails the claim of the pass before makes the next pass claim another machine.
-/

namespace NodeGate

open Program Release

namespace MachineStore

/-- The stored machine of that key is one of the pod's own. -/
def HasOwn (store : MachineStore) (key : ObjectKey) : Prop :=
  ∃ vmi, store.stored key = some vmi ∧ vmi.isPooled = false

/-- The stored machine is one of the pool that is labelled with the key of the pod. -/
def HasClaimed (store : MachineStore) (key held : ObjectKey) : Prop :=
  ∃ vmi, store.stored held = some vmi ∧ vmi.isPooled = true ∧ vmi.claimant? = some key.text

/-- The keys of the stored machines that the pod holds. -/
def holding (store : MachineStore) (key : ObjectKey) : Set ObjectKey :=
  {held | (held = key ∧ store.HasOwn key) ∨ store.HasClaimed key held}

variable {store served : MachineStore} {key held : ObjectKey} {effect : Effect}

theorem holding_eq_empty (unowned : ¬store.HasOwn key)
    (unclaimed : ∀ held, ¬store.HasClaimed key held) : store.holding key = ∅ := by
  apply Set.eq_empty_of_forall_notMem
  rintro held (⟨-, own⟩ | claimed)
  · exact unowned own
  · exact unclaimed held claimed

/-- What a pod holds elsewhere than where something took effect it held before. -/
theorem Turns.mem_holding (turns : store.Turns effect served) (holds : held ∈ served.holding key)
    (elsewhere : held ≠ effect.key) : held ∈ store.holding key := by
  rcases holds with ⟨rfl, vmi, stored, own⟩ | ⟨vmi, stored, claimed⟩
  · rw [turns.stored_of_ne elsewhere] at stored
    exact .inl ⟨rfl, vmi, stored, own⟩
  · rw [turns.stored_of_ne elsewhere] at stored
    exact .inr ⟨vmi, stored, claimed⟩

/-- What takes effect of a call acquires a machine or removes one. -/
theorem Serves.acquires_or_removed {asked : Call} {answer : Except Fault asked.Answer}
    (serves : store.Serves asked answer (some effect) served) :
    asked.acquires = true ∨ effect.after? = none := by
  cases serves with
  | create => exact .inl rfl
  | change => exact .inl rfl
  | delete => exact .inr rfl

/-- A removal gives no machine to a pod. -/
theorem Turns.stored_of_removed {vmi : Vmi} (turns : store.Turns effect served)
    (removed : effect.after? = none) (stored : served.stored held = some vmi) :
    store.stored held = some vmi := by
  by_cases here : held = effect.key
  · rw [here, turns.stored_self, removed] at stored
    contradiction
  · rw [← turns.stored_of_ne here, stored]

end MachineStore

/-- A store without the passes, and the pass under way: its site, what happened in it so
far and what is left of it. -/
structure Tenancy where
  store : MachineStore
  site : Site := {}
  past : List Happening := []
  rest : Program Disposition := .done .forget

namespace Tenancy

/-- The API server tells the truth: a call that fails has no effect, and a machine is read
as it is stored. -/
structure Honest (store : MachineStore) (asked : Call) (answer : Except Fault asked.Answer)
    (effect : Option Effect) : Prop where
  quiet : ∀ fault, answer = .error fault → effect = none
  true_of_read : ∀ space name found,
    Happening.answered asked answer = .answered (.readMachine space name) (.ok found) →
      store.stored ⟨space, name⟩ = found

/-- One step around the pod of a work key. When a pass is over the next one begins, against
a cache of machines that were all stored at some time and in which the pod, if it is there,
is not deleting; the pass goes on; or others write, but give the pod no machine. -/
inductive Step (mayBegin : MachineStore → Site → Prop) (text : String) (key : ObjectKey) :
    Tenancy → Tenancy → Prop where
  | begin {store : MachineStore} {before site : Site} {past : List Happening}
      {disposition : Disposition} (known : ∀ vmi ∈ site.cache.vmis, vmi ∈ store.versions)
      (staying : ∀ pod, site.cache.pod? key = some pod → pod.isDeleting = false)
      (may : mayBegin store site) :
      Step mayBegin text key ⟨store, before, past, .done disposition⟩
        ⟨store, site, [], pass site text⟩
  | call {store served : MachineStore} {site : Site} {past : List Happening} {asked : Call}
      {next : Except Fault asked.Answer → Program Disposition}
      {answer : Except Fault asked.Answer} {effect : Option Effect}
      (serves : store.Serves asked answer effect served)
      (honest : Honest store asked answer effect) :
      Step mayBegin text key ⟨store, site, past, .request asked next⟩
        ⟨served, site, past ++ [.answered asked answer], next answer⟩
  | signal {store : MachineStore} {site : Site} {past : List Happening} {told : Signal}
      {rest : Program Disposition} :
      Step mayBegin text key ⟨store, site, past, .signal told rest⟩
        ⟨store, site, past ++ [.told told], rest⟩
  | freshPart {store : MachineStore} {site : Site} {past : List Happening}
      {next : String → Program Disposition} {part : String} :
      Step mayBegin text key ⟨store, site, past, .freshPart next⟩ ⟨store, site, past, next part⟩
  | presentTime {store : MachineStore} {site : Site} {past : List Happening}
      {next : Instant → Program Disposition} {now : Instant} :
      Step mayBegin text key ⟨store, site, past, .presentTime next⟩
        ⟨store, site, past, next now⟩
  | others {tenancy : Tenancy} {store : MachineStore}
      (grown : tenancy.store.versions ⊆ store.versions)
      (own : store.HasOwn key → tenancy.store.HasOwn key)
      (claimed : ∀ held, store.HasClaimed key held → tenancy.store.HasClaimed key held) :
      Step mayBegin text key tenancy { tenancy with store := store }

/-- Steps in a row. -/
inductive Steps (mayBegin : MachineStore → Site → Prop) (text : String) (key : ObjectKey)
    (start : Tenancy) : Tenancy → Prop where
  | start : Steps mayBegin text key start start
  | next {tenancy after : Tenancy} (steps : Steps mayBegin text key start tenancy)
      (step : Step mayBegin text key tenancy after) : Steps mayBegin text key start after

/-- If the pod holds a machine of the pool, the cache has a machine that serves it. -/
def Shown (key : ObjectKey) (store : MachineStore) (site : Site) : Prop :=
  (∃ held, store.HasClaimed key held) → (site.cache.machineOf? key).isSome = true

/-- The pod holds at most one machine, and none while the pass knows of none and may
acquire one. -/
structure Sound (key : ObjectKey) (tenancy : Tenancy) : Prop where
  secured : tenancy.rest.Secures (Acquisition tenancy.site key) (fun _ _ => True) tenancy.past
  single : (tenancy.store.holding key).Subsingleton
  unclaimed : tenancy.site.cache.machineOf? key = none → NoneAcquired tenancy.past →
    ∀ held, ¬tenancy.store.HasClaimed key held
  unowned : Unserved tenancy.site key tenancy.past → ¬tenancy.store.HasOwn key

variable {text : String} {key : ObjectKey} {start tenancy after : Tenancy}
  {mayBegin : MachineStore → Site → Prop}

theorem Sound.holding_eq_empty (sound : tenancy.Sound key)
    (unserved : Unserved tenancy.site key tenancy.past) : tenancy.store.holding key = ∅ :=
  MachineStore.holding_eq_empty (sound.unowned unserved)
    (sound.unclaimed unserved.uncached unserved.unacquired)

/-- What the pod is given by no one it did not get. -/
theorem Sound.shrink {store : MachineStore} (sound : tenancy.Sound key)
    (own : store.HasOwn key → tenancy.store.HasOwn key)
    (claimed : ∀ held, store.HasClaimed key held → tenancy.store.HasClaimed key held) :
    Sound key { tenancy with store := store } := by
  constructor
  · exact sound.secured
  · refine sound.single.anti ?_
    rintro held (⟨rfl, owned⟩ | claim)
    · exact .inl ⟨rfl, own owned⟩
    · exact .inr (claimed held claim)
  · exact fun uncached unacquired held claim =>
      sound.unclaimed uncached unacquired held (claimed held claim)
  · exact fun unserved owned => sound.unowned unserved (own owned)

variable {store served : MachineStore} {site : Site} {past : List Happening} {asked : Call}
  {next : Except Fault asked.Answer → Program Disposition} {answer : Except Fault asked.Answer}
  {effect : Option Effect}

/-- An honest answer leaves a pass sound against what was stored before it. -/
theorem Sound.answered (sound : Sound key ⟨store, site, past, .request asked next⟩)
    (honest : Honest store asked answer effect) :
    Sound key ⟨store, site, past ++ [.answered asked answer], next answer⟩ := by
  constructor
  · exact sound.secured.2 answer
  · exact sound.single
  · exact fun uncached unacquired =>
      sound.unclaimed uncached (noneAcquired_append.mp unacquired).1
  · rintro ⟨uncached, ⟨found, read, pooled⟩, unacquired⟩
    rcases List.mem_append.mp read with read | read
    · exact sound.unowned ⟨uncached, ⟨found, read, pooled⟩, (noneAcquired_append.mp unacquired).1⟩
    · -- The machine of the pod's own was read just now, and there is none.
      rintro ⟨vmi, stored, own⟩
      have same := honest.true_of_read _ _ _ (List.mem_singleton.mp read).symm
      have isPooled := pooled vmi (same.symm.trans stored)
      rw [own] at isPooled
      contradiction

/-- A machine that is acquired is the only one that the pod holds then. -/
theorem Sound.acquired {effect : Effect}
    (sound : Sound key ⟨store, site, past, .request asked next⟩)
    (acquires : asked.acquires = true) (honest : Honest store asked answer (some effect))
    (turns : store.Turns effect served) :
    Sound key ⟨served, site, past ++ [.answered asked answer], next answer⟩ := by
  have gained : ¬NoneAcquired (past ++ [.answered asked answer]) := by
    intro unacquired
    obtain ⟨fault, failed⟩ := (noneAcquired_append.mp unacquired).2 acquires
    exact nomatch honest.quiet fault failed
  have nothing : store.holding key = ∅ := sound.holding_eq_empty (sound.secured.1 acquires)
  have here (held : ObjectKey) (holds : held ∈ served.holding key) : held = effect.key := by
    by_contra elsewhere
    have before : held ∈ store.holding key := turns.mem_holding holds elsewhere
    rw [nothing] at before
    exact before
  constructor
  · exact sound.secured.2 answer
  · intro one holdsOne other holdsOther
    exact (here one holdsOne).trans (here other holdsOther).symm
  · exact fun _ unacquired => absurd unacquired gained
  · exact fun unserved => absurd unserved.unacquired gained

/-- A call leaves a pass sound, whatever comes of it. -/
theorem Sound.call (sound : Sound key ⟨store, site, past, .request asked next⟩)
    (serves : store.Serves asked answer effect served)
    (honest : Honest store asked answer effect) :
    Sound key ⟨served, site, past ++ [.answered asked answer], next answer⟩ := by
  cases effect with
  | none =>
      rw [serves.eq_of_no_effect]
      exact sound.answered honest
  | some effect =>
      rcases serves.acquires_or_removed with acquires | removed
      · exact sound.acquired acquires honest serves.turns
      · refine (sound.answered honest).shrink ?_ ?_
        · rintro ⟨vmi, stored, own⟩
          exact ⟨vmi, serves.turns.stored_of_removed removed stored, own⟩
        · rintro held ⟨vmi, stored, claimed⟩
          exact ⟨vmi, serves.turns.stored_of_removed removed stored, claimed⟩

theorem Sound.step (sound : tenancy.Sound key) (named : ObjectKey.ofText text = .ok key)
    (step : Step (Shown key) text key tenancy after) : after.Sound key := by
  cases step with
  | begin known staying shown =>
      constructor
      · exact pass_acquires named staying
      · exact sound.single
      · intro uncached _ held claim
        have serving := shown ⟨held, claim⟩
        simp only at uncached
        simp [uncached] at serving
      · rintro ⟨-, ⟨found, read, -⟩, -⟩
        simp at read
  | call serves honest => exact sound.call serves honest
  | signal =>
      constructor
      · exact sound.secured
      · exact sound.single
      · refine fun uncached unacquired => sound.unclaimed uncached ?_
        exact fun asked answer member => unacquired asked answer (List.mem_append_left _ member)
      · rintro ⟨uncached, ⟨found, read, pooled⟩, unacquired⟩
        refine sound.unowned ⟨uncached, ⟨found, by simpa using read, pooled⟩, ?_⟩
        exact fun asked answer member => unacquired asked answer (List.mem_append_left _ member)
  | freshPart => exact ⟨sound.secured _, sound.single, sound.unclaimed, sound.unowned⟩
  | presentTime => exact ⟨sound.secured _, sound.single, sound.unclaimed, sound.unowned⟩
  | others _ own claimed => exact sound.shrink own claimed

theorem Steps.sound (steps : Steps (Shown key) text key start tenancy) (sound : start.Sound key)
    (named : ObjectKey.ofText text = .ok key) : tenancy.Sound key := by
  induction steps with
  | start => exact sound
  | next _ step ih => exact ih.step named step

/-- A machine is read as it is stored. -/
theorem honest_read {space name : String} :
    Honest store (.readMachine space name) (.ok (store.stored ⟨space, name⟩)) none := by
  constructor
  · exact fun _ failed => nomatch failed
  · intro _ _ found same
    cases same
    rfl

theorem honest_fault {fault : Fault} : Honest store asked (.error fault) none := by
  constructor
  · exact fun _ _ => rfl
  · intro space name found same
    cases asked with
    | readMachine => cases same
    | _ => exact absurd (Happening.answered.inj same).1 nofun

/-- What succeeds and is no reading may have any effect. -/
theorem honest_write {value : asked.Answer}
    (write : ∀ space name, asked ≠ .readMachine space name) :
    Honest store asked (.ok value) effect := by
  constructor
  · exact fun _ failed => nomatch failed
  · exact fun space name _ same => absurd (Happening.answered.inj same).1 (write space name)

/-- Whole passes, with what others write around them, lead from what is stored to what is
stored then. -/
def Reaches (mayBegin : MachineStore → Site → Prop) (text : String) (key : ObjectKey)
    (store served : MachineStore) : Prop :=
  ∃ site past disposition,
    Steps mayBegin text key { store } ⟨served, site, past, .done disposition⟩

/-- The pass under way may come to its end without another write of a machine. -/
theorem Steps.reaches {first : MachineStore}
    (steps : Steps mayBegin text key { store := first } tenancy) :
    Reaches mayBegin text key first tenancy.store := by
  obtain ⟨store, site, past, rest⟩ := tenancy
  induction rest generalizing past with
  | done disposition => exact ⟨site, past, disposition, steps⟩
  | request asked next ih =>
      obtain ⟨answer, serves, honest⟩ : ∃ answer, store.Serves asked answer none store ∧
          Honest store asked answer none := by
        cases asked with
        | readMachine => exact ⟨_, .readMachine, honest_read⟩
        | changePod => exact ⟨.ok (), .changePod, honest_write nofun⟩
        | changeNode => exact ⟨.ok (), .changeNode, honest_write nofun⟩
        | reportCounts => exact ⟨.ok (), .reportCounts, honest_write nofun⟩
        | _ => exact ⟨.error (.unanswered ""), .refuse, honest_fault⟩
      exact ih answer (past ++ [.answered asked answer]) (steps.next (.call serves honest))
  | signal told rest ih => exact ih (past ++ [.told told]) (steps.next .signal)
  | freshPart rest ih => exact ih "" past (steps.next .freshPart)
  | presentTime rest ih =>
      exact ih ⟨⟨2024, 1, 1⟩, 0, 0, 0, 0⟩ past (steps.next .presentTime)

/-- The pass over a pod without a cached machine reads and then, told of none, claims the
machine that is there to be claimed. -/
theorem pass_claims {pod : Pod} {candidate : Vmi} {spareKey : ObjectKey}
    (named : ObjectKey.ofText text = .ok key) (cached : site.cache.pod? key = some pod)
    (staying : pod.isDeleting = false) (gatedOnce : pod.gateCount = 1)
    (uncached : site.cache.machineOf? key = none)
    (spare : site.cache.candidate? = some candidate) (keyed : candidate.key = .ok spareKey) :
    ∃ next, pass site text = .request (.readMachine key.space key.name) next ∧
      ∀ found, (∀ vmi, found = some vmi → vmi.isPooled = true) →
        ∃ later, next (.ok found) = .request (.changeMachine spareKey.space spareKey.name
          (.claim candidate.metadata.resourceVersion key.text)) later := by
  have attempts : attempt site text = obtainMachine site key pod := by
    simp [attempt, named, cached, attend, staying, gatedOnce, serve, uncached]
  rw [Release.pass, attempts]
  refine ⟨_, rfl, ?_⟩
  intro found pooled
  have unkept : found.filter (fun vmi => !vmi.isPooled) = none := by
    cases found with
    | none => rfl
    | some vmi => simp [pooled vmi rfl]
  simp only [unkept, spare, claim, keyed, andThen]
  exact ⟨_, rfl⟩

/-- There is always a version that no machine had yet. -/
theorem exists_isFresh_relabelled (store : MachineStore) (vmi : Vmi) (patch : VmiPatch) :
    ∃ version, store.IsFresh (vmi.relabelled patch version) := by
  obtain ⟨version, unused⟩ := Infinite.exists_notMem_finset
    (store.versions.filterMap fun known => known.metadata.resourceVersion).toFinset
  refine ⟨version, rfl, ?_⟩
  intro other known _ same
  apply unused
  rw [List.mem_toFinset, List.mem_filterMap]
  exact ⟨other, known, same⟩

/-- A pass that finds no machine for the pod in its cache comes to claim the machine that
is there to be claimed, if that is stored as it is cached and the pod has none of its
own. -/
theorem Reaches.claim {first : MachineStore} {pod : Pod} {candidate : Vmi}
    {spareKey : ObjectKey} (reaches : Reaches mayBegin text key first store)
    (known : ∀ vmi ∈ site.cache.vmis, vmi ∈ store.versions) (may : mayBegin store site)
    (named : ObjectKey.ofText text = .ok key) (cached : site.cache.pod? key = some pod)
    (staying : pod.isDeleting = false) (gatedOnce : pod.gateCount = 1)
    (uncached : site.cache.machineOf? key = none) (unowned : ¬store.HasOwn key)
    (spare : site.cache.candidate? = some candidate) (keyed : candidate.key = .ok spareKey)
    (current : store.stored spareKey = some candidate) :
    ∃ claimed, Reaches mayBegin text key first claimed ∧ claimed.HasClaimed key spareKey ∧
      (∀ held, held ≠ spareKey → claimed.stored held = store.stored held) ∧
      store.versions ⊆ claimed.versions := by
  obtain ⟨_, _, _, steps⟩ := reaches
  obtain ⟨next, passes, claims⟩ :=
    pass_claims named cached staying gatedOnce uncached spare keyed
  have pooled (vmi : Vmi) (stored : store.stored key = some vmi) : vmi.isPooled = true := by
    by_contra own
    exact unowned ⟨vmi, stored, by simpa using own⟩
  obtain ⟨later, goesOn⟩ := claims (store.stored key) pooled
  have begins : Steps mayBegin text key { store := first } ⟨store, site, [], pass site text⟩ := by
    refine steps.next (.begin known ?_ may)
    intro other found
    rw [cached, Option.some.injEq] at found
    rw [← found, staying]
  rw [passes] at begins
  have told := begins.next (.call .readMachine honest_read)
  rw [goesOn] at told
  obtain ⟨version, fresh⟩ := exists_isFresh_relabelled store candidate
    (.claim candidate.metadata.resourceVersion key.text)
  have makes := VmiPatch.makes_relabelled candidate
    (.claim candidate.metadata.resourceVersion key.text) version
  have serves : store.Serves (.changeMachine spareKey.space spareKey.name
      (.claim candidate.metadata.resourceVersion key.text)) (.ok _) _ _ :=
    .change current (fun pin carried => by
      rw [VmiPatch.metadataMember?_resourceVersion] at carried
      exact carried) makes keyed fresh (fun _ same => (Except.ok.inj same).symm)
  refine ⟨_, (told.next (.call serves (honest_write nofun))).reaches, ?_, ?_,
    List.subset_cons_self _ _⟩
  · refine ⟨_, if_pos rfl, ?_, makes.claim.2⟩
    have claimed := makes.claim.1
    rw [Vmi.poolState?, Option.bind_eq_some_iff] at claimed
    obtain ⟨label, labelled, -⟩ := claimed
    rw [Vmi.isPooled, labelled]
    rfl
  · exact fun held elsewhere => if_neg elsewhere

/-- Without a machine in the cache of the next pass, a pod that holds a machine of the
pool comes to hold another. -/
theorem Reaches.second_claim {first : MachineStore} {pod : Pod} {candidate : Vmi}
    {held spareKey : ObjectKey} (reaches : Reaches mayBegin text key first store)
    (holds : store.HasClaimed key held) (other : held ≠ spareKey)
    (known : ∀ vmi ∈ site.cache.vmis, vmi ∈ store.versions) (may : mayBegin store site)
    (named : ObjectKey.ofText text = .ok key) (cached : site.cache.pod? key = some pod)
    (staying : pod.isDeleting = false) (gatedOnce : pod.gateCount = 1)
    (uncached : site.cache.machineOf? key = none) (unowned : ¬store.HasOwn key)
    (spare : site.cache.candidate? = some candidate) (keyed : candidate.key = .ok spareKey)
    (current : store.stored spareKey = some candidate) :
    ∃ claimed, Reaches mayBegin text key first claimed ∧ ¬(claimed.holding key).encard ≤ 1 := by
  obtain ⟨claimed, reached, holdsSpare, elsewhere, -⟩ :=
    reaches.claim known may named cached staying gatedOnce uncached unowned spare keyed current
  refine ⟨claimed, reached, ?_⟩
  rw [Set.encard_le_one_iff_subsingleton]
  intro single
  obtain ⟨vmi, stored, labelled⟩ := holds
  have stillHolds : claimed.HasClaimed key held :=
    ⟨vmi, (elsewhere held other).trans stored, labelled⟩
  exact other (single (.inr stillHolds) (.inr holdsSpare))

/-- A running machine of the pool that is there to be claimed. -/
def spareMachine (name : String) : Vmi where
  metadata :=
    { name := some name, space := some "pool", resourceVersion := some "1"
      labels := some [(poolStateLabel, PoolState.available.label)] }
  spec := {}
  status := some { phase := some .running }

/-- Two machines are stored, both there to be claimed. -/
def twoSpares : MachineStore where
  stored key :=
    if key = ⟨"pool", "m0"⟩ then some (spareMachine "m0")
    else if key = ⟨"pool", "m1"⟩ then some (spareMachine "m1")
    else none
  versions := [spareMachine "m0", spareMachine "m1"]
  key_of_stored := by
    intro key vmi stored
    split at stored
    next same =>
      cases stored
      rw [same]
      rfl
    next =>
      split at stored
      next same =>
        cases stored
        rw [same]
        rfl
      next => contradiction
  mem_of_stored := by
    intro key vmi stored
    split at stored
    next =>
      cases stored
      simp
    next =>
      split at stored
      next =>
        cases stored
        simp
      next => contradiction
  versioned := by simp [spareMachine]
  eq_of_version_eq := by
    simp [spareMachine, Vmi.key]

/-- A gated pod and some of the spare machines. -/
def gatedSite (names : List String) : Site where
  cache :=
    { pods :=
        [{ metadata := { name := some "p", space := some "a" }
           spec := some { containers := [], gates := some [gateName] } }]
      vmis := names.map spareMachine }

theorem twoSpares_unclaimed {key held : ObjectKey} : ¬twoSpares.HasClaimed key held := by
  rintro ⟨vmi, stored, -, claimant⟩
  have spare : vmi = spareMachine "m0" ∨ vmi = spareMachine "m1" := by
    simpa [twoSpares] using twoSpares.mem_of_stored stored
  rcases spare with rfl | rfl <;> exact nomatch claimant

theorem twoSpares_unowned : ¬twoSpares.HasOwn ⟨"a", "p"⟩ := by
  rintro ⟨vmi, stored, -⟩
  exact nomatch stored

theorem twoSpares_unheld : twoSpares.holding ⟨"a", "p"⟩ = ∅ :=
  MachineStore.holding_eq_empty twoSpares_unowned fun _ => twoSpares_unclaimed

/-- The pod claims the machine that its cache shows. -/
theorem twoSpares_claimed {mayBegin : MachineStore → Site → Prop}
    (may : mayBegin twoSpares (gatedSite ["m1"])) :
    ∃ claimed, Reaches mayBegin "a/p" ⟨"a", "p"⟩ twoSpares claimed ∧
      claimed.HasClaimed ⟨"a", "p"⟩ ⟨"pool", "m1"⟩ ∧
      (∀ held, held ≠ ⟨"pool", "m1"⟩ → claimed.stored held = twoSpares.stored held) ∧
      twoSpares.versions ⊆ claimed.versions := by
  have known : ∀ vmi ∈ (gatedSite ["m1"]).cache.vmis, vmi ∈ twoSpares.versions := by
    simp [gatedSite, twoSpares]
  have reaches : Reaches mayBegin "a/p" ⟨"a", "p"⟩ twoSpares twoSpares := ⟨_, _, _, .start⟩
  exact reaches.claim known may rfl rfl rfl rfl rfl twoSpares_unowned rfl rfl rfl

/-- However passes for a pod that is not deleting follow each other and others write in
between, the pod never holds two machines, as long as every pass that begins while the pod
holds a machine of the pool finds a machine for it in its cache. -/
theorem one_machine_while_shown {store : MachineStore}
    (steps : Steps (Shown key) text key { store } tenancy)
    (named : ObjectKey.ofText text = .ok key) (nothing : store.holding key = ∅) :
    (tenancy.store.holding key).encard ≤ 1 := by
  have start : Sound key { store } := by
    constructor
    · trivial
    · rw [nothing]
      exact Set.subsingleton_empty
    · intro _ _ held claimed
      have holds : held ∈ store.holding key := .inr claimed
      simp [nothing] at holds
    · rintro ⟨-, ⟨found, read, -⟩, -⟩
      simp at read
  exact Set.encard_le_one_iff_subsingleton.mpr (steps.sound start named).single

/-- The pod claims one of two machines and holds no other. -/
theorem one_of_two_spares_held :
    ∃ claimed, Reaches (Shown ⟨"a", "p"⟩) "a/p" ⟨"a", "p"⟩ twoSpares claimed ∧
      (claimed.holding ⟨"a", "p"⟩).Nonempty ∧ (claimed.holding ⟨"a", "p"⟩).encard ≤ 1 := by
  have shown : Shown ⟨"a", "p"⟩ twoSpares (gatedSite ["m1"]) :=
    fun ⟨_, claimed⟩ => absurd claimed twoSpares_unclaimed
  obtain ⟨claimed, reaches, holds, -, -⟩ := twoSpares_claimed shown
  obtain ⟨_, _, _, steps⟩ := id reaches
  exact ⟨claimed, reaches, ⟨_, .inr holds⟩, one_machine_while_shown steps rfl twoSpares_unheld⟩

/-- The cache of the next pass still shows the claimed machine as it was before the claim,
and now another one that comes first by name. The pod claims that one too. -/
theorem two_machines_held_when_cache_trails :
    twoSpares.holding ⟨"a", "p"⟩ = ∅ ∧
      ∃ store, Reaches (fun _ _ => True) "a/p" ⟨"a", "p"⟩ twoSpares store ∧
        ¬(store.holding ⟨"a", "p"⟩).encard ≤ 1 := by
  refine ⟨twoSpares_unheld, ?_⟩
  obtain ⟨first, reaches, holdsFirst, elsewhere, grown⟩ :=
    @twoSpares_claimed (fun _ _ => True) trivial
  have unowned : ¬first.HasOwn ⟨"a", "p"⟩ := by
    rintro ⟨vmi, stored, own⟩
    rw [elsewhere _ (by decide)] at stored
    exact twoSpares_unowned ⟨vmi, stored, own⟩
  have known : ∀ vmi ∈ (gatedSite ["m1", "m0"]).cache.vmis, vmi ∈ first.versions := by
    intro vmi cached
    apply grown
    simpa [gatedSite, twoSpares, or_comm] using cached
  exact reaches.second_claim holdsFirst (by decide) known trivial rfl rfl rfl rfl rfl unowned rfl
    rfl ((elsewhere ⟨"pool", "m0"⟩ (by decide)).trans rfl)

end Tenancy

end NodeGate
