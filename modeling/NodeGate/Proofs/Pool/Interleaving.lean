import NodeGate.Proofs.Cluster.MachineStore
import NodeGate.Proofs.Pool.Duty

/-!
# Duties that go on at once

Any number of duties go on at once, each against a cache of its own that may be
stale, and their calls reach the API server in any order. A duty is sound while all
that it knows was stored at some time. Since every change of a pool machine is pinned
to a version that the duty knows, what takes effect of it starts from the very state
that the duty looked at, however long ago.
-/

namespace NodeGate

open Program

/-- A duty under way: what happened in it so far and what is left of it. -/
structure Task where
  duty : Duty
  site : Site
  past : List Happening
  rest : Program Unit

/-- The machines as they are stored and the duties under way. -/
structure Cluster where
  store : MachineStore
  tasks : List Task

/-- A write of a machine that took effect. -/
inductive Write where
  /-- A duty wrote it. -/
  | own (duty : Duty) (effect : Effect)
  /-- Someone else did. -/
  | foreign (effect : Effect)

namespace Write

/-- What came of a write. -/
def effect : Write → Effect
  | .own _ effect => effect
  | .foreign effect => effect

end Write

namespace Task

/-- A duty that begins. -/
def start (duty : Duty) (site : Site) : Task :=
  ⟨duty, site, [], duty.program site⟩

/-- What a duty does next: it makes a call, which the API server answers as it likes,
or goes on by itself. -/
inductive Goes (store : MachineStore) : Task → Option Write → Task → MachineStore → Prop where
  | call {duty : Duty} {site : Site} {past : List Happening} {asked : Call}
      {next : Except Fault asked.Answer → Program Unit} {answer : Except Fault asked.Answer}
      {effect : Option Effect} {served : MachineStore}
      (serves : store.Serves asked answer effect served) :
      Goes store ⟨duty, site, past, .request asked next⟩ (effect.map (.own duty))
        ⟨duty, site, past ++ [.answered asked answer], next answer⟩ served
  | signal {duty : Duty} {site : Site} {past : List Happening} {told : Signal}
      {rest : Program Unit} :
      Goes store ⟨duty, site, past, .signal told rest⟩ none
        ⟨duty, site, past ++ [.told told], rest⟩ store
  | freshPart {duty : Duty} {site : Site} {past : List Happening}
      {next : String → Program Unit} {part : String} :
      Goes store ⟨duty, site, past, .freshPart next⟩ none ⟨duty, site, past, next part⟩ store
  | presentTime {duty : Duty} {site : Site} {past : List Happening}
      {next : Instant → Program Unit} {now : Instant} :
      Goes store ⟨duty, site, past, .presentTime next⟩ none ⟨duty, site, past, next now⟩ store

end Task

namespace Cluster

/-- One step of the cluster. A duty begins against a cache of machines that were all
stored at some time, or one under way goes on, or others write. -/
inductive Step : Cluster → Option Write → Cluster → Prop where
  | begin {store : MachineStore} {tasks : List Task} {duty : Duty} {site : Site}
      (known : ∀ vmi ∈ site.cache.vmis, vmi ∈ store.versions) :
      Step ⟨store, tasks⟩ none ⟨store, .start duty site :: tasks⟩
  | go {store served : MachineStore} {before after : List Task} {task next : Task}
      {write : Option Write} (goes : task.Goes store write next served) :
      Step ⟨store, before ++ task :: after⟩ write ⟨served, before ++ next :: after⟩
  | disturb {store disturbed : MachineStore} {tasks : List Task} {effect : Effect}
      (disturbs : store.Disturbs effect disturbed) :
      Step ⟨store, tasks⟩ (some (.foreign effect)) ⟨disturbed, tasks⟩

/-- Steps in a row and the writes in them. -/
inductive Evolves : Cluster → List Write → Cluster → Prop where
  | done {cluster : Cluster} : Evolves cluster [] cluster
  | next {cluster middle last : Cluster} {write : Option Write} {writes : List Write}
      (step : Step cluster write middle) (rest : Evolves middle writes last) :
      Evolves cluster (write.toList ++ writes) last

end Cluster

/-- A write of a duty that keeps to the rules of the pool. -/
inductive Lawful : Duty → Effect → Prop where
  | create {duty : Duty} {key : ObjectKey} {vmi : Vmi}
      (unclaimed : vmi.poolState? ≠ some .claimed) : Lawful duty (.created key vmi)
  | promote {key : ObjectKey} {before after : Vmi} (creating : before.poolState? = some .creating)
      (available : after.poolState? = some .available) :
      Lawful .tick (.changed key before after)
  | claim {text : String} {pod key : ObjectKey} {before after : Vmi}
      (named : ObjectKey.ofText text = .ok pod) (available : before.poolState? = some .available)
      (claimed : after.poolState? = some .claimed) (owned : after.claimant? = some pod.text) :
      Lawful (.pass text) (.changed key before after)
  | giveBack {duty : Duty} {key : ObjectKey} {before after : Vmi}
      (claimed : before.poolState? = some .claimed)
      (available : after.poolState? = some .available) (disowned : after.claimant? = none) :
      Lawful duty (.changed key before after)
  | trim {key : ObjectKey} {vmi : Vmi} (available : vmi.poolState? = some .available) :
      Lawful .tick (.removed key vmi)
  | discard {duty : Duty} {key : ObjectKey} {vmi : Vmi} (leaving : duty ≠ .tick) :
      Lawful duty (.removed key vmi)

namespace Task

/-- What a duty knows was stored at some time, what it made available came back so,
and whatever is left of it asks only what it may. -/
structure Sound (store : MachineStore) (task : Task) : Prop where
  known : ∀ vmi ∈ task.site.cache.vmis, vmi ∈ store.versions
  promoted : ∀ space name version vmi,
    .answered (.changeMachine space name (.promote version)) (.ok vmi) ∈ task.past →
      vmi ∈ store.versions ∧ vmi.poolState? = some .available
  heeds : task.duty.Heeds task.site task.rest task.past

variable {store served : MachineStore} {task next : Task} {duty : Duty} {site : Site}
  {past : List Happening}

theorem Sound.grow (sound : task.Sound store) (grown : store.versions ⊆ served.versions) :
    task.Sound served := by
  constructor
  · exact fun vmi cached => grown (sound.known vmi cached)
  · intro space name version vmi answered
    obtain ⟨known, available⟩ := sound.promoted space name version vmi answered
    exact ⟨grown known, available⟩
  · exact sound.heeds

/-- What a tick may trim was stored at some time, and was available then. -/
theorem Sound.available_of_trimmable {vmi : Vmi} (sound : task.Sound store)
    (trimmable : Duty.Trimmable task.site task.past vmi) :
    vmi ∈ store.versions ∧ vmi.poolState? = some .available := by
  rcases trimmable with ⟨cached, available⟩ | ⟨space, name, version, answered⟩
  · exact ⟨sound.known vmi cached, available⟩
  · exact sound.promoted space name version vmi answered

/-- Whatever takes effect of a call that a duty may make keeps to the rules. -/
theorem Sound.lawful {asked : Call} {answer : Except Fault asked.Answer} {effect : Effect}
    (sound : task.Sound store) (may : Duty.MayAsk task.site task.past task.duty asked)
    (serves : store.Serves asked answer (some effect) served) : Lawful task.duty effect := by
  obtain ⟨duty, site, past, rest⟩ := task
  dsimp only at may
  cases serves with
  | create absent named keyed labelled =>
      cases may with
      | create unclaimed =>
          refine .create ?_
          rwa [Vmi.poolState?, ObjectMeta.label?, labelled]
  | change found pinned makes =>
      -- The pin makes the stored machine the very one that the duty looked at.
      have same {vmi : Vmi} (cached : vmi ∈ site.cache.vmis) (keyed : vmi.key = .ok _) :=
        MachineStore.eq_of_pinned (sound.known vmi cached) keyed found
      have pinned := MachineStore.pinned_of_toJson pinned
      cases may with
      | claim named cached available keyed =>
          obtain rfl := same cached keyed pinned
          exact .claim named available makes.claim.1 makes.claim.2
      | giveBack cached claimed keyed =>
          obtain rfl := same cached keyed pinned
          exact .giveBack claimed makes.giveBack.1 makes.giveBack.2
      | promote cached creating keyed =>
          obtain rfl := same cached keyed pinned
          exact .promote creating makes.promote
  | delete found pinned =>
      cases may with
      | trim trimmable keyed =>
          obtain ⟨known, available⟩ := sound.available_of_trimmable trimmable
          obtain rfl := MachineStore.eq_of_pinned known keyed found pinned
          exact .trim available
      | discard leaving => exact .discard leaving

/-- An answered call leaves a duty sound. -/
theorem Sound.answered {asked : Call} {answer : Except Fault asked.Answer}
    {effect : Option Effect} {follow : Except Fault asked.Answer → Program Unit}
    (sound : Task.Sound store ⟨duty, site, past, .request asked follow⟩)
    (serves : store.Serves asked answer effect served) :
    Task.Sound served ⟨duty, site, past ++ [.answered asked answer], follow answer⟩ := by
  have grown := sound.grow serves.versions_subset
  constructor
  · exact grown.known
  · intro space name version vmi answered
    rcases List.mem_append.mp answered with answered | answered
    · exact grown.promoted space name version vmi answered
    · obtain ⟨rfl, told⟩ := Happening.answered.inj (List.mem_singleton.mp answered)
      cases told
      obtain ⟨known, before, makes⟩ := serves.stored_of_changed
      exact ⟨known, makes.promote⟩
  · exact sound.heeds.2 answer

/-- A duty that goes on stays sound, and what it writes keeps to the rules. -/
theorem Sound.goes {write : Option Write} (sound : task.Sound store)
    (goes : task.Goes store write next served) :
    next.Sound served ∧ store.versions ⊆ served.versions ∧
      ∀ written, write = some written →
        ∃ effect, written = .own task.duty effect ∧ Lawful task.duty effect ∧
          store.Turns effect served := by
  cases goes with
  | @call duty site past asked follow answer effect _ serves =>
      refine ⟨sound.answered serves, serves.versions_subset, ?_⟩
      intro written wrote
      obtain ⟨effect, rfl, rfl⟩ := Option.map_eq_some_iff.mp wrote
      exact ⟨effect, rfl, sound.lawful sound.heeds.1 serves, serves.turns⟩
  | signal =>
      refine ⟨⟨sound.known, ?_, sound.heeds⟩, List.Subset.refl _, by simp⟩
      intro space name version vmi answered
      rcases List.mem_append.mp answered with answered | answered
      · exact sound.promoted space name version vmi answered
      · simp at answered
  | freshPart => exact ⟨⟨sound.known, sound.promoted, sound.heeds _⟩, List.Subset.refl _, by simp⟩
  | presentTime => exact ⟨⟨sound.known, sound.promoted, sound.heeds _⟩, List.Subset.refl _, by simp⟩

end Task

/-- A write that keeps to the rules of the pool. Others leave its labels alone. -/
def Write.IsLawful : Write → Prop
  | .own duty effect => Lawful duty effect
  | .foreign (.created _ vmi) => vmi.poolState? ≠ some .claimed
  | .foreign (.changed _ before after) =>
    after.poolState? = before.poolState? ∧ after.claimant? = before.claimant?
  | .foreign (.removed _ _) => True

/-- A duty that writes nothing leaves what is stored. -/
theorem Task.Goes.store_eq {store served : MachineStore} {task next : Task}
    {write : Option Write} (goes : task.Goes store write next served) (silent : write = none) :
    served = store := by
  cases goes with
  | call serves =>
      rw [Option.map_eq_none_iff] at silent
      subst silent
      exact serves.eq_of_no_effect
  | _ => rfl

namespace Cluster

/-- All duties under way are sound. -/
def Sound (cluster : Cluster) : Prop :=
  ∀ task ∈ cluster.tasks, task.Sound cluster.store

variable {cluster next last : Cluster} {writes : List Write}

theorem Sound.step {write : Option Write} (sound : cluster.Sound)
    (step : Step cluster write next) : next.Sound := by
  cases step with
  | begin known =>
      intro task member
      rcases List.mem_cons.mp member with rfl | member
      · exact ⟨known, by simp [Task.start], Duty.heeds_program _⟩
      · exact sound task member
  | @go _ _ before after task next _ goes =>
      obtain ⟨goesOn, grown, -⟩ := (sound task (by simp)).goes goes
      intro other member
      rcases List.mem_append.mp member with member | member
      · exact (sound other (by simp [member])).grow grown
      · rcases List.mem_cons.mp member with rfl | member
        · exact goesOn
        · exact (sound other (by simp [member])).grow grown
  | disturb disturbs =>
      intro task member
      exact (sound task member).grow disturbs.versions_subset

theorem Step.store_eq (step : Step cluster none next) : next.store = cluster.store := by
  cases step with
  | begin => rfl
  | go goes => exact goes.store_eq rfl

/-- What is written in a step keeps to the rules, and that is what comes to be
stored. -/
theorem Sound.lawful {write : Write} (sound : cluster.Sound)
    (step : Step cluster (some write) next) :
    write.IsLawful ∧ cluster.store.Turns write.effect next.store := by
  cases step with
  | @go _ _ before after task _ _ goes =>
      obtain ⟨-, -, wrote⟩ := (sound task (by simp)).goes goes
      obtain ⟨effect, rfl, lawful, turns⟩ := wrote write rfl
      exact ⟨lawful, turns⟩
  | disturb disturbs =>
      refine ⟨?_, disturbs.turns⟩
      cases disturbs with
      | create _ _ unclaimed => exact unclaimed
      | change _ sameState sameClaimant =>
          refine ⟨?_, sameClaimant⟩
          rw [Vmi.poolState?, sameState, Vmi.poolState?]
      | remove => trivial

theorem Evolves.sound (evolves : Evolves cluster writes last) (sound : cluster.Sound) :
    last.Sound := by
  induction evolves with
  | done => exact sound
  | next step _ ih => exact ih (sound.step step)

theorem Evolves.lawful (evolves : Evolves cluster writes last) (sound : cluster.Sound) :
    ∀ write ∈ writes, write.IsLawful := by
  induction evolves with
  | done => simp
  | @next _ _ _ wrote _ step _ ih =>
      intro write member
      rcases List.mem_append.mp member with member | member
      · rw [Option.mem_toList] at member
        subst member
        exact (sound.lawful step).1
      · exact ih (sound.step step) write member

end Cluster

end NodeGate
