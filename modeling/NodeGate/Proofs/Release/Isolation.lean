import NodeGate.Proofs.Release.Gate

/-!
# Which pods share a node

Nodes have no namespace. A machine of a pod's own is named after the pod and
becomes the node of that name, whatever the namespace of the pod, and a machine
of the pool becomes the node of its name. Two pods are released onto one node
exactly when both can be released and these names agree.
-/

namespace NodeGate

namespace Release

open Program

/-- What was read past the cache has the name that was asked for. -/
def Faithful (trace : List Happening) : Prop :=
  ∀ space name vmi, .answered (.readMachine space name) (.ok (some vmi)) ∈ trace →
    vmi.nodeName = name

theorem Faithful.earlier {past later : List Happening} (faithful : Faithful later)
    (continued : past <+: later) : Faithful past :=
  fun space name vmi read => faithful space name vmi (continued.subset read)

/-- A run of the pass for a work key takes the gate off its pod, having found the
node of that name. -/
def ReleasesOnto (site : Site) (text nodeName : String) : Prop :=
  ∃ key trace disposition before after vmi patch, ObjectKey.ofText text = .ok key ∧
    Runs (pass site text) trace disposition ∧ Faithful trace ∧
    trace = before ++ .answered (.changePod key.space key.name patch) (.ok ()) :: after ∧
    patch.dropsGate = true ∧ servingMachine? site key before = some vmi ∧
    vmi.nodeName = nodeName

/-- No two passes over one cache release two pods onto one node. -/
def NodesIsolated (site : Site) : Prop :=
  ∀ one other oneNode otherNode, one ≠ other → ReleasesOnto site one oneNode →
    ReleasesOnto site other otherNode → oneNode ≠ otherNode

/-- The node that the pod of a key waits for: that of the pool machine which it
holds, if no machine of its own is cached, or else the one of the pod's name. -/
def nodeOf (site : Site) (key : ObjectKey) : String :=
  match (site.cache.machineOf? key).filter Vmi.isPooled with
  | some held => held.nodeName
  | none => key.name

/-- The pod of a key waits behind our gate, its node is there, and a machine that
is cached for it is ready. -/
structure IsReleasable (site : Site) (key : ObjectKey) (pod : Pod) : Prop where
  cached : site.cache.pod? key = some pod
  staying : pod.isDeleting = false
  gatedOnce : pod.gateCount = 1
  joined : (site.cache.node? (nodeOf site key)).isSome = true
  running : ∀ vmi, site.cache.machineOf? key = some vmi → vmi.isRunning = true
  selected : ∀ vmi, site.cache.machineOf? key = some vmi → vmi.isPooled = true →
    pod.selectedHost? = some vmi.nodeName

/-- Two distinct work keys whose pods can be released and wait for one node. -/
def Clash (site : Site) (one other : String) : Prop :=
  ∃ oneKey otherKey onePod otherPod, one ≠ other ∧ ObjectKey.ofText one = .ok oneKey ∧
    ObjectKey.ofText other = .ok otherKey ∧ IsReleasable site oneKey onePod ∧
    IsReleasable site otherKey otherPod ∧ nodeOf site oneKey = nodeOf site otherKey

variable {site : Site} {text : String} {key : ObjectKey} {pod : Pod} {vmi : Vmi}

/-- The machine that the cache has for a pod becomes the node which the pod waits
for. -/
theorem nodeOf_of_machineOf? (found : site.cache.machineOf? key = some vmi) :
    nodeOf site key = vmi.nodeName := by
  rcases Cache.machineOf?_eq_some found with ⟨own, outside⟩ | ⟨-, pooled⟩
  · have named : vmi.nodeName = key.name := (Cache.findIn_eq_some own).2.1
    simp [nodeOf, found, Option.filter, outside, named]
  · simp [nodeOf, found, Option.filter, pooled]

theorem nodeOf_of_uncached (uncached : site.cache.machineOf? key = none) :
    nodeOf site key = key.name := by
  simp [nodeOf, uncached]

/-- What the API server told of the machine named after the pod was read in the
pass. -/
theorem read_of_toldMachine? {past : List Happening} (told : toldMachine? key past = some vmi) :
    .answered (.readMachine key.space key.name) (.ok (some vmi)) ∈ past := by
  fun_induction toldMachine? key past with
  | case1 => contradiction
  | case2 space name found rest same =>
      obtain ⟨rfl, rfl⟩ := same
      subst told
      exact List.mem_cons_self
  | case3 space name found rest _ ih => exact List.mem_cons_of_mem _ (ih told)
  | case4 first rest _ ih => exact List.mem_cons_of_mem _ (ih told)

/-- The machine that serves a pod becomes the node which the pod waits for. -/
theorem nodeOf_of_serving {past : List Happening} (faithful : Faithful past)
    (serving : servingMachine? site key past = some vmi) : nodeOf site key = vmi.nodeName := by
  unfold servingMachine? at serving
  split at serving
  next found =>
    cases serving
    exact nodeOf_of_machineOf? found
  next uncached =>
    have told := (Option.filter_eq_some_iff.mp serving).1
    rw [nodeOf_of_uncached uncached]
    exact (faithful _ _ _ (read_of_toldMachine? told)).symm

/-- A pod whose gate a pass takes off can be released, and the node that the pass
found is the one which the pod waits for. -/
theorem ReleasesOnto.isReleasable {nodeName : String}
    (releases : ReleasesOnto site text nodeName) :
    ∃ key pod, ObjectKey.ofText text = .ok key ∧ IsReleasable site key pod ∧
      nodeOf site key = nodeName := by
  obtain ⟨key, trace, disposition, before, after, vmi, patch, named, run, faithful, split, drops,
    serving, rfl⟩ := releases
  obtain ⟨same, pod, other, _, parsed, cached, ready, -⟩ := warranted_of_runs run split drops
  obtain rfl : key = same := Except.ok.inj (named.symm.trans parsed)
  obtain rfl : vmi = other := by
    rw [← Option.some_inj, ← serving, ready.serving]
  have earlier : Faithful before := faithful.earlier (by simp [split])
  have waits : nodeOf site key = vmi.nodeName := nodeOf_of_serving earlier serving
  have serves (found : Vmi) (known : site.cache.machineOf? key = some found) : found = vmi := by
    simpa [servingMachine?, known] using serving
  refine ⟨key, pod, named, ?_, waits⟩
  constructor
  · exact cached
  · exact ready.staying
  · exact ready.gatedOnce
  · rw [waits]
    exact ready.joined
  · intro found known
    rw [serves found known]
    exact ready.running
  · intro found known pooled
    rw [serves found known] at pooled ⊢
    exact ready.selected pooled

/-- A machine of that name outside the pool that runs. -/
def startedMachine (name : String) : Vmi where
  metadata := { name := some name }
  spec := {}
  status := some { phase := some .running }

/-- How a cluster answers where nothing fails and every machine runs. -/
def calmReply : (asked : Call) → Except Fault asked.Answer
  | .readMachine _ name => .ok (some (startedMachine name))
  | .changeMachine _ name _ => .ok (startedMachine name)
  | .createMachine _ => .ok ()
  | .deleteMachine _ _ _ => .ok ()
  | .changePod _ _ _ => .ok ()
  | .changeNode _ _ => .ok ()
  | .reportCounts _ _ => .ok ()

theorem calmReply_ne_error (asked : Call) (fault : Fault) : calmReply asked ≠ .error fault := by
  cases asked <;> exact nofun

/-- Without a machine in the cache, a pass begins by reading the machine named after
the pod. -/
theorem pass_reads_first (named : ObjectKey.ofText text = .ok key)
    (releasable : IsReleasable site key pod) (uncached : site.cache.machineOf? key = none) :
    (pass site text).Secures (fun _ _ => True)
      (fun later _ => ∃ answer,
        [] ++ [.answered (.readMachine key.space key.name) answer] <+: later) [] := by
  have begins : (obtainMachine site key pod).Secures (fun _ _ => True)
      (fun later _ => ∃ answer,
        [] ++ [.answered (.readMachine key.space key.name) answer] <+: later) [] := by
    refine secures_call_bind.mpr ⟨trivial, fun answer => ?_⟩
    apply (secures_trivially _).remember.weaken
    exact fun later _ continued => ⟨answer, continued.1⟩
  have attempted : attempt site text = obtainMachine site key pod := by
    simp [attempt, named, releasable.cached, attend, releasable.staying, releasable.gatedOnce,
      serve, uncached]
  rw [pass, attempted]
  apply begins.andThen
  rintro later outcome - ⟨answer, read⟩
  apply (secures_trivially _).remember.weaken
  exact fun last _ continued => ⟨answer, read.trans continued.1⟩

/-- A pod that can be released is released by some run, onto the node that it waits
for. -/
theorem IsReleasable.releasesOnto (named : ObjectKey.ofText text = .ok key)
    (releasable : IsReleasable site key pod) : ReleasesOnto site text (nodeOf site key) := by
  have epoch : Instant := ⟨⟨1970, 1, 1⟩, 0, 0, 0, 0⟩
  obtain ⟨trace, disposition, run, replied⟩ :=
    exists_runs_answering calmReply epoch (pass site text)
  have unfailing : Unfailing trace := by
    intro asked fault member
    exact calmReply_ne_error asked fault (replied _ _ member).symm
  have faithful : Faithful trace := by
    intro space name vmi read
    have answered := replied _ _ read
    cases answered
    rfl
  -- Where every call succeeds and every machine that is read runs, the pod's is ready.
  obtain ⟨vmi, serving, running, selected⟩ : ∃ vmi,
      servingMachine? site key trace = some vmi ∧ vmi.isRunning = true ∧
        (vmi.isPooled = true → pod.selectedHost? = some vmi.nodeName) := by
    cases found : site.cache.machineOf? key with
    | some vmi =>
        exact ⟨vmi, by simp [servingMachine?, found], releasable.running vmi found,
          releasable.selected vmi found⟩
    | none =>
        obtain ⟨answer, read⟩ := (pass_reads_first named releasable found).goal_of_runs run
        have answered : answer = calmReply (.readMachine key.space key.name) :=
          replied _ _ (read.subset (by simp))
        rw [answered] at read
        exact ⟨startedMachine key.name, servingMachine?_of_read found read, rfl,
          fun pooled => absurd pooled Bool.false_ne_true⟩
  have waits : nodeOf site key = vmi.nodeName := nodeOf_of_serving faithful serving
  have joined : (site.cache.node? vmi.nodeName).isSome = true := by
    rw [← waits]
    exact releasable.joined
  have ready : IsReady site key pod vmi trace :=
    ⟨releasable.staying, releasable.gatedOnce, serving, running, joined, selected⟩
  obtain ⟨-, patch, lifted, opened⟩ :=
    releases_of_runs run named releasable.cached vmi ready unfailing
  obtain ⟨before, after, split⟩ := List.append_of_mem opened
  have drops : patch.dropsGate = true := dropsGate_of_withoutGate? lifted
  obtain ⟨same, _, other, _, parsed, -, readyBefore, -⟩ := warranted_of_runs run split drops
  obtain rfl : key = same := Except.ok.inj (named.symm.trans parsed)
  have earlier : Faithful before := faithful.earlier (by simp [split])
  exact ⟨key, trace, disposition, before, after, other, patch, named, run, faithful, split, drops,
    readyBefore.serving, (nodeOf_of_serving earlier readyBefore.serving).symm⟩

/-- The passes over a cache keep nodes apart exactly when no two pods clash. Pods
clash when they share a name in two namespaces, when one is named like the pool
machine that the other holds, or when they hold pool machines of one name. -/
theorem nodesIsolated_iff_no_clash :
    NodesIsolated site ↔ ∀ one other, ¬Clash site one other := by
  constructor
  · rintro isolated one other ⟨oneKey, otherKey, onePod, otherPod, distinct, oneNamed, otherNamed,
      oneReleasable, otherReleasable, shared⟩
    exact isolated one other _ _ distinct (oneReleasable.releasesOnto oneNamed)
      (otherReleasable.releasesOnto otherNamed) shared
  · intro apart one other oneNode otherNode distinct oneReleases otherReleases shared
    obtain ⟨oneKey, onePod, oneNamed, oneReleasable, oneWaits⟩ := oneReleases.isReleasable
    obtain ⟨otherKey, otherPod, otherNamed, otherReleasable, otherWaits⟩ :=
      otherReleases.isReleasable
    refine apart one other ⟨oneKey, otherKey, onePod, otherPod, distinct, oneNamed, otherNamed,
      oneReleasable, otherReleasable, ?_⟩
    rw [oneWaits, otherWaits, shared]

/-- Two gated pods of one name in two namespaces, each with a machine of its own
that runs, and one node of that name. -/
def namesakeSite : Site where
  cache :=
    { pods := ["a", "b"].map fun space =>
        { metadata := { name := some "p", space := some space }
          spec := some { containers := [], gates := some [gateName] } }
      vmis := ["a", "b"].map fun space =>
        { metadata := { name := some "p", space := some space }
          spec := {}
          status := some { phase := some .running } }
      nodes := [{ metadata := { name := some "p" } }] }

/-- Both pods are released onto the one node. -/
theorem namesakes_not_isolated : ¬NodesIsolated namesakeSite := by
  intro isolated
  obtain ⟨_, oneRun⟩ : ∃ told, Runs (pass namesakeSite "a/p")
      [.answered (.changePod "a" "p" ⟨none, .gates []⟩) (.ok ()), .told told] .forget :=
    ⟨_, .request (.signal .done)⟩
  obtain ⟨_, otherRun⟩ : ∃ told, Runs (pass namesakeSite "b/p")
      [.answered (.changePod "b" "p" ⟨none, .gates []⟩) (.ok ()), .told told] .forget :=
    ⟨_, .request (.signal .done)⟩
  refine isolated "a/p" "b/p" "p" "p" (by decide) ?_ ?_ rfl
  · exact ⟨⟨"a", "p"⟩, _, _, [], _, _, _, rfl, oneRun, by simp [Faithful], rfl, rfl, rfl,
      rfl⟩
  · exact ⟨⟨"b", "p"⟩, _, _, [], _, _, _, rfl, otherRun, by simp [Faithful], rfl, rfl, rfl,
      rfl⟩

end Release

end NodeGate
