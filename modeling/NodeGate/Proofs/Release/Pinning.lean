import NodeGate.Proofs.Cluster.PlainServer
import NodeGate.Proofs.Release.Hosting
import NodeGate.Proofs.Release.Isolation

/-!
# Where a released pod is pinned

A pod is admitted selecting the node of its own name. A pass that finds a machine of the pool
for the pod makes it select the node of that machine instead, and no pass takes this back. So
a pod that is released on a machine of its own is pinned to it unless it was pinned to another
before, which it may have lost since.
-/

namespace NodeGate

open Json

/-- The node that a patch makes a pod select. -/
def PodPatch.host? (patch : PodPatch) : Option String :=
  match patch.change with
  | .host name => some name
  | _ => none

/-- A patch that selects a node replaces the selected one, and any other keeps it. -/
theorem PodPatch.selectedHost?_merged {before after : Pod} {patch : PodPatch}
    (made : after.toJson.SameButVersion (merged before.toJson patch.toJson)) :
    after.selectedHost? = patch.host?.or before.selectedHost? := by
  rw [Pod.selectedHost?_eq, Pod.selectedHost?_eq, selector_merged made, host?]
  cases patch.change with
  | host name => exact Entries.get?_insert_self _ _ _
  | gates names => rfl
  | finalizers names => rfl

namespace Release

open Program

/-- The patch of the pod of a key that was accepted. -/
def acceptedPatch? (key : ObjectKey) : Happening → Option PodPatch
  | .answered (.changePod space name patch) (.ok _) =>
    if ObjectKey.mk space name = key then some patch else none
  | _ => none

/-- The nodes that the pod of a key was made to select, in order. -/
def selections (key : ObjectKey) (past : List Happening) : List String :=
  past.filterMap fun happening => (acceptedPatch? key happening).bind PodPatch.host?

/-- The pod of a key as it is stored while these things happen. A patch that is accepted is
merged into it and gives it another version, and nothing else changes it. -/
inductive Becomes (key : ObjectKey) : Pod → List Happening → Pod → Prop where
  | nothing {pod : Pod} : Becomes key pod [] pod
  | patched {before middle after : Pod} {happening : Happening} {past : List Happening}
      {patch : PodPatch} (accepted : acceptedPatch? key happening = some patch)
      (made : middle.toJson.SameButVersion (merged before.toJson patch.toJson))
      (rest : Becomes key middle past after) : Becomes key before (happening :: past) after
  | kept {before after : Pod} {happening : Happening} {past : List Happening}
      (unpatched : acceptedPatch? key happening = none) (rest : Becomes key before past after) :
      Becomes key before (happening :: past) after

/-- A pass against a site, and what happened in it. -/
structure Passage where
  site : Site
  trace : List Happening

/-- What happened in passes one after the other. -/
def history (passages : List Passage) : List Happening :=
  passages.flatMap Passage.trace

/-- Passes for the pod of a key follow each other. Each sees the pod as it is stored and anything
else as it may be, and the pod changes only by what the passes make of it. -/
inductive Course (key : ObjectKey) (first : Pod) : List Passage → Pod → Prop where
  | start : Course key first [] first
  | next {passages : List Passage} {before after : Pod} {site : Site} {trace : List Happening}
      {disposition : Disposition} (earlier : Course key first passages before)
      (cached : site.cache.pod? key = some before)
      (run : Runs (pass site key.text) trace disposition)
      (becomes : Becomes key before trace after) :
      Course key first (passages ++ [⟨site, trace⟩]) after

variable {text : String} {key : ObjectKey} {first before after released : Pod} {vmi : Vmi}
  {past trace : List Happening} {passages : List Passage} {passage : Passage} {site : Site}

theorem selections_append {later : List Happening} :
    selections key (past ++ later) = selections key past ++ selections key later := by
  simp [selections]

/-- The last node that a pod was made to select is the one that it selects. -/
theorem Becomes.selectedHost?_eq (becomes : Becomes key before past after) :
    after.selectedHost? = (selections key past).getLast?.or before.selectedHost? := by
  induction becomes with
  | nothing => rfl
  | @patched before middle after happening past patch accepted made _ ih =>
      rw [ih, PodPatch.selectedHost?_merged made, ← Option.or_assoc]
      cases selected : patch.host? with
      | none => simp [selections, accepted, selected]
      | some host =>
          simp only [selections, List.filterMap_cons, accepted, Option.bind_some, selected,
            List.getLast?_cons]
          cases (List.filterMap _ past).getLast? <;> rfl
  | kept unpatched _ ih =>
      rw [ih, selections, selections, List.filterMap_cons, unpatched, Option.bind_none]

/-- After passes in a row the pod selects the node that it was last made to select, or else
the one that it selected at first. -/
theorem Course.selectedHost?_eq (course : Course key first passages after) :
    after.selectedHost? = (selections key (history passages)).getLast?.or first.selectedHost? := by
  induction course with
  | start => rfl
  | next _ _ _ becomes ih =>
      rw [becomes.selectedHost?_eq, ih, ← Option.or_assoc, ← List.getLast?_append,
        ← selections_append]
      simp [history]

/-- What a pass makes a pod select is the node of a machine of the pool that it sees. -/
theorem PassCall.pooled_of_host {pod : Pod} {space name host : String} {patch : PodPatch}
    (asked : PassCall site key pod (.changePod space name patch))
    (selects : patch.host? = some host) :
    ∃ vmi ∈ site.cache.vmis, vmi.isPooled = true ∧ vmi.nodeName = host := by
  rcases asked with provision | parting | opening
  · cases provision with
    | @select vmi _ obtained selected =>
        obtain ⟨-, rfl⟩ := PodPatch.selectHost?_eq_some_iff.mp selected
        have named : vmi.nodeName = host := Option.some.inj selects
        rcases obtained with holds | candidate
        · obtain ⟨cached, pooled, -⟩ := Cache.heldBy?_eq_some holds
          exact ⟨vmi, cached, pooled, named⟩
        · obtain ⟨cached, pooled, -⟩ := Cache.candidate?_eq_some candidate
          exact ⟨vmi, cached, pooled, named⟩
  · cases parting with
    | dismiss dropped =>
        obtain ⟨-, rfl⟩ := PodPatch.withoutFinalizer?_eq_some_iff.mp dropped
        simp [PodPatch.host?] at selects
  · cases opening with
    | lift lifted =>
        obtain ⟨-, rfl⟩ := PodPatch.withoutGate?_eq_some_iff.mp lifted
        simp [PodPatch.host?] at selects

theorem pooled_of_selection {disposition : Disposition} {host : String}
    (run : Runs (pass site text) trace disposition) (selected : host ∈ selections key trace) :
    ∃ vmi ∈ site.cache.vmis, vmi.isPooled = true ∧ vmi.nodeName = host := by
  obtain ⟨happening, member, selected⟩ := List.mem_filterMap.mp selected
  obtain ⟨patch, accepted, selects⟩ := Option.bind_eq_some_iff.mp selected
  unfold acceptedPatch? at accepted
  split at accepted
  next space name other answer =>
    obtain rfl : other = patch := Option.some.inj (Option.ite_none_right_eq_some.mp accepted).2
    obtain ⟨_, _, -, -, asked⟩ := pass_asks.rule_of_mem run member
    exact asked.pooled_of_host selects
  next => contradiction

/-- Whatever node the pod was made to select is that of a machine of the pool which some pass
saw. -/
theorem Course.pooled_of_selection (course : Course key first passages after)
    {host : String} (selected : host ∈ selections key (history passages)) :
    ∃ passage ∈ passages, ∃ vmi ∈ passage.site.cache.vmis,
      vmi.isPooled = true ∧ vmi.nodeName = host := by
  induction course with
  | start => simp [history, selections] at selected
  | @next passages before after site trace _ _ _ run _ ih =>
      rw [history, List.flatMap_append, selections_append, List.mem_append] at selected
      rcases selected with selected | selected
      · obtain ⟨passage, member, found⟩ := ih selected
        exact ⟨passage, List.mem_append_left _ member, found⟩
      · rw [List.flatMap_singleton] at selected
        exact ⟨⟨site, trace⟩, by simp, Release.pooled_of_selection run selected⟩

/-- A pass took the gate off the pod of a key because of that machine. -/
def OpensFor (key : ObjectKey) (passage : Passage) (vmi : Vmi) : Prop :=
  ∃ before patch after,
    passage.trace = before ++ .answered (.changePod key.space key.name patch) (.ok ()) :: after ∧
    patch.dropsGate = true ∧ servingMachine? passage.site key before = some vmi

/-- A machine of a pod's own has its name. -/
theorem OpensFor.nodeName_eq (opens : OpensFor key passage vmi)
    (faithful : Faithful passage.trace) (own : vmi.isPooled = false) : vmi.nodeName = key.name := by
  obtain ⟨before, patch, after, split, -, serving⟩ := opens
  have earlier : Faithful before := faithful.earlier (by simp [split])
  rw [← nodeOf_of_serving earlier serving]
  unfold nodeOf
  split
  next held found =>
    obtain ⟨cached, pooled⟩ := Option.filter_eq_some_iff.mp found
    rw [servingMachine?, cached, Option.some.injEq] at serving
    rw [serving, own] at pooled
    contradiction
  next => rfl

/-- How a pod is tied to a machine of its own on which it was released. -/
structure Tethered (key : ObjectKey) (passages : List Passage) (released : Pod) (vmi : Vmi) :
    Prop where
  /-- It selects the node of the machine exactly if the last node that it was made to select,
  if any, has that name too. -/
  selects_iff : released.selectedHost? = some vmi.nodeName ↔
    ∀ host, (selections key (history passages)).getLast? = some host → host = key.name
  /-- What it was made to select was a machine of the pool. -/
  pooled : ∀ host ∈ selections key (history passages), ∃ passage ∈ passages,
    ∃ other ∈ passage.site.cache.vmis, other.isPooled = true ∧ other.nodeName = host

/-- However passes for a pod follow each other that selects the node of its own name at first,
and whatever comes of their calls: if the last one takes the gate off because of a machine of
the pod's own, the pod is pinned to that machine exactly unless it was pinned to another
machine of the pool last. -/
theorem released_on_own_machine (course : Course key first (passages ++ [passage]) released)
    (admitted : first.selectedHost? = some key.name) (faithful : Faithful passage.trace)
    (opens : OpensFor key passage vmi) (own : vmi.isPooled = false) :
    Tethered key (passages ++ [passage]) released vmi := by
  constructor
  · rw [course.selectedHost?_eq, admitted, opens.nodeName_eq faithful own]
    cases (selections key (history (passages ++ [passage]))).getLast? <;> simp
  · exact fun host selected => course.pooled_of_selection selected

/-- A pod as it is admitted. -/
def admittedPod : Pod where
  metadata := { name := some "p", space := some "a" }
  spec := some
    { containers := []
      gates := some [gateName]
      nodeSelector := some [(hostLabel, "p")] }

/-- The pod has a machine of its own, which runs, and its node is there. -/
def ownSite (pod : Pod) : Site where
  cache :=
    { pods := [pod]
      vmis :=
        [{ metadata := { name := some "p", space := some "a" }
           spec := {}
           status := some { phase := some .running } }]
      nodes := [{ metadata := { name := some "p" } }] }

/-- The gate comes off. -/
def openingTrace (version : Option String) (told : Signal) : List Happening :=
  [.answered (.changePod "a" "p" ⟨version, .gates []⟩) (.ok ()), .told told]

/-- An accepted patch makes of a pod what it describes. -/
theorem becomes_plain {pod : Pod} {patch : PodPatch} (specified : pod.spec.isSome = true)
    (rest : Becomes key (patch.plain 1 pod) past after) :
    Becomes key pod (.answered (.changePod key.space key.name patch) (.ok ()) :: past) after :=
  .patched (if_pos rfl) (PodPatch.plain_merges pod patch specified) rest

theorem admittedPod_released : ∃ told released,
    Course ⟨"a", "p"⟩ admittedPod ([] ++ [⟨ownSite admittedPod, openingTrace none told⟩]) released ∧
    released.selectedHost? = some "p" := by
  obtain ⟨told, run⟩ : ∃ told,
      Runs (pass (ownSite admittedPod) "a/p") (openingTrace none told) .forget :=
    ⟨_, .request (.signal .done)⟩
  have becomes : Becomes ⟨"a", "p"⟩ admittedPod (openingTrace none told)
      (PodPatch.plain 1 admittedPod ⟨none, .gates []⟩) :=
    becomes_plain rfl (.kept rfl .nothing)
  have course := Course.start.next rfl run becomes
  have opens : OpensFor ⟨"a", "p"⟩ ⟨ownSite admittedPod, openingTrace none told⟩ _ :=
    ⟨[], _, _, rfl, rfl, rfl⟩
  have faithful : Faithful (openingTrace none told) := by
    simp [Faithful, openingTrace]
  have tethered := released_on_own_machine course rfl faithful opens rfl
  have unselected : (selections ⟨"a", "p"⟩ (openingTrace none told)).getLast? = none := rfl
  refine ⟨told, _, course, tethered.selects_iff.mpr fun host last => ?_⟩
  exact absurd last (by simp [history, unselected])

/-- The pod as it was admitted, and a machine of the pool. -/
def poolSite : Site where
  cache := { pods := [admittedPod], vmis := [spareMachine] }

/-- The pod after it was made to select the machine of the pool. -/
def claimantPod : Pod :=
  PodPatch.plain 1 admittedPod ⟨none, .host "m"⟩

/-- The machine of the pool is gone. -/
def emptySite : Site where
  cache := { pods := [claimantPod] }

/-- A machine of the pod's own is created. -/
def ownTrace (made : Vmi) (one other : Signal) : List Happening :=
  [.answered (.readMachine "a" "p") (.ok none), .answered (.createMachine made) (.ok ()),
    .told one, .told other]

/-- The pod claims the machine of the pool, which vanishes; then it gets one of its own. -/
theorem claimantPod_course : ∃ passages told released,
    Course ⟨"a", "p"⟩ admittedPod (passages ++
      [⟨ownSite claimantPod, openingTrace claimantPod.metadata.resourceVersion told⟩]) released ∧
    released.selectedHost? = some "m" := by
  obtain ⟨claimed, claiming⟩ : ∃ told,
      Runs (pass poolSite "a/p") (claimingTrace told) .immediate :=
    ⟨_, .request (.request (.request (.signal .done)))⟩
  obtain ⟨made, one, other, creating⟩ : ∃ made one other,
      Runs (pass emptySite "a/p") (ownTrace made one other) .backOff :=
    ⟨_, _, _, .request (.request (.signal (.signal .done)))⟩
  obtain ⟨told, opening⟩ : ∃ told, Runs (pass (ownSite claimantPod) "a/p")
      (openingTrace claimantPod.metadata.resourceVersion told) .forget :=
    ⟨_, .request (.signal .done)⟩
  have selects : Becomes ⟨"a", "p"⟩ admittedPod (claimingTrace claimed) claimantPod :=
    .kept rfl (.kept rfl (becomes_plain rfl (.kept rfl .nothing)))
  have waits : Becomes ⟨"a", "p"⟩ claimantPod (ownTrace made one other) claimantPod :=
    .kept rfl (.kept rfl (.kept rfl (.kept rfl .nothing)))
  have opens : Becomes ⟨"a", "p"⟩ claimantPod
      (openingTrace claimantPod.metadata.resourceVersion told)
      (PodPatch.plain 1 claimantPod ⟨claimantPod.metadata.resourceVersion, .gates []⟩) :=
    becomes_plain rfl (.kept rfl .nothing)
  have course := ((Course.start.next rfl claiming selects).next rfl creating waits).next rfl opening
    opens
  exact ⟨_, told, _, course, rfl⟩

/-- The pod is released on a machine of its own while it still selects the node of the machine
that is gone. -/
theorem released_while_pinned_elsewhere : ¬∀ key first passages passage released vmi,
    Course key first (passages ++ [passage]) released → first.selectedHost? = some key.name →
      Faithful passage.trace → OpensFor key passage vmi → vmi.isPooled = false →
        released.selectedHost? = some vmi.nodeName := by
  intro pinned
  obtain ⟨passages, told, released, course, selected⟩ := claimantPod_course
  have opens : OpensFor ⟨"a", "p"⟩
      ⟨ownSite claimantPod, openingTrace claimantPod.metadata.resourceVersion told⟩ _ :=
    ⟨[], _, _, rfl, rfl, rfl⟩
  have faithful : Faithful (openingTrace claimantPod.metadata.resourceVersion told) := by
    simp [Faithful, openingTrace]
  have same := pinned _ _ _ _ _ _ course rfl faithful opens rfl
  rw [selected] at same
  exact absurd same (by decide)

end Release

end NodeGate
