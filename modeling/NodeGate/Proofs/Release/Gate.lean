import NodeGate.Proofs.Release.Calls

/-!
# When the gate comes off

The gate of a pod comes off in the last call of a pass, and exactly when the
machine that serves the pod runs and its node is there. A machine of the pool
must besides have its node reserved for the pod, and the pod must select it.
-/

namespace NodeGate

/-- Whether a patch leaves a pod without our gate. -/
def PodPatch.dropsGate (patch : PodPatch) : Bool :=
  match patch.change with
  | .gates names => !names.contains gateName
  | _ => false

/-- Whether a call takes our gate off a pod. -/
def Call.dropsGate : Call → Bool
  | .changePod _ _ patch => patch.dropsGate
  | _ => false

namespace Release

open Program

/-- What the API server told of the machine named after the pod, the first time
that it told anything. -/
def toldMachine? (key : ObjectKey) : List Happening → Option Vmi
  | [] => none
  | .answered (.readMachine space name) (.ok found) :: rest =>
    if space = key.space ∧ name = key.name then found else toldMachine? key rest
  | _ :: rest => toldMachine? key rest

/-- The machine that serves the pod of a key: one of its own in the cache, else
the pool machine that it holds there, else one outside the pool that the API
server told of. -/
def servingMachine? (site : Site) (key : ObjectKey) (past : List Happening) : Option Vmi :=
  match site.cache.machineOf? key with
  | some vmi => some vmi
  | none => (toldMachine? key past).filter fun vmi => !vmi.isPooled

/-- The pod waits behind our gate, and the machine that serves it is ready: it
runs and its node is there, and the pod selects that node if the machine is one
of the pool. -/
structure IsReady (site : Site) (key : ObjectKey) (pod : Pod) (vmi : Vmi)
    (past : List Happening) : Prop where
  staying : pod.isDeleting = false
  gatedOnce : pod.gateCount = 1
  serving : servingMachine? site key past = some vmi
  running : vmi.isRunning = true
  joined : (site.cache.node? vmi.nodeName).isSome = true
  selected : vmi.isPooled = true → pod.selectedHost? = some vmi.nodeName

/-- The pass for a work key may take the gate off the pod by this call. -/
def Warranted (site : Site) (text : String) (past : List Happening) (asked : Call) : Prop :=
  ∃ key pod vmi patch, ObjectKey.ofText text = .ok key ∧ site.cache.pod? key = some pod ∧
    IsReady site key pod vmi past ∧ (vmi.isPooled = true → IsReserved site key vmi past) ∧
    PodPatch.withoutGate? pod = some patch ∧ asked = .changePod key.space key.name patch

/-- Nothing that happened took a gate off. -/
def StillGated (past : List Happening) : Prop :=
  ∀ asked answer, .answered asked answer ∈ past → asked.dropsGate = false

/-- Calls are made only while the gate is on, and it is taken off only as
warranted. -/
def GateRule (site : Site) (text : String) (past : List Happening) (asked : Call) : Prop :=
  StillGated past ∧ (asked.dropsGate = true → Warranted site text past asked)

@[simp]
theorem stillGated_nil : StillGated [] :=
  allCalls_nil

theorem stillGated_append_answered {past : List Happening} {asked : Call}
    {answer : Except Fault asked.Answer} :
    StillGated (past ++ [.answered asked answer]) ↔
      StillGated past ∧ asked.dropsGate = false :=
  allCalls_append_answered

theorem Provision.dropsGate {site : Site} {key : ObjectKey} {pod : Pod} {asked : Call}
    (provision : Provision site key pod asked) : asked.dropsGate = false := by
  cases provision with
  | select obtained selected =>
      obtain ⟨-, rfl⟩ := PodPatch.selectHost?_eq_some_iff.mp selected
      rfl
  | _ => rfl

theorem Parting.dropsGate {site : Site} {key : ObjectKey} {pod : Pod} {asked : Call}
    (parting : Parting site key pod asked) : asked.dropsGate = false := by
  cases parting with
  | dismiss dropped =>
      obtain ⟨-, rfl⟩ := PodPatch.withoutFinalizer?_eq_some_iff.mp dropped
      rfl
  | _ => rfl

/-- The patch that drops our gate does leave the pod without it. -/
theorem dropsGate_of_withoutGate? {pod : Pod} {patch : PodPatch}
    (lifted : PodPatch.withoutGate? pod = some patch) : patch.dropsGate = true := by
  obtain ⟨-, rfl⟩ := PodPatch.withoutGate?_eq_some_iff.mp lifted
  simp [PodPatch.dropsGate]

/-- A program that never takes the gate off keeps the rule, and the gate stays. -/
theorem stillGated_of_asks {α : Type} {program : Program α} {rule : Call → Prop}
    {goal : List Happening → α → Prop} {past : List Happening} {site : Site} {text : String}
    (secures : program.Secures (fun _ => rule) goal past)
    (keeps : ∀ asked, rule asked → asked.dropsGate = false) (gated : StillGated past) :
    program.Secures (GateRule site text) (fun later value => StillGated later ∧ goal later value)
      past := by
  have kept : program.Secures (fun _ asked => asked.dropsGate = false) goal past :=
    secures.relax fun _ => keeps
  apply (kept.collect gated).relax
  rintro before asked ⟨stillGated, keepsOn⟩
  refine ⟨stillGated, fun drops => ?_⟩
  simp [keepsOn] at drops

variable {site : Site} {text : String} {key : ObjectKey} {pod : Pod} {vmi : Vmi}

@[simp]
theorem toldMachine?_append_told {past : List Happening} {told : Signal} :
    toldMachine? key (past ++ [.told told]) = toldMachine? key past := by
  fun_induction toldMachine? key past <;> simp_all [toldMachine?]

/-- What was told of a machine by the first answer stays. -/
theorem toldMachine?_cons_read {found : Option Vmi} {rest : List Happening} :
    toldMachine? key (.answered (.readMachine key.space key.name) (.ok found) :: rest) = found := by
  simp [toldMachine?]

theorem servingMachine?_append_told {past : List Happening} {told : Signal} :
    servingMachine? site key (past ++ [.told told]) = servingMachine? site key past := by
  simp [servingMachine?]

/-- When the machine that serves the pod is ready and no call failed, the gate was
taken off and the key is dropped. -/
def Releases (site : Site) (key : ObjectKey) (pod : Pod) (past : List Happening)
    (outcome : Except Fault Disposition) : Prop :=
  ∀ vmi, IsReady site key pod vmi past → Unfailing past →
    outcome = .ok .forget ∧ ∃ patch, PodPatch.withoutGate? pod = some patch ∧
      .answered (.changePod key.space key.name patch) (.ok ()) ∈ past

/-- Opening the gate for the machine that serves the pod keeps the rule. -/
theorem openGate_releases {past : List Happening} (named : ObjectKey.ofText text = .ok key)
    (cached : site.cache.pod? key = some pod) (staying : pod.isDeleting = false)
    (gatedOnce : pod.gateCount = 1) (gated : StillGated past)
    (serving : ∀ later, past <+: later → servingMachine? site key later = some vmi)
    (selected : vmi.isPooled = true → pod.selectedHost? = some vmi.nodeName)
    (reserved : vmi.isPooled = true → (site.cache.node? vmi.nodeName).isSome = true →
      IsReserved site key vmi past) :
    (openGate site key pod vmi).Secures (GateRule site text) (Releases site key pod) past := by
  have lifting (running : vmi.isRunning = true)
      (joined : (site.cache.node? vmi.nodeName).isSome = true) (patch : PodPatch)
      (lifted : PodPatch.withoutGate? pod = some patch) :
      GateRule site text past (.changePod key.space key.name patch) := by
    refine ⟨gated, fun _ => ⟨key, pod, vmi, patch, named, cached, ?_, ?_, lifted, rfl⟩⟩
    · exact ⟨staying, gatedOnce, serving past List.prefix_rfl, running, joined, selected⟩
    · exact fun pooled => reserved pooled joined
  apply (openGate_secures lifting).remember.weaken
  rintro later outcome ⟨continued, opens⟩ other ready unfailing
  obtain rfl : vmi = other := by
    rw [← Option.some_inj, ← serving later continued, ready.serving]
  have isGated : pod.isGated = true := by simp [Pod.isGated, gatedOnce]
  exact opens ready.running ready.joined isGated unfailing

/-- Nothing releases a pod that no machine serves. -/
theorem releases_of_unserved {past : List Happening} {outcome : Except Fault Disposition}
    (unserved : servingMachine? site key past = none) : Releases site key pod past outcome := by
  intro vmi ready
  exact absurd ready.serving (by simp [unserved])

/-- Nothing is promised about a pass in which a call failed. -/
theorem releases_of_failed {past : List Happening} {outcome : Except Fault Disposition}
    (failed : ¬Unfailing past) : Releases site key pod past outcome :=
  fun _ _ unfailing => absurd unfailing failed

/-- Without a machine in the cache, the first answer about the machine named after
the pod settles which one serves it. -/
theorem servingMachine?_of_read {found : Option Vmi} {later : List Happening}
    (uncached : site.cache.machineOf? key = none)
    (read : [] ++ [.answered (.readMachine key.space key.name) (.ok found)] <+: later) :
    servingMachine? site key later = found.filter fun vmi => !vmi.isPooled := by
  obtain ⟨rest, rfl⟩ := read
  rw [servingMachine?, uncached, List.nil_append, List.singleton_append, toldMachine?_cons_read]

theorem obtainMachine_releases (named : ObjectKey.ofText text = .ok key)
    (cached : site.cache.pod? key = some pod) (staying : pod.isDeleting = false)
    (gatedOnce : pod.gateCount = 1) (uncached : site.cache.machineOf? key = none) :
    (obtainMachine site key pod).Secures (GateRule site text) (Releases site key pod) [] := by
  apply obtainMachine_secures
  · exact ⟨stillGated_nil, nofun⟩
  · exact fun fault => releases_of_failed not_unfailing_append_error
  · intro found vmi kept
    have outside : vmi.isPooled = false := by
      simpa using (Option.filter_eq_some_iff.mp kept).2
    refine openGate_releases named cached staying gatedOnce ?_ ?_ ?_ ?_
    · exact stillGated_append_answered.mpr ⟨stillGated_nil, rfl⟩
    · exact fun later read => (servingMachine?_of_read uncached read).trans kept
    · simp [outside]
    · simp [outside]
  · -- No machine serves the pod, whatever else the pass obtains for it.
    intro found program unkept asks
    have gated : StillGated
        ([] ++ [.answered (.readMachine key.space key.name) (.ok found)]) :=
      stillGated_append_answered.mpr ⟨stillGated_nil, rfl⟩
    apply (stillGated_of_asks asks (fun _ => Provision.dropsGate) gated).remember.weaken
    rintro later outcome ⟨read, -⟩
    exact releases_of_unserved ((servingMachine?_of_read uncached read).trans unkept)

theorem serve_releases (named : ObjectKey.ofText text = .ok key)
    (cached : site.cache.pod? key = some pod) (staying : pod.isDeleting = false)
    (gatedOnce : pod.gateCount = 1) :
    (serve site key pod).Secures (GateRule site text) (Releases site key pod) [] := by
  unfold serve
  cases found : site.cache.machineOf? key with
  | none => exact obtainMachine_releases named cached staying gatedOnce found
  | some vmi =>
      have serving (later : List Happening) : servingMachine? site key later = some vmi := by
        simp [servingMachine?, found]
      dsimp only
      split
      next pooled =>
        have holds : site.cache.heldBy? key.text = some vmi := by
          rcases Cache.machineOf?_eq_some found with ⟨-, outside⟩ | ⟨holds, -⟩
          · simp [pooled] at outside
          · exact holds
        refine (stillGated_of_asks (pinToMachine_secures (.inl holds))
          (fun _ => Provision.dropsGate) stillGated_nil).andThen ?_
        rintro later outcome - ⟨gated, unwritten, succeeds⟩
        have pinned (other : Vmi) (ready : IsReady site key pod other later)
            (unfailing : Unfailing later) : outcome = .ok false := by
          obtain rfl : vmi = other := by
            rw [← Option.some_inj, ← serving later, ready.serving]
          exact succeeds unfailing (ready.selected pooled)
        rcases outcome with fault | _ | _
        · exact fun other ready unfailing => absurd (pinned other ready unfailing) nofun
        · obtain ⟨selected, reserved⟩ := unwritten rfl
          exact openGate_releases named cached staying gatedOnce gated
            (fun last _ => serving last) (fun _ => selected) (fun _ => reserved)
        · exact fun other ready unfailing => absurd (pinned other ready unfailing) nofun
      next outside =>
        replace outside : vmi.isPooled = false := by simpa using outside
        exact openGate_releases named cached staying gatedOnce stillGated_nil
          (fun last _ => serving last) (by simp [outside]) (by simp [outside])

theorem attend_releases (named : ObjectKey.ofText text = .ok key)
    (cached : site.cache.pod? key = some pod) :
    (attend site key pod).Secures (GateRule site text) (Releases site key pod) [] := by
  unfold attend
  split
  next deleting =>
    apply (stillGated_of_asks depart_asks (fun _ => Parting.dropsGate) stillGated_nil).weaken
    intro later outcome _ vmi ready
    exact absurd ready.staying (by simp [deleting])
  next staying =>
    replace staying : pod.isDeleting = false := by simpa using staying
    split
    next ungated => exact fun vmi ready => absurd ready.gatedOnce (by simp [ungated])
    next =>
      split
      next gatedOnce => exact serve_releases named cached staying gatedOnce
      next notOnce => exact fun vmi ready => absurd ready.gatedOnce notOnce

/-- Up to its first fault a pass keeps the rule, and releases the pod whose machine
is ready. -/
theorem attempt_releases :
    (attempt site text).Secures (GateRule site text)
      (fun later outcome => ∀ key pod, ObjectKey.ofText text = .ok key →
        site.cache.pod? key = some pod → Releases site key pod later outcome) [] := by
  unfold attempt
  cases named : ObjectKey.ofText text with
  | error fault => exact fun key pod parsed => nomatch parsed
  | ok key =>
      dsimp only
      cases cached : site.cache.pod? key with
      | none =>
          intro other pod parsed found
          cases parsed
          simp [cached] at found
      | some pod =>
          apply (attend_releases named cached).weaken
          intro later outcome releases other others parsed found
          cases parsed
          obtain rfl : pod = others := by simpa [cached] using found
          exact releases

/-- A pass keeps the rule to its end, and releases the pod whose machine is ready. -/
theorem pass_releases :
    (pass site text).Secures (GateRule site text)
      (fun later disposition => ∀ key pod, ObjectKey.ofText text = .ok key →
        site.cache.pod? key = some pod → Releases site key pod later (.ok disposition)) [] := by
  apply attempt_releases.andThen
  rintro later (fault | disposition) - releases
  · refine secures_bind.mpr ?_
    intro key pod named cached vmi ready unfailing
    have serving := ready.serving
    rw [servingMachine?_append_told] at serving
    have before : IsReady site key pod vmi later := { ready with serving := serving }
    have forgets := (releases key pod named cached vmi before
      (unfailing.earlier (List.prefix_append _ _))).1
    contradiction
  · exact releases

/-- Wherever a run takes the gate off, that is warranted by what came before. -/
theorem warranted_of_runs {trace before after : List Happening} {disposition : Disposition}
    {asked : Call} {answer : Except Fault asked.Answer}
    (run : Runs (pass site text) trace disposition)
    (split : trace = before ++ .answered asked answer :: after)
    (drops : asked.dropsGate = true) : Warranted site text before asked := by
  have keeps := pass_releases.rule_of_runs run split
  rw [List.nil_append] at keeps
  exact keeps.2 drops

/-- Every run releases the pod whose machine is ready. -/
theorem releases_of_runs {trace : List Happening} {disposition : Disposition}
    (run : Runs (pass site text) trace disposition) (named : ObjectKey.ofText text = .ok key)
    (cached : site.cache.pod? key = some pod) :
    Releases site key pod trace (.ok disposition) := by
  have releases := pass_releases.goal_of_runs run key pod named cached
  rw [List.nil_append] at releases
  exact releases

/-- What comes after the gate was taken off is no call. -/
theorem no_call_after_gate {trace before after : List Happening} {disposition : Disposition}
    {asked : Call} {answer : Except Fault asked.Answer}
    (run : Runs (pass site text) trace disposition)
    (split : trace = before ++ .answered asked answer :: after)
    (drops : asked.dropsGate = true) (other : Call) (reply : Except Fault other.Answer) :
    .answered other reply ∉ after := by
  intro member
  obtain ⟨between, rest, rfl⟩ := List.append_of_mem member
  have later : trace =
      (before ++ .answered asked answer :: between) ++ .answered other reply :: rest := by
    simp [split]
  have gated := (pass_releases.rule_of_runs run later).1
  have kept : asked.dropsGate = false := gated asked answer (by simp)
  simp [drops] at kept

/-- In every run of a pass, the call that takes the gate off is made only for a pod
whose machine is ready, and no call follows it. When the machine is ready and no
call fails, that call is made and the key is dropped. -/
theorem gate_opens_exactly_when_ready {trace : List Happening} {disposition : Disposition}
    (run : Runs (pass site text) trace disposition) :
    (∀ before asked answer after, trace = before ++ .answered asked answer :: after →
      asked.dropsGate = true →
        Warranted site text before asked ∧ ∀ other reply, .answered other reply ∉ after) ∧
      ∀ key pod vmi, ObjectKey.ofText text = .ok key → site.cache.pod? key = some pod →
        IsReady site key pod vmi trace → Unfailing trace →
          disposition = .forget ∧ ∃ patch, PodPatch.withoutGate? pod = some patch ∧
            .answered (.changePod key.space key.name patch) (.ok ()) ∈ trace := by
  constructor
  · intro before asked answer after split drops
    exact ⟨warranted_of_runs run split drops, no_call_after_gate run split drops⟩
  · intro key pod vmi named cached ready unfailing
    obtain ⟨forgets, lifted⟩ := releases_of_runs run named cached vmi ready unfailing
    exact ⟨by injection forgets, lifted⟩

/-- A pod that waits for the node of the pool machine it claimed, which runs. -/
def claimedSite : Site where
  cache :=
    { pods :=
        [{ metadata := { name := some "p", space := some "a" }
           spec := some
            { containers := []
              gates := some [gateName]
              nodeSelector := some [(hostLabel, "m")] } }]
      vmis :=
        [{ metadata :=
            { name := some "m"
              space := some "pool"
              labels := some
                [(claimantLabel, "a/p"), (poolStateLabel, PoolState.claimed.label)] }
           spec := {}
           status := some { phase := some .running } }]
      nodes := [{ metadata := { name := some "m" } }] }

/-- The node is reserved and then the gate comes off. -/
theorem gate_opens_for_claimed_machine :
    let reserve : Call :=
      .changeNode "m" ⟨none, [NodePatch.claimedTaint "p.maroonedpods.io"]⟩
    let lift : Call := .changePod "a" "p" ⟨none, .gates []⟩
    ∃ told, Runs (pass claimedSite "a/p")
        [.answered reserve (.ok ()), .answered lift (.ok ()), .told told] .forget ∧
      Warranted claimedSite "a/p" [.answered reserve (.ok ())] lift := by
  intro reserve lift
  obtain ⟨told, run⟩ : ∃ told, Runs (pass claimedSite "a/p")
      [.answered reserve (.ok ()), .answered lift (.ok ()), .told told] .forget :=
    ⟨_, .request (.request (.signal .done))⟩
  have opens := (gate_opens_exactly_when_ready run).1
  exact ⟨told, run, (opens [.answered reserve (.ok ())] lift (.ok ()) _ rfl rfl).1⟩

end Release

end NodeGate
