import NodeGate.Proofs.Pool.Returning

/-!
# Passes keep a cluster tidy

A pass over a pod that stays labels a machine before it taints the node, and taints only
the node of the machine that the label tells. So the taint is warranted when it comes,
also when the pass breaks off in between.
-/

namespace NodeGate.Release

open Program

variable {site : Site} {objects : Cache} {key : ObjectKey} {pod : Pod} {vmi : Vmi}

/-- The condition that a pass keeps up from its cache. -/
abbrev KeepsTidy {α : Type} (site : Site) (program : Program α) (objects : Cache) : Prop :=
  program.Keeps (Cache.Tidy site.poolNamespace) objects

theorem refuse_keepsTidy {α : Type} {reason : String} (tidy : objects.Tidy site.poolNamespace) :
    KeepsTidy site (refuse key pod reason : Program (Except Fault α)) objects :=
  ⟨tidy, trivial⟩

theorem changePod_keepsTidy {α : Type} {space name : String} {patch : PodPatch}
    {next : Except Fault Unit → Program α} (tidy : objects.Tidy site.poolNamespace)
    (rest : ∀ answer after, after.Tidy site.poolNamespace → KeepsTidy site (next answer) after) :
    KeepsTidy site (call (.changePod space name patch) >>= next) objects := by
  refine maintains_call_bind.mpr ⟨tidy, ?_⟩
  intro answer after outcome
  cases outcome with
  | failed => exact rest _ _ tidy
  | changePod pods => exact rest _ _ tidy.withPods

theorem openGate_keepsTidy (tidy : objects.Tidy site.poolNamespace) :
    KeepsTidy site (openGate site key pod vmi) objects := by
  unfold openGate
  split
  · exact ⟨tidy, trivial⟩
  · split
    · exact ⟨tidy, trivial⟩
    · unfold liftGate
      split
      · exact ⟨tidy, trivial⟩
      · apply changePod_keepsTidy tidy
        rintro (fault | _) after tidy <;> exact ⟨tidy, trivial⟩

theorem createDedicated_keepsTidy (tidy : objects.Tidy site.poolNamespace) :
    KeepsTidy site (createDedicated site key pod) objects := by
  unfold createDedicated
  split
  · exact refuse_keepsTidy tidy
  next size sized =>
    refine maintains_call_bind.mpr ⟨tidy, ?_⟩
    intro answer after outcome
    cases outcome with
    | failed =>
        dsimp only
        split <;> exact ⟨tidy, trivial⟩
    | createMachine version absent =>
        have unpooled : (Manifest.dedicated key.space key.name size site.defaults
            site.join).isPooled = false := rfl
        have added := tidy.add version absent rfl
          (fun pooled => by rw [unpooled] at pooled; contradiction)
        exact ⟨added, trivial⟩

/-- A node may be reserved for the claimant of its machine when the taints that reserve it
in the cache are warranted. -/
theorem reserveNode_keepsTidy (tidy : objects.Tidy site.poolNamespace)
    (warranted : ∀ taintKey, site.cache.Reserves vmi.nodeName taintKey →
      objects.Warrants vmi.nodeName taintKey)
    (warrant : objects.Warrants vmi.nodeName (reservationKey key.name site.defaults.taintKey)) :
    KeepsTidy site (reserveNode site key vmi) objects := by
  unfold reserveNode
  split
  · exact ⟨tidy, trivial⟩
  next node joined =>
    unfold NodePatch.withTaint?
    split
    · exact ⟨tidy, trivial⟩
    next patch needed =>
      split at needed
      · contradiction
      · cases needed
        refine ⟨tidy, ?_⟩
        intro answer after outcome
        cases outcome with
        | failed => exact ⟨tidy, trivial⟩
        | changeNode found made =>
            refine ⟨tidy.taint found made ?_, trivial⟩
            intro taint member valued
            rcases List.mem_append.mp member with old | new
            · exact warranted taint.key ⟨node, joined, taint, old, rfl, valued⟩
            · rw [List.mem_singleton.mp new]
              exact warrant

theorem pinToMachine_keepsTidy (tidy : objects.Tidy site.poolNamespace)
    (warranted : ∀ taintKey, site.cache.Reserves vmi.nodeName taintKey →
      objects.Warrants vmi.nodeName taintKey)
    (warrant : objects.Warrants vmi.nodeName (reservationKey key.name site.defaults.taintKey)) :
    KeepsTidy site (pinToMachine site key pod vmi) objects := by
  unfold pinToMachine
  apply (reserveNode_keepsTidy tidy warranted warrant).andThen
  rintro after (fault | _) tidy -
  · exact ⟨tidy, trivial⟩
  · unfold selectNode
    dsimp only
    split
    · exact ⟨tidy, trivial⟩
    · apply changePod_keepsTidy tidy
      rintro (fault | _) after tidy <;> exact ⟨tidy, trivial⟩

/-- A claim of a machine that is there to be claimed warrants the reservation of its
node. -/
theorem claim_maintains (tidy : site.cache.Tidy site.poolNamespace)
    (slashless : afterLastSlash key.text = key.name)
    (candidate : site.cache.candidate? = some vmi) :
    (claim vmi key).Maintains (Cache.Tidy site.poolNamespace)
      (fun objects outcome => outcome = .ok () →
        objects.Warrants vmi.nodeName (reservationKey key.name site.defaults.taintKey))
      site.cache := by
  obtain ⟨member, pooled, available, -⟩ := Cache.candidate?_eq_some candidate
  have keyed := tidy.key_of_pooled member pooled
  unfold claim
  simp only [keyed]
  refine maintains_call_bind.mpr ⟨tidy, ?_⟩
  intro answer after outcome
  cases outcome with
  | failed =>
      refine ⟨tidy, ?_⟩
      intro impossible
      contradiction
  | @changeMachine _ _ _ stored made found makes =>
      obtain ⟨storedMember, storedKeyed⟩ := tidy.key_of_found found
      have madeKeyed := Vmi.key_of_sameObject ⟨makes.space_eq, makes.name_eq⟩ storedKeyed
      have isVmi : stored = vmi := tidy.eq_of_key storedMember member storedKeyed keyed
      refine ⟨tidy.relabel found makes rfl ?_, fun _ => ?_⟩
      · intro claimed
        rw [isVmi, available] at claimed
        contradiction
      · refine ⟨made, ?_, makes.claim.1, Vmi.nodeName_of_key madeKeyed, key.text,
          makes.claim.2, ?_⟩
        · refine List.mem_map.mpr ⟨stored, storedMember, ?_⟩
          exact Cache.supersede_of_sameObject ⟨makes.space_eq, makes.name_eq⟩
        · rw [slashless]
          rfl

theorem obtainMachine_keepsTidy (tidy : site.cache.Tidy site.poolNamespace)
    (slashless : afterLastSlash key.text = key.name) :
    KeepsTidy site (obtainMachine site key pod) site.cache := by
  unfold obtainMachine
  refine maintains_call_bind.mpr ⟨tidy, ?_⟩
  intro answer after outcome
  cases outcome with
  | failed => exact ⟨tidy, trivial⟩
  | readMachine =>
      dsimp only
      split
      · exact openGate_keepsTidy tidy
      · split
        · exact createDedicated_keepsTidy tidy
        next candidate isCandidate =>
          obtain ⟨member, pooled, available, -⟩ := Cache.candidate?_eq_some isCandidate
          have clean := tidy.isClean_of_unclaimed member pooled (by simp [available])
          apply (claim_maintains tidy slashless isCandidate).andThen
          rintro claimed (fault | _) tidy warrant
          · dsimp only
            split
            · exact ⟨tidy, trivial⟩
            · exact maintains_bind.mpr ⟨tidy, createDedicated_keepsTidy tidy⟩
          · have warranted : ∀ taintKey, site.cache.Reserves candidate.nodeName taintKey →
                claimed.Warrants candidate.nodeName taintKey :=
              fun taintKey reserves => absurd reserves (clean taintKey)
            apply (pinToMachine_keepsTidy tidy warranted (warrant rfl)).andThen
            rintro after (fault | _) tidy - <;> exact ⟨tidy, trivial⟩

theorem serve_keepsTidy (tidy : site.cache.Tidy site.poolNamespace)
    (slashless : afterLastSlash key.text = key.name) :
    KeepsTidy site (serve site key pod) site.cache := by
  unfold serve
  split
  · exact obtainMachine_keepsTidy tidy slashless
  next vmi serving =>
    split
    next pooled =>
      rcases Cache.machineOf?_eq_some serving with ⟨-, outside⟩ | ⟨holds, -⟩
      · rw [outside] at pooled
        contradiction
      · obtain ⟨member, -, claimed, claimant⟩ := Cache.heldBy?_eq_some holds
        have warrant : site.cache.Warrants vmi.nodeName
            (reservationKey key.name site.defaults.taintKey) := by
          refine ⟨vmi, member, claimed, rfl, key.text, claimant, ?_⟩
          rw [slashless]
          rfl
        apply (pinToMachine_keepsTidy tidy (fun _ => tidy.warranted _ _) warrant).andThen
        rintro after (fault | _ | _) tidy -
        · exact ⟨tidy, trivial⟩
        · exact openGate_keepsTidy tidy
        · exact ⟨tidy, trivial⟩
    · exact openGate_keepsTidy tidy

theorem attempt_keepsTidy {text : String} (tidy : site.cache.Tidy site.poolNamespace) :
    KeepsTidy site (attempt site text) site.cache := by
  unfold attempt
  split
  · exact ⟨tidy, trivial⟩
  next key named =>
    split
    · exact ⟨tidy, trivial⟩
    · unfold attend
      split
      · exact (depart_maintains tidy).relax fun _ unwinds => unwinds.tidy
      · split
        · exact ⟨tidy, trivial⟩
        · split
          · exact serve_keepsTidy tidy (ObjectKey.afterLastSlash_text named)
          · exact refuse_keepsTidy tidy

theorem pass_keepsTidy {text : String} (tidy : site.cache.Tidy site.poolNamespace) :
    KeepsTidy site (pass site text) site.cache := by
  unfold pass
  apply (attempt_keepsTidy tidy).andThen
  rintro after (fault | disposition) tidy - <;> exact ⟨tidy, trivial⟩

end NodeGate.Release
