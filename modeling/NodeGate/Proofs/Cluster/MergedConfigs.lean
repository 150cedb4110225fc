import NodeGate.Cluster.Patch
import NodeGate.Json.MergePatch
import NodeGate.Proofs.Json.Settled
import NodeGate.Proofs.Time.Instants

/-!
# What a report makes of the configuration

The counts of the pool are merged into the stored document of the configuration. What is
decoded of the document after that has just these counts for its status, with the time of the
report, whatever the status was before, and all the rest as it was.
-/

namespace NodeGate

open Json Entries

variable {fields : Members} {status : PoolStatus} {config : GateConfig}

/-- The counts are numbers of thirty-two bits. -/
structure PoolStatus.IsBounded (status : PoolStatus) : Prop where
  total : asCount (.int status.total) = some status.total
  available : asCount (.int status.available) = some status.available
  claimed : asCount (.int status.claimed) = some status.claimed

/-- A status is decoded as it was reported, whatever it was merged into. -/
theorem PoolStatus.decode_merged {target : Json} {time : Instant} (sorted : Sorted target.members)
    (bounded : status.IsBounded) (timed : status.lastUpdate = some time) (proper : time.IsProper) :
    PoolStatus.decode (merged target status.toJson) = some status := by
  obtain ⟨after, merges, ordered, update, available, claimed, total⟩ : ∃ after,
      merged target status.toJson = .obj after ∧ Sorted after ∧
        get? "lastPoolUpdate" after = some (.str time.text) ∧
        get? "warmPoolAvailable" after = some (.int status.available) ∧
        get? "warmPoolClaimed" after = some (.int status.claimed) ∧
        get? "warmPoolTotal" after = some (.int status.total) := by
    refine ⟨_, by rw [PoolStatus.toJson, merged], ?_⟩
    simp only [timed, Option.map_some, present, List.singleton_append, mergedMembers,
      mergedMember_str, mergedMember_int]
    refine ⟨sorted.insert.insert.insert.insert, ?_⟩
    simp [get?_insert_of_ne]
  have updated : Json.optional "lastPoolUpdate" Instant.decode after = some (some time) := by
    rw [optional_of_get? ordered update (by simp), Instant.decode, asText, Option.bind_some,
      Instant.parse_text proper, Option.map_some]
  rw [merges, PoolStatus.decode, record?, if_pos (isUnrepeated_of_sorted ordered _)]
  simp [updated, orDefault_of_get? ordered available, orDefault_of_get? ordered claimed,
    orDefault_of_get? ordered total, bounded.available, bounded.claimed, bounded.total, ← timed]

theorem GateConfig.decode_eq_some_iff (sorted : Sorted fields) :
    GateConfig.decode (.obj fields) = some config ↔
      required "metadata" ObjectMeta.decode fields = some config.metadata ∧
      required "spec" GateConfigSpec.decode fields = some config.spec ∧
      Json.optional "status" PoolStatus.decode fields = some config.status := by
  rw [GateConfig.decode, objectFields?, if_pos (isUnrepeated_of_sorted sorted _)]
  simp only [Option.bind_eq_bind, Option.bind_some, Option.bind_eq_some_iff, Option.some.injEq]
  constructor
  · rintro ⟨_, described, _, specified, _, counted, rfl⟩
    exact ⟨described, specified, counted⟩
  · rintro ⟨described, specified, counted⟩
    exact ⟨_, described, _, specified, _, counted, rfl⟩

/-- A report changes the status of the configuration and nothing else. -/
theorem GateConfig.decode_merged {time : Instant} (settled : IsSettled (.obj fields))
    (decoded : GateConfig.decode (.obj fields) = some config) (bounded : status.IsBounded)
    (timed : status.lastUpdate = some time) (proper : time.IsProper) :
    GateConfig.decode (merged (.obj fields) (StatusPatch.toJson ⟨status⟩)) =
      some { config with status := some status } := by
  have sorted : Sorted fields := settled.obj.1
  have counted := PoolStatus.decode_merged (settled.partsOf "status").obj.1 bounded timed
    proper
  have merges : merged (.obj fields) (StatusPatch.toJson ⟨status⟩) =
      .obj (insert "status" (merged ((get? "status" fields).getD .null) status.toJson) fields) := by
    rw [StatusPatch.toJson, merged, mergedMembers, mergedMembers, PoolStatus.toJson,
      mergedMember_obj]
    rfl
  obtain ⟨described, specified, -⟩ := (GateConfig.decode_eq_some_iff sorted).mp decoded
  rw [merges, GateConfig.decode_eq_some_iff sorted.insert]
  refine ⟨?_, ?_, ?_⟩
  · exact (required_insert_of_ne sorted _ (by decide)).trans described
  · exact (required_insert_of_ne sorted _ (by decide)).trans specified
  · exact optional_insert_self sorted (by simp [PoolStatus.toJson, merged]) counted

end NodeGate
