import NodeGate.Machine.Manifest
import NodeGate.Proofs.Resource.MachineDocuments
import NodeGate.Proofs.Time.Instants
import NodeGate.Resource.GateConfig

/-!
# Resources survive being written

The settings and the reported counts of the configuration are read back as they
were written, as the parts of machines are. So what was read once from any document
is read again from what it is written as, whatever else stood in the document.
-/

namespace NodeGate

open Json Entries

namespace SizeSetting

/-- The numbers of a size have 32 and 64 bits. -/
structure Fits (size : SizeSetting) : Prop where
  cores : size.cores ≤ maxWord
  memoryMi : size.memoryMi ≤ maxLong

/-- A size as it is written. -/
def written (size : SizeSetting) : Written where
  fields := [("cpu", some (nat size.cores)), ("memoryMi", some (nat size.memoryMi))]
  ordered := show ["cpu", "memoryMi"].Pairwise (· < ·) by decide

theorem readsBack : ReadsBack Fits toJson decode where
  decode_encode size fits := by
    have cores := ((asNat_readsBack maxWord).required "cpu").read_written size.written
      size.cores (by simp [written]) fits.cores
    have memoryMi := ((asNat_readsBack maxLong).required "memoryMi").read_written size.written
      size.memoryMi (by simp [written]) fits.memoryMi
    have same : size.toJson = size.written.json := rfl
    rw [same, decode, Written.record?_json]
    simp [cores, memoryMi]
  fits_of_decode json size decoded := by
    simp only [decode, Option.bind_eq_bind, Option.bind_eq_some_iff, Option.some.injEq] at decoded
    obtain ⟨_, -, _, cores, _, memoryMi, rfl⟩ := decoded
    exact ⟨((asNat_readsBack _).required _).fits_of_read cores,
      ((asNat_readsBack _).required _).fits_of_read memoryMi⟩

end SizeSetting

namespace OverheadSetting

/-- The numbers of an overhead have 64 bits. -/
structure Fits (overhead : OverheadSetting) : Prop where
  cpuMillis : overhead.cpuMillis ≤ maxLong
  memoryMi : overhead.memoryMi ≤ maxLong

/-- An overhead as it is written. -/
def written (overhead : OverheadSetting) : Written where
  fields := [("cpuMillis", some (nat overhead.cpuMillis)),
    ("memoryMi", some (nat overhead.memoryMi))]
  ordered := show ["cpuMillis", "memoryMi"].Pairwise (· < ·) by decide

theorem readsBack : ReadsBack Fits toJson decode where
  decode_encode overhead fits := by
    have cpuMillis := ((asNat_readsBack maxLong).required "cpuMillis").read_written
      overhead.written overhead.cpuMillis (by simp [written]) fits.cpuMillis
    have memoryMi := ((asNat_readsBack maxLong).required "memoryMi").read_written
      overhead.written overhead.memoryMi (by simp [written]) fits.memoryMi
    have same : overhead.toJson = overhead.written.json := rfl
    rw [same, decode, Written.record?_json]
    simp [cpuMillis, memoryMi]
  fits_of_decode json overhead decoded := by
    simp only [decode, Option.bind_eq_bind, Option.bind_eq_some_iff, Option.some.injEq] at decoded
    obtain ⟨_, -, _, cpuMillis, _, memoryMi, rfl⟩ := decoded
    exact ⟨((asNat_readsBack _).required _).fits_of_read cpuMillis,
      ((asNat_readsBack _).required _).fits_of_read memoryMi⟩

end OverheadSetting

namespace GateConfigSpec

/-- The size of the pool has 32 bits, and the machine sizes fit. -/
structure Fits (spec : GateConfigSpec) : Prop where
  poolSize : spec.poolSize ≤ maxWord
  base : ∀ size, spec.base = some size → size.Fits
  overhead : ∀ overhead, spec.overhead = some overhead → overhead.Fits

/-- The settings as they are written. -/
def written (spec : GateConfigSpec) : Written where
  fields := [
    ("baseVMResources", spec.base.map SizeSetting.toJson),
    ("nodeImage", spec.nodeImage.map .str),
    ("nodeTaintKey", spec.taintKey.map .str),
    ("overheadResources", spec.overhead.map OverheadSetting.toJson),
    ("warmPoolSize", some (nat spec.poolSize))]
  ordered := show ["baseVMResources", "nodeImage", "nodeTaintKey", "overheadResources",
    "warmPoolSize"].Pairwise (· < ·) by decide

theorem baseMember :
    MemberReadsBack (fun found => ∀ size, found = some size → size.Fits) "baseVMResources"
      (Option.map SizeSetting.toJson) (Json.optional "baseVMResources" SizeSetting.decode) :=
  SizeSetting.readsBack.optional _ fun _ => Json.noConfusion

theorem overheadMember :
    MemberReadsBack (fun found => ∀ overhead, found = some overhead → overhead.Fits)
      "overheadResources" (Option.map OverheadSetting.toJson)
      (Json.optional "overheadResources" OverheadSetting.decode) :=
  OverheadSetting.readsBack.optional _ fun _ => Json.noConfusion

theorem readsBack : ReadsBack Fits toJson decode where
  decode_encode spec fits := by
    have poolSize := (numberMember "warmPoolSize" maxWord).read_written spec.written
      spec.poolSize (by simp [written]) fits.poolSize
    have base := baseMember.read_written spec.written spec.base (by simp [written]) fits.base
    have overhead := overheadMember.read_written spec.written spec.overhead
      (by simp [written]) fits.overhead
    have nodeImage := (textMember "nodeImage").read_written spec.written spec.nodeImage
      (by simp [written]) trivial
    have taintKey := (textMember "nodeTaintKey").read_written spec.written spec.taintKey
      (by simp [written]) trivial
    have same : spec.toJson = spec.written.json := by
      simp [toJson, written, Written.json, Written.members, present]
    rw [same, decode, Written.record?_json]
    simp [poolSize, base, overhead, nodeImage, taintKey]
  fits_of_decode json spec decoded := by
    simp only [decode, Option.bind_eq_bind, Option.bind_eq_some_iff, Option.some.injEq] at decoded
    obtain ⟨_, -, _, poolSize, _, base, _, overhead, _, -, _, -, rfl⟩ := decoded
    exact ⟨(numberMember _ _).fits_of_read poolSize, baseMember.fits_of_read base,
      overheadMember.fits_of_read overhead⟩

end GateConfigSpec

/-- An instant that was read from some document is read back from its text, in
whatever year it lies. -/
theorem Instant.readsBack :
    ReadsBack (fun instant => ∃ json, decode json = some instant) (fun instant => .str instant.text)
      decode where
  decode_encode instant read := by
    obtain ⟨json, read⟩ := read
    obtain ⟨text, -, parsed⟩ := Option.bind_eq_some_iff.mp read
    rw [decode, asText, Option.bind_some, parse_text (isProper_of_parse parsed)]
  fits_of_decode json _ decoded := ⟨json, decoded⟩

namespace PoolStatus

/-- The number has 32 bits with sign. -/
def IsCount (value : Int) : Prop :=
  -(Int.pow 2 31) ≤ value ∧ value ≤ Int.pow 2 31 - 1

instance (value : Int) : Decidable (IsCount value) :=
  inferInstanceAs (Decidable (_ ∧ _))

/-- The counts have 32 bits with sign, and the time, if there is one, was itself
read from a document. -/
structure Fits (status : PoolStatus) : Prop where
  total : IsCount status.total
  available : IsCount status.available
  claimed : IsCount status.claimed
  lastUpdate : ∀ time, status.lastUpdate = some time → ∃ json, Instant.decode json = some time

/-- The reported counts as they are written. -/
def written (status : PoolStatus) : Written where
  fields := [
    ("lastPoolUpdate", status.lastUpdate.map fun time => .str time.text),
    ("warmPoolAvailable", some (.int status.available)),
    ("warmPoolClaimed", some (.int status.claimed)),
    ("warmPoolTotal", some (.int status.total))]
  ordered := show ["lastPoolUpdate", "warmPoolAvailable", "warmPoolClaimed",
    "warmPoolTotal"].Pairwise (· < ·) by decide

/-- A count is zero when it is missing. -/
theorem countMember (name : String) :
    MemberReadsBack IsCount name (fun value => some (.int value)) (orDefault name 0 asCount) :=
  (asInt_readsBack _ _).orDefault name (by decide) fun _ => .inl rfl

theorem lastUpdateMember :
    MemberReadsBack
      (fun found => ∀ time, found = some time → ∃ json, Instant.decode json = some time)
      "lastPoolUpdate" (Option.map fun time => .str time.text)
      (Json.optional "lastPoolUpdate" Instant.decode) :=
  Instant.readsBack.optional _ fun _ => Json.noConfusion

theorem readsBack : ReadsBack Fits toJson decode where
  decode_encode status fits := by
    have total := (countMember "warmPoolTotal").read_written status.written status.total
      (by simp [written]) fits.total
    have available := (countMember "warmPoolAvailable").read_written status.written
      status.available (by simp [written]) fits.available
    have claimed := (countMember "warmPoolClaimed").read_written status.written status.claimed
      (by simp [written]) fits.claimed
    have lastUpdate := lastUpdateMember.read_written status.written status.lastUpdate
      (by simp [written]) fits.lastUpdate
    have same : status.toJson = status.written.json := by
      simp [toJson, written, Written.json, Written.members, present]
    rw [same, decode, Written.record?_json]
    simp [total, available, claimed, lastUpdate]
  fits_of_decode json status decoded := by
    simp only [decode, Option.bind_eq_bind, Option.bind_eq_some_iff, Option.some.injEq] at decoded
    obtain ⟨_, -, _, total, _, available, _, claimed, _, lastUpdate, rfl⟩ := decoded
    exact ⟨(countMember _).fits_of_read total, (countMember _).fits_of_read available,
      (countMember _).fits_of_read claimed, lastUpdateMember.fits_of_read lastUpdate⟩

end PoolStatus

/-- What machines and the configuration specify and report is read back as it was
written, and what was read from any document is read again from what it is written
as, whatever the document left out, set to `null` or told besides. -/
theorem resources_survive_writing :
    (∀ spec : VmiSpec, spec.Fits → VmiSpec.decode spec.toJson = some spec) ∧
    (∀ status : VmiStatus, VmiStatus.decode status.toJson = some status) ∧
    (∀ spec : GateConfigSpec, spec.Fits → GateConfigSpec.decode spec.toJson = some spec) ∧
    (∀ status : PoolStatus, status.Fits → PoolStatus.decode status.toJson = some status) ∧
    ∀ json : Json,
      (∀ spec, VmiSpec.decode json = some spec → VmiSpec.decode spec.toJson = some spec) ∧
      (∀ status, VmiStatus.decode json = some status →
        VmiStatus.decode status.toJson = some status) ∧
      (∀ spec, GateConfigSpec.decode json = some spec →
        GateConfigSpec.decode spec.toJson = some spec) ∧
      (∀ status, PoolStatus.decode json = some status →
        PoolStatus.decode status.toJson = some status) :=
  ⟨VmiSpec.readsBack.decode_encode, fun status => VmiStatus.readsBack.decode_encode status trivial,
    GateConfigSpec.readsBack.decode_encode, PoolStatus.readsBack.decode_encode,
    fun _ => ⟨fun _ => VmiSpec.readsBack.stable, fun _ => VmiStatus.readsBack.stable,
      fun _ => GateConfigSpec.readsBack.stable, fun _ => PoolStatus.readsBack.stable⟩⟩

/-- A status as another version may report it: with a field that is not known, a
field that is `null`, and a phase that no machine had before. -/
def oddStatusDocument : Json :=
  .obj [("conditions", .arr []), ("nodeName", .null), ("phase", .str "WaitingForSync")]

/-- A time within a leap second, told in another zone. -/
def leapDocument : Json :=
  .str "1999-12-31T15:59:60.5-08:00"

/-- The same time in universal time. -/
def leapInstant : Instant :=
  ⟨⟨1999, 12, 31⟩, 23, 59, 60, 500000000⟩

theorem oddStatusDocument_survives :
    VmiStatus.decode oddStatusDocument = some { phase := some .unknown } ∧
    VmiStatus.decode (VmiStatus.toJson { phase := some .unknown }) =
      some { phase := some .unknown } ∧
    Instant.decode leapDocument = some leapInstant ∧
    PoolStatus.decode (PoolStatus.toJson { total := -1, lastUpdate := some leapInstant }) =
      some { total := -1, lastUpdate := some leapInstant } ∧
    VmiSpec.decode (Manifest.specification ⟨2, 3072⟩ "image" "script").toJson =
      some (Manifest.specification ⟨2, 3072⟩ "image" "script") ∧
    GateConfigSpec.decode (GateConfigSpec.toJson { poolSize := 3, base := some ⟨2, 3072⟩ }) =
      some { poolSize := 3, base := some ⟨2, 3072⟩ } := by
  have odd : VmiStatus.decode oddStatusDocument = some { phase := some .unknown } := by decide
  have leap : Instant.decode leapDocument = some leapInstant := by decide
  have counted : PoolStatus.Fits { total := -1, lastUpdate := some leapInstant } := by
    refine ⟨by decide, by decide, by decide, ?_⟩
    rintro time ⟨⟩
    exact ⟨leapDocument, leap⟩
  have specified : (Manifest.specification ⟨2, 3072⟩ "image" "script").Fits := by
    refine ⟨?_, ?_⟩
    · rintro cpu ⟨⟩
      exact ⟨by decide, by decide, by decide⟩
    · rintro requests ⟨⟩
      exact List.pairwise_singleton _ _
  have configured : GateConfigSpec.Fits { poolSize := 3, base := some ⟨2, 3072⟩ } := by
    refine ⟨by decide, ?_, nofun⟩
    rintro size ⟨⟩
    exact ⟨by decide, by decide⟩
  obtain ⟨specs, _, settings, counts, documents⟩ := resources_survive_writing
  exact ⟨odd, (documents oddStatusDocument).2.1 _ odd, leap, counts _ counted,
    specs _ specified, settings _ configured⟩

end NodeGate
