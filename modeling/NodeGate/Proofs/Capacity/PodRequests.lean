import NodeGate.Capacity.Size
import NodeGate.Proofs.Capacity.QuantityMeasure
import NodeGate.Proofs.Json.Settled

/-!
# What the containers of a pod request

The size of a machine for a pod is settled by the texts that the containers of the pod
request of the two resources, in their order. The first that is no quantity is reported.
Otherwise every capped addition on the way amounts to one cap on the exact sum at the end.
In the document of a pod the requests stand in one place each, so that nothing else that
the document tells of the pod has a part in its size.
-/

namespace NodeGate

/-- A text that a container requests of a resource. -/
structure Request where
  resource : ResourceKind
  text : String
deriving DecidableEq, Repr

namespace Request

variable {request : Request} {quantity : Quantity}

/-- The quantity that is requested, if the text is one. -/
def quantity? (request : Request) : Option Quantity :=
  Quantity.parse request.text

/-- What there is to report of a text that is no quantity. -/
def fault (request : Request) : QuantityFault where
  resource := request.resource
  quantity := request.text

/-- The measures of what is requested of a resource, in its unit. -/
def amounts (resource : ResourceKind) (requests : List Request) : List Nat :=
  requests.filterMap fun request =>
    if request.resource = resource then request.quantity?.map (·.measure resource.places)
    else none

/-- How much is requested, in the unit of the resource. -/
def amount (request : Request) : Except QuantityFault Nat :=
  request.resource.amount request.text

theorem amount_of_none (unread : request.quantity? = none) :
    request.amount = .error request.fault := by
  obtain ⟨resource, text⟩ := request
  have unparsed : Quantity.parse text = none := unread
  cases resource with
  | cpu => simp [amount, ResourceKind.amount, Quantity.cpuMillis, unparsed, fault]
  | memory => simp [amount, ResourceKind.amount, Quantity.memoryBytes, unparsed, fault]

theorem amount_of_some (read : request.quantity? = some quantity) :
    request.amount = .ok (quantity.measure request.resource.places) :=
  ResourceKind.amount_of_parse read request.resource

@[simp]
theorem amounts_nil {resource : ResourceKind} : amounts resource [] = [] :=
  rfl

theorem sum_amounts_cons {resource : ResourceKind} {rest : List Request}
    (read : request.quantity? = some quantity) :
    (amounts resource (request :: rest)).sum =
      (if request.resource = resource then quantity.measure request.resource.places else 0) +
        (amounts resource rest).sum := by
  rw [amounts, List.filterMap_cons, read]
  split_ifs with same
  · simp [amounts, same]
  · simp [amounts]

end Request

/-- What a container requests of a resource. -/
def Container.request? (container : Container) (resource : ResourceKind) : Option Request :=
  (Entries.get? resource.name (container.requests.getD [])).map (Request.mk resource)

/-- What a container requests, of the processor first. -/
def Container.requested (container : Container) : List Request :=
  (container.request? .cpu).toList ++ (container.request? .memory).toList

/-- What the containers of a pod request, in their order. -/
def Pod.requested (pod : Pod) : List Request :=
  ((pod.spec.map PodSpec.containers).getD []).flatMap Container.requested

/-- The exact sum of what the containers of a pod request of a resource. -/
def Pod.total (pod : Pod) (resource : ResourceKind) : Nat :=
  (Request.amounts resource pod.requested).sum

/-! ## Where a document tells the requests -/

namespace Json

variable {α : Type} {name : String} {decode : Json → Option α} {fields : Members}
  {values : List Json}

/-- The value of the last member of that name; `null` stands for its absence. -/
def last (json : Json) (name : String) : Json :=
  (valuesOf name json.members).getLast?.getD .null

/-- The value to which names lead from the outside in. -/
def lastAt (json : Json) (names : List String) : Json :=
  names.foldl last json

/-- The items of an array; other values have none. -/
def items : Json → List Json
  | .arr items => items
  | _ => []

theorem valuesOf_cons (name : String) (field : String × Json) (rest : Members) :
    valuesOf name (field :: rest) =
      if field.1 = name then field.2 :: valuesOf name rest else valuesOf name rest := by
  rw [valuesOf, List.filterMap_cons]
  split_ifs <;> rfl

/-- Of several values the last is what is decoded. -/
theorem of_lastOf {held found : α} (decoded : lastOf decode held values = some found) :
    (values.getLast?.map decode).getD (some held) = some found := by
  induction values generalizing held with
  | nil => exact decoded
  | cons value rest ih =>
      rw [lastOf, Option.bind_eq_bind, Option.bind_eq_some_iff] at decoded
      obtain ⟨first, isFirst, remaining⟩ := decoded
      have known := ih remaining
      rw [List.getLast?_cons]
      cases final : rest.getLast? <;> simp_all

/-- A member is decoded from its last value, of which `null` stands for the default. -/
theorem of_orEmpty {default found : α}
    (decoded : orEmpty name default decode fields = some found) :
    orNull default decode (last (.obj fields) name) = some found := by
  have known := of_lastOf decoded
  rw [last, members]
  cases final : (valuesOf name fields).getLast? <;> simp_all [orNull]

/-- What may be absent is decoded from its last value, too. -/
theorem of_optional {found : Option α} (decoded : optional name decode fields = some found) :
    (last (.obj fields) name = .null ∧ found = none) ∨
      ∃ value, decode (last (.obj fields) name) = some value ∧ found = some value := by
  have known := of_orEmpty decoded
  generalize last (.obj fields) name = value at known
  cases value with
  | null => exact .inl ⟨rfl, (Option.some.inj known).symm⟩
  | _ =>
      obtain ⟨value, isValue, isFound⟩ := Option.map_eq_some_iff.mp known
      exact .inr ⟨value, isValue, isFound.symm⟩

/-- Of the members of one name the last is kept. -/
theorem get?_foldl_insert_of_decodeMembers {entries pairs : Entries α}
    (decoded : decodeMembers decode fields = some pairs) :
    Entries.get? name (pairs.foldl (fun entries pair => Entries.insert pair.1 pair.2 entries)
        entries) =
      ((valuesOf name fields).getLast?.map decode).getD (Entries.get? name entries) := by
  induction fields generalizing entries pairs with
  | nil =>
      cases decoded
      rfl
  | cons field rest ih =>
      simp only [decodeMembers, Option.bind_eq_bind, Option.bind_eq_some_iff,
        Option.some.injEq] at decoded
      obtain ⟨first, isFirst, others, remaining, rfl⟩ := decoded
      rw [List.foldl_cons, ih remaining, valuesOf_cons]
      by_cases same : field.1 = name
      · simp only [same, if_true, Entries.get?_insert_self, List.getLast?_cons]
        cases final : (valuesOf name rest).getLast? <;> simp [isFirst]
      · simp [same, Entries.get?_insert_of_ne (Ne.symm same)]

/-- A map tells at a name what its last member of that name is decoded as. -/
theorem get?_of_asEntries {json : Json} {entries : Entries α} (strict : decode .null = none)
    (decoded : asEntries decode json = some entries) :
    Entries.get? name entries = decode (last json name) := by
  cases json with
  | obj fields =>
      obtain ⟨pairs, isPairs, rfl⟩ := Option.map_eq_some_iff.mp decoded
      rw [Entries.ofPairs, get?_foldl_insert_of_decodeMembers isPairs, last, members]
      cases (valuesOf name fields).getLast? <;> simp [strict]
  | _ => contradiction

/-- What each value of an array is decoded as tells what all of them come to. -/
theorem flatMap_of_decodeAll {β : Type} {list : List Json} {found : List α}
    {told : Json → List β} {known : α → List β}
    (same : ∀ json value, decode json = some value → known value = told json)
    (decoded : decodeAll decode list = some found) :
    found.flatMap known = list.flatMap told := by
  induction list generalizing found with
  | nil =>
      cases decoded
      rfl
  | cons item rest ih =>
      simp only [decodeAll, Option.bind_eq_bind, Option.bind_eq_some_iff,
        Option.some.injEq] at decoded
      obtain ⟨first, isFirst, others, remaining, rfl⟩ := decoded
      rw [List.flatMap_cons, List.flatMap_cons, same item first isFirst, ih remaining]

end Json

/-- The request of a resource that the document of a container tells. -/
def Container.requestIn? (json : Json) (resource : ResourceKind) : Option Request :=
  (asQuantity (json.lastAt ["resources", "requests", resource.name])).map (Request.mk resource)

/-- The requests that the document of a container tells. -/
def Container.requestedIn (json : Json) : List Request :=
  (requestIn? json .cpu).toList ++ (requestIn? json .memory).toList

/-- The requests that the document of a pod tells. -/
def Pod.requestedIn (json : Json) : List Request :=
  (json.lastAt ["spec", "containers"]).items.flatMap Container.requestedIn

open Json in
/-- A container requests what its document tells at the names of the resources. -/
theorem Container.requested_of_decode {json : Json} {container : Container}
    (decoded : decode json = some container) : container.requested = requestedIn json := by
  suffices each : ∀ resource, container.request? resource = requestIn? json resource by
    rw [requested, requestedIn, each, each]
  intro resource
  have missing (names : List String) : asQuantity (lastAt .null names) = none := by
    induction names with
    | nil => rfl
    | cons name rest ih => exact ih
  simp only [decode, Option.bind_eq_bind, Option.bind_eq_some_iff, Option.some.injEq] at decoded
  obtain ⟨fields, isFields, resources, readResources, name, -, rfl⟩ := decoded
  cases json <;> cases isFields
  rw [request?, requestIn?]
  congr 1
  rw [lastAt, List.foldl_cons]
  rcases of_optional readResources with ⟨absent, rfl⟩ | ⟨requests, readRequests, rfl⟩
  · rw [absent]
    exact (missing ["requests", resource.name]).symm
  -- There are resources, whose requests are a member of their own.
  generalize last _ "resources" = json at readRequests
  simp only [decodeRequests, Option.bind_eq_bind, Option.bind_eq_some_iff] at readRequests
  obtain ⟨fields, isFields, limits, -, readRequests⟩ := readRequests
  cases json <;> cases isFields
  rw [List.foldl_cons]
  rcases of_optional readRequests with ⟨absent, rfl⟩ | ⟨entries, readEntries, rfl⟩
  · rw [absent]
    exact (missing [resource.name]).symm
  · exact get?_of_asEntries rfl readEntries

open Json in
/-- A pod requests what its document tells at its containers. -/
theorem Pod.requested_of_decode {json : Json} {pod : Pod} (decoded : decode json = some pod) :
    pod.requested = requestedIn json := by
  simp only [decode, Option.bind_eq_bind, Option.bind_eq_some_iff, Option.some.injEq] at decoded
  obtain ⟨fields, isFields, -, -, -, -, metadata, -, spec, readSpec, rfl⟩ := decoded
  cases json <;> cases isFields
  rw [requested, requestedIn, lastAt, List.foldl_cons]
  rcases of_optional readSpec with ⟨absent, rfl⟩ | ⟨spec, isSpec, rfl⟩
  · rw [absent]
    rfl
  -- There is a specification, whose containers may be left out or `null`.
  generalize last _ "spec" = json at isSpec
  simp only [PodSpec.decode, Option.bind_eq_bind, Option.bind_eq_some_iff, Option.some.injEq]
    at isSpec
  obtain ⟨fields, isFields, inits, -, containers, readContainers, gates, -, selector, -,
    tolerations, -, rfl⟩ := isSpec
  cases json <;> cases isFields
  have known := of_orEmpty readContainers
  rw [List.foldl_cons, List.foldl_nil]
  generalize last _ "containers" = json at known
  cases json with
  | null =>
      cases known
      rfl
  | arr items => exact flatMap_of_decodeAll (fun _ _ => Container.requested_of_decode) known
  | _ => cases known

/-! ## What the requests come to -/

namespace MachineSize

/-- The summed demand for a resource. -/
def Demand.sum (demand : Demand) : ResourceKind → Nat
  | .cpu => demand.cpuMillis
  | .memory => demand.memoryBytes

/-- The demand with another sum for a resource. -/
def Demand.withSum (demand : Demand) : ResourceKind → Nat → Demand
  | .cpu, sum => { demand with cpuMillis := sum }
  | .memory, sum => { demand with memoryBytes := sum }

/-- The demand with an amount of a resource on top. -/
def Demand.raise (demand : Demand) (resource : ResourceKind) (amount : Nat) : Demand :=
  demand.withSum resource (cappedAdd (demand.sum resource) amount)

/-- The demand with a request on top. -/
def Demand.add (demand : Demand) (request : Request) : Except QuantityFault Demand :=
  request.amount.map (demand.raise request.resource)

/-- The demand that exact sums amount to. -/
def Demand.ofSums (cpuMillis memoryBytes : Nat) : Demand :=
  ⟨min cpuMillis maxLong, min memoryBytes maxLong⟩

/-- What is read of a resource in a container is added to the demand for it. -/
theorem Demand.foldlM_request? (demand : Demand) (container : Container)
    (resource : ResourceKind) :
    (container.request? resource).toList.foldlM add demand =
      (addRequest resource.amount (demand.sum resource)
        (Entries.get? resource.name (container.requests.getD []))).map
          (demand.withSum resource) := by
  rw [Container.request?]
  cases Entries.get? resource.name (container.requests.getD []) with
  | none => cases resource <;> rfl
  | some text =>
      have alone (request : Request) : [request].foldlM add demand = demand.add request :=
        List.foldlM_cons.trans (bind_pure _)
      rw [Option.map_some, Option.toList_some, alone, add, Request.amount, addRequest]
      cases resource.amount text <;> rfl

/-- A container adds its requests one by one. -/
theorem Demand.addContainer_eq (demand : Demand) (container : Container) :
    demand.addContainer container = container.requested.foldlM add demand := by
  rw [Container.requested, List.foldlM_append, foldlM_request?]
  change _ = ((addRequest Quantity.cpuMillis demand.cpuMillis
    (Entries.get? "cpu" (container.requests.getD []))).map (demand.withSum .cpu)).bind _
  unfold addContainer
  dsimp only
  cases addRequest Quantity.cpuMillis demand.cpuMillis
      (Entries.get? "cpu" (container.requests.getD [])) with
  | error fault => rfl
  | ok cpuMillis =>
      refine Eq.trans ?_ (foldlM_request? (demand.withSum .cpu cpuMillis) container .memory).symm
      change _ = (addRequest Quantity.memoryBytes demand.memoryBytes
        (Entries.get? "memory" (container.requests.getD []))).map _
      cases addRequest Quantity.memoryBytes demand.memoryBytes
        (Entries.get? "memory" (container.requests.getD [])) <;> rfl

/-- So do containers. -/
theorem Demand.addContainers_eq (demand : Demand) (containers : List Container) :
    demand.addContainers containers =
      (containers.flatMap Container.requested).foldlM add demand := by
  induction containers generalizing demand with
  | nil => rfl
  | cons container rest ih =>
      rw [List.flatMap_cons, List.foldlM_append, ← addContainer_eq, addContainers]
      cases demand.addContainer container with
      | error fault => rfl
      | ok demand => exact ih demand

/-- A capped addition to a capped sum caps the sum. -/
theorem Demand.raise_ofSums (cpuMillis memoryBytes amount : Nat) (resource : ResourceKind) :
    (ofSums cpuMillis memoryBytes).raise resource amount =
      ofSums (cpuMillis + if resource = .cpu then amount else 0)
        (memoryBytes + if resource = .memory then amount else 0) := by
  cases resource <;> simp [raise, sum, withSum, ofSums, cappedAdd] <;> omega

/-- Requests are added up to the first that cannot be read; of others, the sums are capped
once. -/
theorem Demand.foldlM_add (cpuMillis memoryBytes : Nat) (requests : List Request) :
    requests.foldlM add (ofSums cpuMillis memoryBytes) =
      match requests.find? (·.quantity?.isNone) with
      | some request => .error request.fault
      | none => .ok (ofSums (cpuMillis + (Request.amounts .cpu requests).sum)
          (memoryBytes + (Request.amounts .memory requests).sum)) := by
  induction requests generalizing cpuMillis memoryBytes with
  | nil => rfl
  | cons request rest ih =>
      rw [List.foldlM_cons, add, List.find?_cons]
      cases read : request.quantity? with
      | none =>
          rw [Request.amount_of_none read]
          rfl
      | some quantity =>
          rw [Request.amount_of_some read, Request.sum_amounts_cons read,
            Request.sum_amounts_cons read, ← Nat.add_assoc, ← Nat.add_assoc]
          refine Eq.trans (congrArg (rest.foldlM add) (raise_ofSums _ _ _ _)) ?_
          exact ih _ _

/-- The demand of a pod is made up of its exact sums. -/
theorem demandOf_eq (pod : Pod) :
    demandOf pod =
      match pod.requested.find? (·.quantity?.isNone) with
      | some request => .error request.fault
      | none => .ok (.ofSums (pod.total .cpu) (pod.total .memory)) := by
  refine (Demand.addContainers_eq _ _).trans ((Demand.foldlM_add 0 0 pod.requested).trans ?_)
  rw [Nat.zero_add, Nat.zero_add]
  rfl

/-- The size for exact sums. -/
def ofSums (defaults : MachineDefaults) (cpuMillis memoryBytes : Nat) : MachineSize where
  cores := max 1 (max defaults.baseCores (min maxWord
    ⌈((min (cpuMillis + defaults.overheadCpuMillis) maxLong : Nat) : ℚ) / 1000⌉₊))
  memoryMi := max 512 (max defaults.baseMemoryMi
    (min (memoryBytes + min (defaults.overheadMemoryMi * mebibyte) maxLong) maxLong / mebibyte))

/-- Thousandths of a core in whole cores. -/
theorem ceil_thousandths (millis : Nat) : ⌈(millis : ℚ) / 1000⌉₊ = (millis + 999) / 1000 := by
  exact_mod_cast Quantity.ceil_div millis 1000 (by decide)

/-- A capped demand is sized as its exact sums, capped together with the overhead. -/
theorem ofDemand_ofSums (defaults : MachineDefaults) (cpuMillis memoryBytes : Nat) :
    ofDemand defaults (.ofSums cpuMillis memoryBytes) =
      ofSums defaults cpuMillis memoryBytes := by
  have capped (sum overhead : Nat) :
      cappedAdd (min sum maxLong) overhead = min (sum + overhead) maxLong := by
    unfold cappedAdd
    omega
  unfold ofDemand ofSums Demand.ofSums
  simp only [capped, ceil_thousandths]
  congr 1
  · rw [max_right_comm, max_comm, max_comm _ defaults.baseCores, min_comm maxWord]
  · rw [max_right_comm, max_comm, max_comm _ defaults.baseMemoryMi]

/-- The size for a pod is reported with the first request that is no quantity, of the
processor before the memory of the same container. Otherwise it is the size for the exact
sums of what the containers request. In the document of the pod the requests stand at the
two resources of its containers, so that nothing else has a part in the size: not its init
containers, not the limits, and no other resource. -/
theorem ofPod_eq_of_requests (defaults : MachineDefaults) (pod : Pod) :
    ofPod defaults pod =
        (match pod.requested.find? (·.quantity?.isNone) with
        | some request => .error request.fault
        | none => .ok (ofSums defaults (pod.total .cpu) (pod.total .memory))) ∧
      ∀ json, Pod.decode json = some pod → pod.requested = Pod.requestedIn json := by
  refine ⟨?_, fun json => Pod.requested_of_decode⟩
  rw [ofPod, demandOf_eq]
  cases pod.requested.find? (·.quantity?.isNone) with
  | some request => rfl
  | none => exact congrArg Except.ok (ofDemand_ofSums _ _ _)

/-- A pod of an init container and two containers, one with a limit and another resource. -/
def layeredPod : Json :=
  .obj [("spec", .obj [
    ("initContainers", .arr [.obj [("resources",
      .obj [("requests", .obj [("cpu", .str "64"), ("memory", .str "1Ti")])])]]),
    ("containers", .arr [
      .obj [("resources", .obj [("limits", .obj [("cpu", .str "32")]),
        ("requests", .obj [("memory", .str "3Gi"), ("cpu", .str "1500m"),
          ("nvidia.com/gpu", .str "8")])])],
      .obj [("resources", .obj [("requests", .obj [("memory", .str "1.5Gi")])])]])])]

/-- It is sized for what its two containers request of the two resources. -/
theorem size_of_layeredPod : ∃ pod, Pod.decode layeredPod = some pod ∧
    pod.requested = [⟨.cpu, "1500m"⟩, ⟨.memory, "3Gi"⟩, ⟨.memory, "1.5Gi"⟩] ∧
    ofPod {} pod = .ok ⟨2, 5120⟩ := by
  obtain ⟨pod, decoded⟩ : ∃ pod, Pod.decode layeredPod = some pod :=
    Option.isSome_iff_exists.mp (by decide)
  obtain ⟨sized, told⟩ := ofPod_eq_of_requests {} pod
  have requested : pod.requested = [⟨.cpu, "1500m"⟩, ⟨.memory, "3Gi"⟩, ⟨.memory, "1.5Gi"⟩] :=
    (told layeredPod decoded).trans (by decide)
  have cpu : pod.total .cpu = 1500 := by
    rw [Pod.total, requested]
    decide
  have memory : pod.total .memory = 4608 * mebibyte := by
    rw [Pod.total, requested]
    decide
  have readable : pod.requested.find? (·.quantity?.isNone) = none := by
    rw [requested]
    decide
  have size : ofDemand {} (.ofSums 1500 (4608 * mebibyte)) = ⟨2, 5120⟩ := by decide +kernel
  rw [readable, cpu, memory, ← ofDemand_ofSums, size] at sized
  exact ⟨pod, decoded, requested, sized⟩

end MachineSize

end NodeGate
