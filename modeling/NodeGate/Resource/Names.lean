/-!
# Well-known names

The label keys, the gate and the finalizer by which admission, the gate
controller and people reading the cluster recognise isolated pods and pool
machines, and the texts composed from them.
-/

namespace NodeGate

/-- The scheduling gate that holds a pod until its node is there. -/
def gateName : String := "MaroonedPodsGate"

/-- The finalizer that keeps a pod until its machine is released. -/
def finalizerName : String := "maroonedpods.io/finalizer"

/-- The label by which a pod asks for a node of its own. -/
def isolationLabel : String := "maroonedpods.io/maroon"

/-- The label that makes a machine a member of the pool and tells its state. -/
def poolStateLabel : String := "maroonedpods.io/warm-pool-state"

/-- The label that names the pod holding a claimed pool machine. -/
def claimantLabel : String := "maroonedpods.io/warm-pool-claimed-by"

/-- What the names of pool machines start with. -/
def poolNameStem : String := "maroonedpods-pool-"

/-- The last part of taint keys when none is configured. -/
def standardTaintKey : String := "maroonedpods.io"

/-- The node label that a pod selects its node by. -/
def hostLabel : String := "kubernetes.io/hostname"

/-- The namespace of the controller, and of the pool when none is configured. -/
def controlNamespace : String := "maroonedpods"

/-- The service account of the controller. -/
def controllerAccount : String := "maroonedpods-controller"

/-- The value of the taint on the node of a claimed machine. -/
def reservationValue : String := "claimed"

/-- The effect of every taint set here: pods that do not tolerate it are not
scheduled. -/
def noSchedule : String := "NoSchedule"

/-- The key of the taint that reserves a node for the pod of that name. -/
def reservationKey (podName taintKey : String) : String :=
  podName ++ "." ++ taintKey

/-- The user that the controller's service account in a namespace acts as. -/
def controllerUser (space : String) : String :=
  "system:serviceaccount:" ++ space ++ ":" ++ controllerAccount

/-- The key under which work on an object is queued. -/
def workKey (space name : String) : String :=
  space ++ "/" ++ name

/-- The parts of a text before and after its first slash. -/
def splitAtSlash? (text : String) : Option (String × String) :=
  let characters := text.toList
  match characters.dropWhile (· != '/') with
  | [] => none
  | _ :: rest => some (String.ofList (characters.takeWhile (· != '/')), String.ofList rest)

/-- The parts at the first slash are those of a work key whose namespace is free of slashes. -/
theorem splitAtSlash?_eq_some_iff {text space name : String} :
    splitAtSlash? text = some (space, name) ↔
      text = workKey space name ∧ '/' ∉ space.toList := by
  constructor
  · intro parts
    unfold splitAtSlash? at parts
    dsimp only at parts
    split at parts
    next => contradiction
    next first rest dropped =>
      cases parts
      have slash : first = '/' := by
        have refused := List.head?_dropWhile_not (· != '/') text.toList
        simpa [dropped] using refused
      constructor
      · apply String.toList_inj.mp
        have whole := List.takeWhile_append_dropWhile (p := (· != '/')) (l := text.toList)
        rw [dropped, slash] at whole
        simp [workKey, whole]
      · intro member
        rw [String.toList_ofList] at member
        simpa using List.all_eq_true.mp List.all_takeWhile _ member
  · rintro ⟨rfl, bare⟩
    have slashless : ∀ character ∈ space.toList, (character != '/') = true := by
      intro character member
      simp only [bne_iff_ne]
      rintro rfl
      exact bare member
    have parts : (workKey space name).toList = space.toList ++ '/' :: name.toList := by
      simp [workKey]
    rw [splitAtSlash?, parts, List.takeWhile_append_of_pos slashless,
      List.dropWhile_append_of_pos slashless]
    simp

/-- The part of a text after its last slash, or all of it without one. -/
def afterLastSlash (text : String) : String :=
  String.ofList (text.toList.reverse.takeWhile (· != '/')).reverse

/-- What comes after the last slash of a work key is its name. -/
theorem afterLastSlash_workKey {space name : String} (bare : '/' ∉ name.toList) :
    afterLastSlash (workKey space name) = name := by
  have slashless : ∀ character ∈ name.toList.reverse, (character != '/') = true := by
    intro character member
    simp only [bne_iff_ne]
    rintro rfl
    exact bare (List.mem_reverse.mp member)
  have parts : (workKey space name).toList.reverse =
      name.toList.reverse ++ '/' :: space.toList.reverse := by
    simp [workKey]
  rw [afterLastSlash, parts, List.takeWhile_append_of_pos slashless]
  simp

/-- The namespace and the name of a work key: both non-empty and free of
slashes. -/
def keyParts? (key : String) : Option (String × String) :=
  match splitAtSlash? key with
  | some (space, name) =>
    if space.isEmpty || name.isEmpty || name.toList.contains '/' then none
    else some (space, name)
  | none => none

/-- The name of a work key is free of slashes. -/
theorem slash_not_mem_of_keyParts? {key space name : String}
    (parts : keyParts? key = some (space, name)) : '/' ∉ name.toList := by
  unfold keyParts? at parts
  split at parts
  · split at parts
    · contradiction
    next proper =>
      cases parts
      simp only [Bool.or_eq_true, not_or, List.contains_iff_mem] at proper
      exact proper.2
  · contradiction

end NodeGate
