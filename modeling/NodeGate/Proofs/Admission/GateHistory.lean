import Mathlib.Data.List.Induction
import NodeGate.Admission.Review
import NodeGate.Proofs.Admission.Readers

/-!
# Who takes the gate off

A pod is stored as the review of its creation left it, and is then replaced by whatever
update a review lets through. Whoever asks for updates, and whatever else they change, the
stored pod keeps our gate up to the first update in which the controller drops it. Whatever
the reader of pods cannot read is denied as malformed.
-/

namespace NodeGate.Admission

open Json

variable {reads : Json → Option Pod} {policy : Policy} {review : Review} {request : Request}
  {created stored : Json} {old new pod : Pod}

/-- The document that is stored of a new object after the decision on it. -/
def Decision.stored? : Decision → Json → Option Json
  | .allow _, document => some document
  | .patch _ operations, document => AddOperation.performAll? operations document
  | .deny _ _, _ => none

/-- Whether the answer to a review lets the request through. -/
def Review.allows (reads : Json → Option Pod) (policy : Policy) (review : Review) : Bool :=
  (review.answerBy reads policy).response.any (·.allowed)

/-- The answer to the review denies the request with that code. -/
def Review.Denies (reads : Json → Option Pod) (policy : Policy) (review : Review) (code : Nat) :
    Prop :=
  ∃ response message, (review.answerBy reads policy).response = some response ∧
    response.allowed = false ∧ response.status = some (code, message)

/-- The review lets a new pod in, of which that document is stored. -/
structure Review.Admits (reads : Json → Option Pod) (policy : Policy) (review : Review)
    (pod : Pod) (stored : Json) : Prop where
  created : ∃ request document decision, review.request = some request ∧
    request.kind = "Pod" ∧ request.operation = .create ∧ request.object = some document ∧
    document.IsSettled ∧ reads document = some pod ∧
    request.decide reads policy = .ok decision ∧ decision.stored? document = some stored

/-- The request is about a change of the pod of that document. -/
structure Request.IsUpdateOf (request : Request) (stored : Json) : Prop where
  kind : request.kind = "Pod"
  operation : request.operation = .update
  old : request.oldObject = some stored

/-- The document after the review of a change of it. -/
def afterReview (reads : Json → Option Pod) (policy : Policy) (stored : Json) (review : Review) :
    Json :=
  if review.allows reads policy then (review.request.bind Request.object).getD stored else stored

/-- The document after reviews in turn. -/
def afterReviews (reads : Json → Option Pod) (policy : Policy) (created : Json)
    (reviews : List Review) : Json :=
  reviews.foldl (afterReview reads policy) created

/-- Each of the reviews is about a change of the pod as the reviews before it left it. -/
def IsHistory (reads : Json → Option Pod) (policy : Policy) (created : Json)
    (reviews : List Review) : Prop :=
  ∀ earlier review, earlier ++ [review] <+: reviews → ∃ request,
    review.request = some request ∧
      request.IsUpdateOf (afterReviews reads policy created earlier)

/-- The document is read as that of a pod with our gate. -/
def Gated (reads : Json → Option Pod) (stored : Json) : Prop :=
  ∃ pod, reads stored = some pod ∧ pod.isGated = true

/-- The last of the reviews lets the controller drop the gate, which is on up to then. -/
structure Lifts (reads : Json → Option Pod) (policy : Policy) (created : Json)
    (earlier : List Review) (review : Review) : Prop where
  gated : ∀ sooner, sooner <+: earlier → Gated reads (afterReviews reads policy created sooner)
  allowed : review.allows reads policy = true
  controller : ∃ request, review.request = some request ∧
    request.username = controllerUser policy.controllerNamespace
  dropped : ¬ Gated reads (afterReviews reads policy created (earlier ++ [review]))

theorem podOf_eq_ok {part : String} {object : Option Json}
    (decoded : object.bind reads = some pod) : podOf reads part object = .ok pod := by
  obtain ⟨json, rfl, found⟩ := Option.bind_eq_some_iff.mp decoded
  simp [podOf, found]

theorem exists_podOf_eq_error (part : String) {object : Option Json}
    (undecoded : object.bind reads = none) : ∃ fault, podOf reads part object = .error fault := by
  cases object with
  | none => exact ⟨_, rfl⟩
  | some json =>
      rw [Option.bind_some] at undecoded
      exact ⟨.undecodable, by simp [podOf, undecoded]⟩

/-- An update between two pods is answered with the decision on the change. -/
theorem answer_of_decoded (policy : Policy) (asked : review.request = some request)
    (update : request.IsUpdateOf stored) (decodedNew : request.object.bind reads = some new)
    (decodedOld : reads stored = some old) :
    (review.answerBy reads policy).response =
      some (.ofDecision request.uid (decideChange policy old new request.username)) := by
  have older : podOf reads "oldObject" request.oldObject = .ok old :=
    podOf_eq_ok (by rw [update.old, Option.bind_some, decodedOld])
  simp [Review.answerBy, asked, Request.answer, Request.decide, update.kind, update.operation,
    podOf_eq_ok decodedNew, older]

/-- An update that lacks one of its two pods cannot be decided on. -/
theorem exists_decide_eq_error (policy : Policy) (kind : request.kind = "Pod")
    (operation : request.operation = .update)
    (undecoded : request.object.bind reads = none ∨
      request.oldObject.bind reads = none) :
    ∃ fault, request.decide reads policy = .error fault := by
  cases new : request.object.bind reads with
  | none =>
      obtain ⟨fault, isFault⟩ := exists_podOf_eq_error "object" new
      exact ⟨fault, by simp [Request.decide, kind, operation, isFault]⟩
  | some pod =>
      rcases undecoded with old | old
      · rw [old] at new
        contradiction
      · obtain ⟨fault, isFault⟩ := exists_podOf_eq_error "oldObject" old
        exact ⟨fault, by simp [Request.decide, kind, operation, podOf_eq_ok new, isFault]⟩

/-- An update that lacks one of its two pods is denied as malformed. -/
theorem denies_of_undecoded (asked : review.request = some request) (kind : request.kind = "Pod")
    (operation : request.operation = .update)
    (undecoded : request.object.bind reads = none ∨
      request.oldObject.bind reads = none) : review.Denies reads policy 400 := by
  obtain ⟨fault, isFault⟩ := exists_decide_eq_error policy kind operation undecoded
  refine ⟨.ofFault request.uid fault, fault.message, ?_, rfl, rfl⟩
  simp [Review.answerBy, asked, Request.answer, isFault]

/-- An update is let through that leaves a gate on or that the controller asks for. -/
theorem allows_of_kept (asked : review.request = some request)
    (update : request.IsUpdateOf stored) (decodedNew : request.object.bind reads = some new)
    (decodedOld : reads stored = some old)
    (kept : new.isGated = true ∨ request.username = controllerUser policy.controllerNamespace) :
    review.allows reads policy = true := by
  rw [Review.allows, answer_of_decoded policy asked update decodedNew decodedOld, decideChange]
  rcases kept with gated | controller
  · rw [if_pos (.inr gated)]
    rfl
  · rw [if_pos controller]
    split <;> rfl

/-- An update in which another user drops the last gate is denied as forbidden. -/
theorem denies_of_dropped (asked : review.request = some request)
    (update : request.IsUpdateOf stored) (decodedNew : request.object.bind reads = some new)
    (decodedOld : reads stored = some old) (gated : old.isGated = true)
    (dropped : new.isGated = false)
    (other : request.username ≠ controllerUser policy.controllerNamespace) :
    review.Denies reads policy 403 := by
  have answered := answer_of_decoded policy asked update decodedNew decodedOld
  have changed : ¬ (old.isGated = false ∨ new.isGated = true) := by simp [gated, dropped]
  rw [decideChange, if_neg changed, if_neg other] at answered
  exact ⟨_, _, answered, rfl, rfl⟩

theorem Review.Denies.allows {code : Nat} (denied : review.Denies reads policy code) :
    review.allows reads policy = false := by
  obtain ⟨response, message, answered, refused, -⟩ := denied
  simp [Review.allows, answered, refused]

/-- A gated pod is gated after a review too, unless that lets the controller drop the gate. -/
theorem gated_afterReview (asked : review.request = some request)
    (update : request.IsUpdateOf stored) (gated : Gated reads stored)
    (still : ¬ (review.allows reads policy = true ∧
      request.username = controllerUser policy.controllerNamespace)) :
    Gated reads (afterReview reads policy stored review) := by
  obtain ⟨old, decodedOld, wasGated⟩ := gated
  rw [afterReview]
  split
  next allowed =>
    rw [asked, Option.bind_some]
    cases decodedNew : request.object.bind reads with
    | none =>
        have denied : review.allows reads policy = false :=
          (denies_of_undecoded asked update.kind update.operation (.inl decodedNew)).allows
        rw [denied] at allowed
        contradiction
    | some new =>
        obtain ⟨json, isObject, decoded⟩ := Option.bind_eq_some_iff.mp decodedNew
        rw [isObject, Option.getD_some]
        cases nowGated : new.isGated with
        | true => exact ⟨new, decoded, nowGated⟩
        | false =>
            have denied := denies_of_dropped asked update decodedNew decodedOld wasGated nowGated
              fun controller => still ⟨allowed, controller⟩
            rw [denied.allows] at allowed
            contradiction
  next => exact ⟨old, decodedOld, wasGated⟩

/-- A new pod that asks for isolation is stored with the gate on. -/
theorem Review.Admits.gated (reader : Pod.IsReader reads)
    (admitted : review.Admits reads policy pod stored) (isolated : pod.isIsolated = true)
    (specified : pod.spec.isSome = true) : Gated reads stored := by
  obtain ⟨request, json, decision, -, kind, operation, isObject, settled, read, decided,
    isStored⟩ := admitted.created
  have decided : decideNew policy pod = .ok decision := by
    simpa [Request.decide, kind, operation, isObject, podOf, read] using decided
  have decoded : Pod.decode json = some pod := reader.kept json pod settled read
  cases named : pod.metadata.name with
  | none => simp [decideNew, newPodOperations, isolated, named] at decided
  | some name =>
      cases proper : name.isEmpty with
      | true => simp [decideNew, newPodOperations, isolated, named, proper] at decided
      | false =>
          obtain ⟨document, rfl⟩ := PodDocument.exists_of_decode settled decoded
            (by rw [named, Option.isSome_some]) specified
          obtain ⟨operations, after, found, amends⟩ :=
            PodDocument.exists_amends_new policy decoded isolated named proper
          -- Without an operation the pod is allowed as it came, which is as amended too.
          have same : stored = after.json := by
            cases operations with
            | nil =>
                obtain rfl : .allow "Pod has successfully gated" = decision := by
                  simpa [decideNew, found] using decided
                exact Option.some.inj (isStored.symm.trans amends.performed)
            | cons operation rest =>
                obtain rfl :
                    .patch "Pod has successfully gated" (operation :: rest) = decision := by
                  simpa [decideNew, found] using decided
                exact Option.some.inj (isStored.symm.trans amends.performed)
          rw [same]
          exact ⟨_, reader.isolation document after pod _ settled read amends.same amends.decoded,
            Pod.isGated_awaitingNode specified⟩

@[simp]
theorem afterReviews_concat (reviews : List Review) :
    afterReviews reads policy created (reviews ++ [review]) =
      afterReview reads policy (afterReviews reads policy created reviews) review := by
  simp [afterReviews]

theorem IsHistory.of_prefix {reviews sooner : List Review}
    (history : IsHistory reads policy created reviews) (earlier : sooner <+: reviews) :
    IsHistory reads policy created sooner :=
  fun _ _ within => history _ _ (within.trans earlier)

theorem isHistory_nil : IsHistory reads policy created [] := by
  intro earlier review within
  simp at within

/-- A history goes on with any review of a change of the pod as it is left. -/
theorem IsHistory.concat {reviews : List Review} (history : IsHistory reads policy created reviews)
    (asked : review.request = some request)
    (update : request.IsUpdateOf (afterReviews reads policy created reviews)) :
    IsHistory reads policy created (reviews ++ [review]) := by
  intro earlier next within
  rcases List.prefix_concat_iff.mp within with same | within
  · obtain ⟨rfl, rfl⟩ := List.append_singleton_inj.mp same
    exact ⟨request, asked, update⟩
  · exact history earlier next within

/-- A pod that was stored with the gate on keeps it through all reviews of its updates, or
up to the first of them that lets the controller drop it. -/
theorem gated_or_lifts (stored : Gated reads created) {reviews : List Review}
    (history : IsHistory reads policy created reviews) :
    (∀ sooner, sooner <+: reviews → Gated reads (afterReviews reads policy created sooner)) ∨
      ∃ earlier review, earlier ++ [review] <+: reviews ∧
        Lifts reads policy created earlier review := by
  induction reviews using List.reverseRecOn with
  | nil =>
      left
      intro sooner within
      rw [List.prefix_nil.mp within]
      exact stored
  | append_singleton reviews review ih =>
      rcases ih (history.of_prefix (List.prefix_append _ _)) with
        gated | ⟨earlier, lift, within, lifts⟩
      · by_cases still : Gated reads (afterReviews reads policy created (reviews ++ [review]))
        · left
          intro sooner within
          rcases List.prefix_concat_iff.mp within with rfl | within
          · exact still
          · exact gated sooner within
        · right
          obtain ⟨request, asked, update⟩ := history reviews review (List.prefix_refl _)
          have lifted : review.allows reads policy = true ∧
              request.username = controllerUser policy.controllerNamespace := by
            by_contra refused
            apply still
            rw [afterReviews_concat]
            exact gated_afterReview asked update (gated reviews (List.prefix_refl _)) refused
          exact ⟨reviews, review, List.prefix_refl _, gated, lifted.1,
            ⟨request, asked, lifted.2⟩, still⟩
      · exact .inr ⟨earlier, lift, within.trans (List.prefix_append _ _), lifts⟩

/-- How the reviews of the updates of a pod guard its gate. -/
structure GuardsGate (reads : Json → Option Pod) (policy : Policy) (created : Json)
    (reviews : List Review) : Prop where
  /-- The gate is on throughout, or up to an update in which the controller drops it. -/
  lifted :
    (∀ sooner, sooner <+: reviews → Gated reads (afterReviews reads policy created sooner)) ∨
    ∃ earlier review, earlier ++ [review] <+: reviews ∧
      Lifts reads policy created earlier review
  /-- While the gate is on, an update in which another user drops it is denied. -/
  forbidden : ∀ sooner, sooner <+: reviews →
    Gated reads (afterReviews reads policy created sooner) →
    ∀ (review : Review) (request : Request) (new : Pod), review.request = some request →
      request.IsUpdateOf (afterReviews reads policy created sooner) →
      request.object.bind reads = some new → new.isGated = false →
      request.username ≠ controllerUser policy.controllerNamespace →
      review.Denies reads policy 403
  /-- While the gate is on, an update that leaves one on is let through. -/
  kept : ∀ sooner, sooner <+: reviews →
    Gated reads (afterReviews reads policy created sooner) →
    ∀ (review : Review) (request : Request) (new : Pod), review.request = some request →
      request.IsUpdateOf (afterReviews reads policy created sooner) →
      request.object.bind reads = some new → new.isGated = true →
      review.allows reads policy = true
  /-- An update that lacks one of its two pods, or in which one cannot be read, is denied. -/
  malformed : ∀ (review : Review) (request : Request), review.request = some request →
    request.kind = "Pod" → request.operation = .update →
    (request.object.bind reads = none ∨ request.oldObject.bind reads = none) →
    review.Denies reads policy 400

/-- Reviews guard the gate of every pod that asked for isolation when it was created, whatever
more the reader of pods asks of a document than what is kept of a pod. -/
theorem reviews_guard_gate (reader : Pod.IsReader reads) (policy : Policy) {creation : Review}
    (admitted : creation.Admits reads policy pod created) (isolated : pod.isIsolated = true)
    (specified : pod.spec.isSome = true) {reviews : List Review}
    (history : IsHistory reads policy created reviews) :
    GuardsGate reads policy created reviews where
  lifted := gated_or_lifts (admitted.gated reader isolated specified) history
  forbidden := by
    intro sooner _ gated review request new asked update decodedNew dropped other
    obtain ⟨old, decodedOld, wasGated⟩ := gated
    exact denies_of_dropped asked update decodedNew decodedOld wasGated dropped other
  kept := by
    intro sooner _ gated review request new asked update decodedNew nowGated
    obtain ⟨old, decodedOld, -⟩ := gated
    exact allows_of_kept asked update decodedNew decodedOld (.inl nowGated)
  malformed := by
    intro review request asked kind operation undecoded
    exact denies_of_undecoded asked kind operation undecoded

/-- The plain pod after the operations on a new pod. -/
def waitingPod : Json :=
  .obj [("apiVersion", .str "v1"), ("kind", .str "Pod"),
    ("metadata", .obj [("finalizers", strings [finalizerName]),
      ("labels", .obj [(isolationLabel, .str "true")]), ("name", .str "p1")]),
    ("spec", .obj [("nodeSelector", .obj [("disk", .str "ssd"), (hostLabel, .str "p1")]),
      ("priority", .nat 7),
      ("schedulingGates", .arr [.obj [("name", .str "example.com/wait")],
        .obj [("name", .str gateName)]]),
      ("tolerations", .arr [.obj [("key", .str "dedicated"), ("operator", .str "Exists")],
        (tolerationOf "p1.maroonedpods.io").toJson])])]

/-- A pod that has no labels any more, with these gates. -/
def strippedPod (gates : List String) : Json :=
  .obj [("metadata", .obj [("name", .str "p1")]),
    ("spec", .obj [("schedulingGates", .arr (gates.map PodSpec.gateToJson))])]

/-- No pod, for the number in the place of its restart policy. -/
def mistypedPod : Json :=
  .obj [("metadata", .obj [("name", .str "p1")]), ("spec", .obj [("restartPolicy", .nat 5)])]

/-- The review of an operation on a pod that a user asks for. -/
def reviewOf (username : String) (operation : Operation) (object oldObject : Option Json) :
    Review where
  apiVersion := "admission.k8s.io/v1"
  kind := "AdmissionReview"
  request := some { uid := "u1", kind := "Pod", operation, username, object, oldObject }

/-- Users strip the pod of its labels, fail to drop its gate and fail twice to give a new pod,
until the controller drops the gate. -/
def strippingReviews : List Review :=
  [reviewOf "alice" .update (some (strippedPod [gateName, gateName])) (some waitingPod),
    reviewOf "alice" .update (some (strippedPod [])) (some (strippedPod [gateName, gateName])),
    reviewOf "bob" .update none (some (strippedPod [gateName, gateName])),
    reviewOf "bob" .update (some mistypedPod) (some (strippedPod [gateName, gateName])),
    reviewOf (controllerUser controlNamespace) .update (some (strippedPod []))
      (some (strippedPod [gateName, gateName]))]

theorem strippingReviews_guard_gate :
    let reads := Pod.decodeIf Pod.spellsRestartPolicy
    Pod.IsReader reads ∧
    (∃ pod, (reviewOf "alice" .create (some plainPod) none).Admits reads {} pod waitingPod ∧
      pod.isIsolated = true ∧ pod.spec.isSome = true) ∧
    IsHistory reads {} waitingPod strippingReviews ∧
    GuardsGate reads {} waitingPod strippingReviews ∧
    (∀ old, (reviewOf "bob" .update (some mistypedPod) old).Denies reads {} 400) ∧
    ¬ Gated reads (afterReviews reads {} waitingPod strippingReviews) := by
  intro reads
  have reader : Pod.IsReader reads := Pod.isReader_decodeIf fun _ _ => Pod.spellsRestartPolicy_congr
  obtain ⟨pod, admitted, isolated, specified⟩ :
      ∃ pod, (reviewOf "alice" .create (some plainPod) none).Admits reads {} pod waitingPod ∧
        pod.isIsolated = true ∧ pod.spec.isSome = true :=
    ⟨_, ⟨_, plainPod, _, rfl, rfl, rfl, rfl, ⟨plainPod, rfl⟩, rfl, rfl, rfl⟩, by decide, rfl⟩
  have history : IsHistory reads {} waitingPod strippingReviews :=
    ((((isHistory_nil.concat rfl ⟨rfl, rfl, rfl⟩).concat rfl ⟨rfl, rfl, rfl⟩).concat rfl
      ⟨rfl, rfl, rfl⟩).concat rfl ⟨rfl, rfl, rfl⟩).concat rfl ⟨rfl, rfl, rfl⟩
  have guards : GuardsGate reads {} waitingPod strippingReviews :=
    reviews_guard_gate reader {} admitted isolated specified history
  refine ⟨reader, ⟨pod, admitted, isolated, specified⟩, history, guards, ?_, ?_⟩
  · intro old
    exact guards.malformed _ _ rfl rfl rfl (.inl rfl)
  · have dropped : (reads (afterReviews reads {} waitingPod strippingReviews)).map Pod.isGated =
        some false := rfl
    rintro ⟨last, read, gated⟩
    rw [read, Option.map_some, gated] at dropped
    contradiction

end NodeGate.Admission
