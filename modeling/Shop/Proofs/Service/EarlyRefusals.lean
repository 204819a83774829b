import Shop.Proofs.Catalog.Faults
import Shop.Proofs.Catalog.Pictures
import Shop.Proofs.Service.RootCreation

/-!
# Refusals that come before all calls

The creation of a root asks twice whether its options are within the limit: first about the values
in the request, when nothing has been called yet, and again about the values that were written, when
the root, its pictures and its options are already there.  The two questions are the same, because
an option is shown with one value for each that was asked for, whatever the replies.  So the second
one is never answered otherwise than the first, and a creation that is refused has called nobody.
-/

namespace Shop

namespace Plan

/-! ## Plans that are refused nowhere -/

/-- Whether a plan comes to no refusal, whatever the replies, and all its results are of a sort. -/
def Unrefused (results : α → Prop) : Plan α → Prop
  | .done a => results a
  | .refused _ => False
  | .call _ next => ∀ reply, (next reply).Unrefused results

variable {middle : α → Prop} {results : β → Prop}

theorem unrefused_bind {plan : Plan α} {next : α → Plan β} (first : plan.Unrefused middle)
    (rest : ∀ a, middle a → (next a).Unrefused results) : (plan >>= next).Unrefused results := by
  change (plan.bind next).Unrefused results
  induction plan with
  | done a => exact rest a first
  | refused refusal => exact first.elim
  | call c following inductionHypothesis =>
    intro reply
    exact inductionHypothesis reply (first reply)

/-- The results of a plan that is refused nowhere are of the sort. -/
theorem Unrefused.holds {plan : Plan β} (unrefused : plan.Unrefused results) {calls : List Call}
    {result : β} (makes : plan.Makes calls result) : results result := by
  induction plan generalizing calls with
  | done b =>
    rcases makes with ⟨rfl, _⟩
    exact unrefused
  | refused refusal => exact unrefused.elim
  | call c next inductionHypothesis =>
    rcases makes with ⟨reply, rest, _, makes⟩
    exact inductionHypothesis reply (unrefused reply) makes

theorem unrefused_perform (c : Call) : (perform c).Unrefused fun _ => True :=
  fun _ => trivial

theorem unrefused_ensure {decided : Except Refusal β} {b : β} (allowed : decided = .ok b) :
    (ensure decided).Unrefused fun _ => True := by
  rw [allowed]
  trivial

/-- Whether calls fail as they can: with a fault of pictures where a picture is kept, and with one
of the store otherwise. -/
def FailsAsCalled {σ : Type} (answer : Answerer (StateM σ)) : Prop :=
  ∀ c s failure s', (answer c).run s = (.error failure, s') →
    ∃ store picture, failure = c.failure store picture

theorem failure_ne_refused (c : Call) (store : StoreFault) (picture : PictureFault)
    (refusal : Refusal) : c.failure store picture ≠ .refused refusal := by
  cases c <;> exact Failure.noConfusion

/-- A plan that is refused nowhere may still fail, but its run does not end refused. -/
theorem traceAfter_ne_refused {σ : Type} {answer : Answerer (StateM σ)}
    (fails : FailsAsCalled answer) {plan : Plan β} (unrefused : plan.Unrefused results)
    (past : List Call) (s : σ) (refusal : Refusal) :
    (traceAfter answer .never past plan s).1 ≠ .error (.refused refusal) := by
  induction plan generalizing past s with
  | done b => exact fun same => by cases same
  | refused _ => exact unrefused.elim
  | call c next inductionHypothesis =>
    rw [traceAfter_call]
    simp only [CallFaults.never]
    rcases answered : (answer c).run s with ⟨failure | reply, s'⟩
    · rcases fails c s failure s' answered with ⟨store, picture, rfl⟩
      exact fun same => failure_ne_refused c store picture refusal (Except.error.inj same)
    · exact inductionHypothesis reply (unrefused reply) (past ++ [c]) s'

end Plan

namespace Creation

open Plan

/-! ## The second question -/

theorem createImages_unrefused (root : ProductRoot) (position : Nat) (images : List ResolvedImage) :
    (createImages root position images).Unrefused fun _ => True := by
  induction images generalizing position with
  | nil => trivial
  | cons image images inductionHypothesis =>
    have first : (createImage root position image).Unrefused fun _ => True :=
      unrefused_bind (unrefused_perform _) fun _ _ => unrefused_perform _
    exact unrefused_bind first fun _ _ =>
      unrefused_bind (inductionHypothesis (position + 1)) fun _ _ => trivial

/-- Whatever the replies, there is one for each value. -/
theorem createValues_unrefused (optionId : Int) (values : List String) :
    (createValues optionId values).Unrefused fun rows => rows.length = values.length := by
  induction values with
  | nil => rfl
  | cons value values inductionHypothesis =>
    refine unrefused_bind (unrefused_perform _) fun _ _ => ?_
    exact unrefused_bind inductionHypothesis fun _ counted => congrArg (· + 1) counted

/-- Whatever the replies, the options that are shown have as many values as those asked for. -/
theorem createOptions_unrefused (rootId : Int) (inputs : List OptionInput) :
    (createOptions rootId inputs).Unrefused fun views =>
      views.map (fun view => view.values.length) = inputs.map (·.values.length) := by
  induction inputs with
  | nil => rfl
  | cons input inputs inductionHypothesis =>
    refine unrefused_bind (unrefused_perform _) fun (option : ProductOption) _ => ?_
    refine unrefused_bind (createValues_unrefused option.id input.values) fun values counted => ?_
    refine unrefused_bind inductionHypothesis fun views sizes => ?_
    exact congrArg₂ List.cons counted sizes

theorem persistVariants_unrefused (variants : List (NewProduct × List OptionValue)) :
    (persistVariants variants).Unrefused fun _ => True := by
  induction variants with
  | nil => trivial
  | cons variant variants inductionHypothesis =>
    exact unrefused_bind (unrefused_perform _) fun _ _ =>
      unrefused_bind (unrefused_perform _) fun _ _ =>
        unrefused_bind inductionHypothesis fun _ _ => trivial

theorem setPrimaryImage_unrefused (view : RootView) (imageId : Option Int) :
    (setPrimaryImage view imageId).Unrefused fun _ => True := by
  cases imageId with
  | none => trivial
  | some imageId =>
    refine unrefused_bind (unrefused_perform _) fun _ _ => ?_
    cases view.products with
    | nil => trivial
    | cons first rest => exact unrefused_bind (unrefused_perform _) fun _ _ => trivial

/-- Behind its pictures, a root whose sizes were within the limit is refused nowhere. -/
theorem completed_unrefused {request : RootRequest} {n : Nat}
    (limited : Variant.ensureLimit request.optionSizes = .ok n) (images : List ResolvedImage)
    (availableOn : Instant) (root : ProductRoot) (rows : List ProductImage) :
    (completed request images availableOn root rows).Unrefused fun _ => True := by
  refine unrefused_bind (createOptions_unrefused root.id request.options) fun options sizes => ?_
  have same : options.map (fun view => view.values.length) = request.optionSizes := sizes
  rcases variants_of_sizes (request.template root.id availableOn) (same ▸ limited) with
    ⟨made, planned, _⟩
  refine unrefused_bind (unrefused_ensure planned) fun made _ => ?_
  exact unrefused_bind (persistVariants_unrefused made) fun products _ =>
    setPrimaryImage_unrefused ⟨root, options, rows, products⟩ (primaryImage images rows)

/-- The creation of a root asks about the limit, and is refused nowhere behind that. -/
theorem createRoot_unrefused {request : RootRequest} {n : Nat}
    (limited : Variant.ensureLimit request.optionSizes = .ok n) (images : List ResolvedImage)
    (now : Instant) : (createRoot request images now).Unrefused fun _ => True := by
  rw [createRoot_eq]
  refine unrefused_bind (unrefused_ensure limited) fun _ _ => ?_
  refine unrefused_bind (unrefused_perform _) fun (root : ProductRoot) _ => ?_
  exact unrefused_bind (createImages_unrefused root 0 images) fun rows _ =>
    completed_unrefused limited images _ root rows

/-- Whoever answers, and however it fails: a creation that ends refused has called nobody, and it
ends so exactly if the values in the request are beyond the limit.  Options that were written for a
request within the limit have as many variants as were counted at first, so they are never
refused. -/
theorem createRoot_refused {σ : Type} {answer : Answerer (StateM σ)} (fails : FailsAsCalled answer)
    (s : σ) (request : RootRequest) (images : List ResolvedImage) (now : Instant) :
    let ran := (createRoot request images now).trace answer .never s
    (∀ refusal, ran.1 = .error (.refused refusal) → ran.2 = []) ∧
    (∀ refusal, ran.1 = .error (.refused refusal) ↔
      Variant.ensureLimit request.optionSizes = .error refusal) ∧
    ∀ n, Variant.ensureLimit request.optionSizes = .ok n →
      ∀ rootId template calls options, (createOptions rootId request.options).Makes calls options →
        ∃ made, variants template options = .ok made ∧ made.length = n := by
  intro ran
  cases asked : Variant.ensureLimit request.optionSizes with
  | error refused =>
    have stopped : ran = (.error (.refused refused), []) := by
      unfold ran
      rw [createRoot_eq, asked]
      rfl
    rw [stopped]
    refine ⟨fun _ _ => rfl, fun refusal => ?_, fun _ limited => by cases limited⟩
    simp only [Except.error.injEq, Failure.refused.injEq]
  | ok n =>
    have accepted (refusal : Refusal) : ran.1 ≠ .error (.refused refusal) :=
      traceAfter_ne_refused fails (createRoot_unrefused asked images now) [] s refusal
    refine ⟨fun refusal ended => absurd ended (accepted refusal), fun refusal => ?_, ?_⟩
    · exact iff_of_false (accepted refusal) fun same => by cases same
    · rintro m ⟨⟩ rootId template calls options made
      have sizes := (createOptions_unrefused rootId request.options).holds made
      exact variants_of_sizes template (sizes ▸ asked)

end Creation

/-! ## The store -/

namespace Service

open Shop.Action

variable {c : Context} {p q : Progress} {failure : Failure}

/-- A statement fails with a fault of the store. -/
theorem fault_of_statement {s : Statement α}
    (failed : (statement s).perform c p = (.error failure, q)) :
    ∃ fault, failure = .store fault := by
  rw [perform_statement] at failed
  split at failed
  · exact ⟨_, (Except.error.inj (Prod.mk.inj failed).1).symm⟩
  · split at failed
    · exact ⟨_, (Except.error.inj (Prod.mk.inj failed).1).symm⟩
    · cases failed

/-- The store answers calls, and fails as they can, in every context. -/
theorem storeWriter_failsAsCalled (c : Context) : Plan.FailsAsCalled (storeWriter c).answer := by
  intro call p failure q failed
  change Action.perform (answer call) c p = (.error failure, q) at failed
  cases call with
  | keepImage sku position renditions =>
    rcases perform_keepPicture_error failed with ⟨fault, rfl⟩
    exact ⟨.noRow, fault, rfl⟩
  | linkValues productId valueIds =>
    -- No values are linked without asking the store.
    change (if valueIds.isEmpty then return ()
      else statement (Store.linkValues productId valueIds) : Action Unit).perform c p =
        (.error failure, q) at failed
    split at failed
    · cases failed
    · rcases fault_of_statement failed with ⟨fault, rfl⟩
      exact ⟨fault, .notBase64 0, rfl⟩
  | _ =>
    rcases fault_of_statement failed with ⟨fault, rfl⟩
    exact ⟨fault, .notBase64 0, rfl⟩

end Service

/-- Four options of ten values each are too many for the store, which is not called. -/
theorem Creation.createRoot_refused_digits :
    let answer := (Service.storeWriter (.calm ⟨0, 0⟩)).answer
    let digits := ["0", "1", "2", "3", "4", "5", "6", "7", "8", "9"]
    let request := RootRequest.ofOptions "Code" "code"
      [⟨"first", digits⟩, ⟨"second", digits⟩, ⟨"third", digits⟩, ⟨"fourth", digits⟩]
    let ran := (createRoot request [] ⟨0, 0⟩).trace answer .never (.start (.start 16))
    Plan.FailsAsCalled answer ∧
      ran.1 = .error (.refused (.invalid
        "options would produce 10000 products; at most 1000 are allowed")) ∧
      ran.2 = [] := by
  intro answer digits request ran
  have fails : Plan.FailsAsCalled answer := Service.storeWriter_failsAsCalled _
  rcases createRoot_refused fails (.start (.start 16)) request [] ⟨0, 0⟩ with
    ⟨uncalled, decided, _⟩
  have ended := (decided (.invalid
    "options would produce 10000 products; at most 1000 are allowed")).mpr (by decide +kernel)
  exact ⟨fails, ended, uncalled _ ended⟩

end Shop
