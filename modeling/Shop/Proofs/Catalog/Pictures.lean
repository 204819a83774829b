import Shop.Catalog.Creation

/-!
# The pictures of plans

A plan may stop at any of its calls, so what it can do to pictures is read off all the calls that it
could come to, whatever the replies.  All that is assumed of replies is that a root has the prefix
it was given.  The creation of a root keeps pictures for the prefix of its request alone, and once
it has kept those of a position it only comes to later ones.
-/

namespace Shop

/-- Whether a call keeps a picture only where it may, if it keeps one. -/
def Call.KeepsOnly (allowed : String → Nat → Prop) : Call → Prop
  | .keepImage sku position _ => allowed sku position
  | _ => True

theorem Call.KeepsOnly.mono {allowed more : String → Nat → Prop} {c : Call}
    (keeps : c.KeepsOnly allowed) (wider : ∀ sku n, allowed sku n → more sku n) :
    c.KeepsOnly more := by
  cases c with
  | keepImage sku n renditions => exact wider sku n keeps
  | _ => trivial

/-- Whether a reply gives a root the prefix that it was written with. -/
def Call.Honest : (c : Call) → c.Reply → Prop
  | .createRoot root, row => row.skuPrefix = root.skuPrefix
  | _, _ => True

namespace Plan

/-- Whether all calls that a plan can come to are of a sort, and so are all its results. -/
def All (calls : Call → Prop) (results : α → Prop) : Plan α → Prop
  | .done a => results a
  | .refused _ => True
  | .call c next => calls c ∧ ∀ reply, c.Honest reply → (next reply).All calls results

variable {calls : Call → Prop} {results : β → Prop}

theorem all_bind {middle : α → Prop} {plan : Plan α} {next : α → Plan β}
    (first : plan.All calls middle) (rest : ∀ a, middle a → (next a).All calls results) :
    (plan >>= next).All calls results := by
  change (plan.bind next).All calls results
  induction plan with
  | done a => exact rest a first
  | refused refusal => trivial
  | call c rest inductionHypothesis =>
    exact ⟨first.1, fun reply honest => inductionHypothesis reply (first.2 reply honest)⟩

theorem all_perform {c : Call} {replies : c.Reply → Prop} (may : calls c)
    (honest : ∀ reply, c.Honest reply → replies reply) : (perform c).All calls replies :=
  ⟨may, honest⟩

theorem all_ensure (decided : Except Refusal β) : (ensure decided).All calls fun _ => True := by
  cases decided with
  | ok b => trivial
  | error refusal => trivial

theorem All.mono {more : Call → Prop} {weaker : β → Prop} {plan : Plan β}
    (all : plan.All calls results) (wider : ∀ c, calls c → more c)
    (weakens : ∀ b, results b → weaker b) : plan.All more weaker := by
  induction plan with
  | done b => exact weakens b all
  | refused refusal => trivial
  | call c next inductionHypothesis =>
    exact ⟨wider c all.1, fun reply honest => inductionHypothesis reply (all.2 reply honest)⟩

end Plan

namespace Creation

variable {allowed : String → Nat → Prop}

/-- The images of a root are kept for its prefix, from a position on. -/
theorem createImages_all (root : ProductRoot) (position : Nat) (images : List ResolvedImage) :
    (createImages root position images).All
      (·.KeepsOnly fun sku n => sku = root.skuPrefix ∧ position ≤ n) fun _ => True := by
  induction images generalizing position with
  | nil => trivial
  | cons image images inductionHypothesis =>
    have first : (createImage root position image).All
        (·.KeepsOnly fun sku n => sku = root.skuPrefix ∧ position ≤ n) fun _ => True :=
      Plan.all_bind (Plan.all_perform ⟨rfl, Nat.le_refl _⟩ fun _ _ => trivial) fun locations _ =>
        Plan.all_perform trivial fun _ _ => trivial
    have later : (createImages root (position + 1) images).All
        (·.KeepsOnly fun sku n => sku = root.skuPrefix ∧ position ≤ n) fun _ => True :=
      (inductionHypothesis (position + 1)).mono
        (fun _ keeps => keeps.mono fun _ _ own => own.imp_right Nat.le_of_succ_le)
        fun _ holds => holds
    exact Plan.all_bind first fun row _ => Plan.all_bind later fun rows _ => trivial

theorem createValues_all (optionId : Int) (values : List String) :
    (createValues optionId values).All (·.KeepsOnly allowed) fun _ => True := by
  induction values with
  | nil => trivial
  | cons value values inductionHypothesis =>
    exact Plan.all_bind (Plan.all_perform trivial fun _ _ => trivial) fun row _ =>
      Plan.all_bind inductionHypothesis fun rows _ => trivial

theorem createOptions_all (rootId : Int) (inputs : List OptionInput) :
    (createOptions rootId inputs).All (·.KeepsOnly allowed) fun _ => True := by
  induction inputs with
  | nil => trivial
  | cons input inputs inductionHypothesis =>
    exact Plan.all_bind (Plan.all_perform trivial fun _ _ => trivial) fun option _ =>
      Plan.all_bind (createValues_all option.id input.values) fun values _ =>
        Plan.all_bind inductionHypothesis fun views _ => trivial

theorem persistVariants_all (variants : List (NewProduct × List OptionValue)) :
    (persistVariants variants).All (·.KeepsOnly allowed) fun _ => True := by
  induction variants with
  | nil => trivial
  | cons variant variants inductionHypothesis =>
    exact Plan.all_bind (Plan.all_perform trivial fun _ _ => trivial) fun row _ =>
      Plan.all_bind (Plan.all_perform trivial fun _ _ => trivial) fun _ _ =>
        Plan.all_bind inductionHypothesis fun views _ => trivial

theorem setPrimaryImage_all (view : RootView) (imageId : Option Int) :
    (setPrimaryImage view imageId).All (·.KeepsOnly allowed) fun shown =>
      shown.images = view.images := by
  cases imageId with
  | none => rfl
  | some imageId =>
    refine Plan.all_bind (Plan.all_perform trivial fun _ _ => trivial) fun _ _ => ?_
    cases products : view.products with
    | nil => rfl
    | cons first rest =>
      exact Plan.all_bind (Plan.all_perform trivial fun _ _ => trivial) fun _ _ => rfl

/-- What is written of a root behind its images. -/
def completed (request : RootRequest) (images : List ResolvedImage) (availableOn : Instant)
    (root : ProductRoot) (rows : List ProductImage) : Plan RootView := do
  let options ← createOptions root.id request.options
  let made ← Plan.ensure (variants (request.template root.id availableOn) options)
  let products ← persistVariants made
  setPrimaryImage ⟨root, options, rows, products⟩ (primaryImage images rows)

/-- Behind the images of a root no picture is kept, and the images stay as they are. -/
theorem completed_all (request : RootRequest) (images : List ResolvedImage) (availableOn : Instant)
    (root : ProductRoot) (rows : List ProductImage) :
    (completed request images availableOn root rows).All (·.KeepsOnly allowed) fun view =>
      view.images = rows :=
  Plan.all_bind (createOptions_all root.id request.options) fun options _ =>
    Plan.all_bind (Plan.all_ensure _) fun made _ =>
      Plan.all_bind (persistVariants_all made) fun products _ =>
        setPrimaryImage_all ⟨root, options, rows, products⟩ (primaryImage images rows)

theorem createRoot_eq (request : RootRequest) (images : List ResolvedImage) (now : Instant) :
    createRoot request images now = (do
      let _ ← Plan.ensure (Variant.ensureLimit request.optionSizes)
      let root ← Plan.perform (.createRoot (request.newRoot (request.availableOn.getD now)))
      let rows ← createImages root 0 images
      completed request images (request.availableOn.getD now) root rows) := rfl

/-- The creation of a root keeps pictures for the prefix of its request alone. -/
theorem createRoot_all (request : RootRequest) (images : List ResolvedImage) (now : Instant) :
    (createRoot request images now).All (·.KeepsOnly fun sku _ => sku = request.sku)
      fun _ => True := by
  rw [createRoot_eq]
  refine Plan.all_bind (Plan.all_ensure _) fun _ _ => ?_
  have written : (Plan.perform
      (.createRoot (request.newRoot (request.availableOn.getD now)))).All
        (·.KeepsOnly fun sku _ => sku = request.sku)
        fun row : ProductRoot => row.skuPrefix = request.sku :=
    Plan.all_perform trivial fun _ honest => honest
  refine Plan.all_bind written fun root own => ?_
  have kept := (createImages_all root 0 images).mono
    (fun c keeps => keeps.mono fun sku n same => same.1.trans own) fun _ holds => holds
  exact Plan.all_bind kept fun rows _ =>
    (completed_all request images _ root rows).mono (fun _ keeps => keeps) fun _ _ => trivial

end Creation
end Shop
