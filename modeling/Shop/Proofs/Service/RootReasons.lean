import Shop.Proofs.Service.Reasons
import Shop.Proofs.Service.Restriction

/-!
# Why the creation of a root fails

The plan of a new root is followed call by call, each in the session to which the calls before it
have led.  What is written belongs to rows that were written just before, and the numbers of these
are new: a new root has no options yet and a new option no values, so nothing can clash but the
prefix of the root and the SKUs of its products, which are compared with those of all roots and
products.
-/

namespace Shop
namespace Service

open Shop.Action

variable {c : Context} {s : Session} {reasons : Failure → Prop}

/-! ## Plans -/

/-- A sequence of plans is run as a sequence of actions. -/
theorem run_bind (plan : Plan α) (next : α → Plan β) :
    (plan >>= next).run answer = plan.run answer >>= fun x => (next x).run answer := by
  change (plan.bind next).run answer = _
  induction plan with
  | done a => exact (pure_bind a fun x => (next x).run answer).symm
  | refused refusal => rfl
  | call call rest inductionHypothesis =>
    simp only [Plan.bind, Plan.run, bind_assoc, inductionHypothesis]

theorem run_perform (call : Call) : (Plan.perform call).run answer = answer call :=
  bind_pure (answer call)

theorem perform_fails {call : Call} (fails : Fails c s (answer call) reasons) :
    Fails c s ((Plan.perform call).run answer) reasons := by
  rw [run_perform]
  exact fails

/-- A plan leads from a sound session to a sound one, and writes what it says. -/
theorem plan_ok {plan : Plan α} {p q : Progress} {x : α} (sound : p.session.Sound)
    (done : Action.perform (plan.run answer) c p = (.ok x, q)) :
    q.session.Sound ∧ plan.Writes Listing.stored p.session.tables q.session.tables x := by
  refine ⟨((plan_within plan).reach_ok done).sound sound, ?_⟩
  rw [perform_plan] at done
  exact ((storeWriter c).run_ok sound.numbered done).1

/-- A sequence of plans fails as its first part does, or as its second part does behind what the
first one has written. -/
theorem plan_bind (sound : s.Sound) {plan : Plan α} {next : α → Plan β}
    (first : Fails c s (plan.run answer) reasons)
    (rest : ∀ x s', s'.Sound → plan.Writes Listing.stored s.tables s'.tables x →
      Fails c s' ((next x).run answer) reasons) :
    Fails c s ((plan >>= next).run answer) reasons := by
  rw [run_bind]
  refine first.bind fun p x q start ran => ?_
  subst start
  rcases plan_ok sound ran with ⟨ended, written⟩
  exact rest x q.session ended written

/-! ## Values and options -/

/-- Values are written for an option that is there and has none of them yet. -/
theorem addValues_fails (disturbed : c.Disturbs reasons) {optionId : Int} {values : List String}
    (stop : Parameter.Stop (Parameter.texts values) reasons) (distinct : values.Nodup)
    (sound : s.Sound) (owner : s.tables.has .option optionId = true)
    (free : ∀ value ∈ s.tables.live .value, value.optionId = optionId → value.value ∉ values) :
    Fails c s (addValues optionId values) reasons := by
  induction values generalizing s with
  | nil => exact .pure _
  | cons value values inductionHypothesis =>
    rcases List.nodup_cons.mp distinct with ⟨fresh, distinct⟩
    refine .bind (.insert (k := .value) sound disturbed (stop.subset ?_) (fun _ _ => rfl)
      (fun _ _ => rfl) (fun _ _ => rfl) (fun _ _ => owner) ?_) fun p row q start inserted => ?_
    · exact List.cons_subset_cons _ (List.nil_subset _)
    · intro _ other member same
      rcases Bool.and_eq_true_iff.mp same with ⟨ofOption, sameText⟩
      refine absurd ?_ (free other member (beq_iff_eq.mp ofOption).symm)
      exact (beq_iff_eq.mp sameText) ▸ List.mem_cons_self
    · subst start
      have steps : Session.Reach (· ∈ [Effect.insert .value]) p.session q.session :=
        (Within.statement (.passing (.insert List.mem_cons_self (fun _ _ => rfl) fun _ _ => rfl)
          _)).reach_ok inserted
      rcases perform_insert_ok (k := .value) inserted with ⟨⟨id, rfl⟩, tables⟩
      refine .bind (inductionHypothesis (stop.subset (List.subset_cons_self _ _)) distinct
        (steps.sound sound) ?_ ?_) fun _ _ _ _ _ => .pure _
      · rw [tables]
        exact Tables.has_gained owner
      · intro other member ofOption
        rw [tables, Tables.live_append] at member
        rcases List.mem_append.mp member with old | added
        · exact fun inside => free other old ofOption (List.mem_cons_of_mem _ inside)
        · rw [Tables.mem_live, Tables.rows_only] at added
          rw [List.mem_singleton.mp added.1]
          exact fresh

/-- The values of a new option are written as they are for an option that is added. -/
theorem run_createValues (optionId : Int) (values : List String) :
    (Creation.createValues optionId values).run answer = addValues optionId values := by
  induction values with
  | nil => rfl
  | cons value values inductionHypothesis =>
    simp only [Creation.createValues, addValues, run_bind, run_perform, inductionHypothesis]
    rfl

/-- The number of a new option is new, so no value belongs to it. -/
theorem unvalued_of_gains (sound : s.Sound) {option : ProductOption} {t' : Tables}
    (gains : s.tables.Gains (.only .option [option]) t') :
    ∀ value ∈ t'.live .value, value.optionId ≠ option.id := by
  intro value member ofOption
  rw [gains.eq_append, Tables.live_append] at member
  have inside := (Tables.mem_live.mp ((List.append_nil _) ▸ member)).1
  have anchored : s.tables.has .option value.optionId = true :=
    sound.conforms.anchored .value value inside
  rw [ofOption] at anchored
  exact gains.not_has_new (k := .option) List.mem_cons_self anchored

/-- Options are written for a root that is there and has none of their names. -/
theorem createOptions_fails (disturbed : c.Disturbs reasons) {rootId : Int}
    {inputs : List OptionInput}
    (stop : ∀ input ∈ inputs, Parameter.Stop (Parameter.texts (input.name :: input.values)) reasons)
    (distinct : (inputs.map (·.name)).Nodup) (valued : ∀ input ∈ inputs, input.values.Nodup)
    (sound : s.Sound) (owner : s.tables.has .root rootId = true)
    (free : ∀ option ∈ s.tables.live .option, option.rootId = rootId →
      option.name ∉ inputs.map (·.name)) :
    Fails c s ((Creation.createOptions rootId inputs).run answer) reasons := by
  induction inputs generalizing s with
  | nil => exact .pure _
  | cons input inputs inductionHypothesis =>
    rcases List.nodup_cons.mp distinct with ⟨fresh, distinct⟩
    rcases List.forall_mem_cons.mp stop with ⟨stopFirst, stop⟩
    rcases List.forall_mem_cons.mp valued with ⟨valuedFirst, valued⟩
    unfold Creation.createOptions
    refine plan_bind sound ?_ fun option s₁ sound₁ written => ?_
    · refine perform_fails (.insert (k := .option) sound disturbed (stopFirst.subset ?_)
        (fun _ _ => rfl) (fun _ _ => rfl) (fun _ _ => rfl) (fun _ _ => owner) ?_)
      · exact List.cons_subset_cons _ (List.nil_subset _)
      · intro _ other member same
        rcases Bool.and_eq_true_iff.mp same with ⟨ofRoot, sameName⟩
        refine absurd ?_ (free other member (beq_iff_eq.mp ofRoot).symm)
        exact (beq_iff_eq.mp sameName) ▸ List.mem_cons_self
    rcases Plan.writes_perform.mp written with ⟨⟨now, made⟩, gainsOption⟩
    have own : option ∈ (Tables.only .option [option]).rows .option := List.mem_cons_self
    have unvalued : ∀ value ∈ s₁.tables.live .value, value.optionId = option.id →
        value.value ∉ input.values :=
      fun value member ofOption => absurd ofOption (unvalued_of_gains sound gainsOption value member)
    refine plan_bind sound₁ ?_ fun values s₂ sound₂ writtenValues => ?_
    · rw [run_createValues]
      exact addValues_fails disturbed (stopFirst.subset (List.subset_cons_self _ _)) valuedFirst
        sound₁ (gainsOption.has_new own) unvalued
    rcases Creation.createValues_writes writtenValues with ⟨gainsValues, _, _⟩
    refine plan_bind sound₂ ?_ fun views _ _ _ => .pure _
    refine inductionHypothesis stop distinct valued sound₂
      (gainsValues.has_of_has (gainsOption.has_of_has owner)) ?_
    intro other member ofRoot
    rw [gainsValues.eq_append, gainsOption.eq_append, Tables.live_append, Tables.live_append] at member
    rcases List.mem_append.mp ((List.append_nil _) ▸ member) with old | added
    · exact fun inside => free other old ofRoot (List.mem_cons_of_mem _ inside)
    · have same : other = option := List.mem_singleton.mp (Tables.mem_live.mp added).1
      have name : other.name = input.name := by
        rw [same, made]
        rfl
      rw [name]
      exact fresh

/-! ## Products and links -/

/-- Links are written for a product and values that are there. -/
theorem linkValues_fails (disturbed : c.Disturbs reasons) {productId : Int} {valueIds : List Int}
    (owner : s.tables.has .product productId = true)
    (values : ∀ valueId ∈ valueIds, s.tables.has .value valueId = true) :
    Fails c s (answer (.linkValues productId valueIds)) reasons := by
  change Fails c s (if valueIds.isEmpty then return ()
    else statement (Store.linkValues productId valueIds)) reasons
  split
  · exact .pure _
  · refine .statement disturbed fun fault drawn failed => ?_
    have stopped := Statement.insertAll_error_iff.mp (congrArg Prod.fst (Statement.map_error failed))
    have made : ∀ link ∈ Statement.numbered (s.sequences.last .link) (valueIds.map fun valueId id =>
        ({ id, productId, valueId, createdOn := c.now, archivedOn := none } : VariantLink)),
        s.tables.anchored .link link = true := by
      intro link member
      rcases Statement.mem_numbered member with ⟨make, inMakes, id, rfl⟩
      rcases List.mem_map.mp inMakes with ⟨valueId, inside, rfl⟩
      exact Bool.and_eq_true_iff.mpr ⟨owner, values valueId inside⟩
    have apart (link other : VariantLink) : Kind.clash .link link other = false := Bool.and_false _
    rw [Tables.fault?_eq_none_iff.mpr
      ⟨fun _ _ => rfl, fun link _ other _ => apart link other, made⟩] at stopped
    cases stopped

/-- What is written of a product before it is known which number it gets. -/
structure Writable (reasons : Failure → Prop) (t : Tables) (product : NewProduct) : Prop where
  packed : 1 ≤ product.listing.quantityPerPackage
  owner : t.has .root product.rootId = true
  stop : Parameter.Stop (product.listing.parameters ++
    Parameter.texts [product.sku, product.optionSummary, product.offer.upc]) reasons

theorem Writable.gains {t new t' : Tables} {product : NewProduct}
    (writable : Writable reasons t product) (gains : t.Gains new t') :
    Writable reasons t' product :=
  { writable with owner := gains.has_of_has writable.owner }

/-- Products are written one after the other, so that each is compared with the ones before it. -/
theorem persistVariants_fails (disturbed : c.Disturbs reasons)
    {made : List (NewProduct × List OptionValue)} (sound : s.Sound)
    (writable : ∀ variant ∈ made, Writable reasons s.tables variant.1)
    (values : ∀ variant ∈ made, ∀ value ∈ variant.2, s.tables.has .value value.id = true)
    (colliding : ¬ ((made.map (·.1.sku)).Nodup ∧
      ∀ product ∈ s.tables.live .product, product.sku ∉ made.map (·.1.sku)) →
        reasons (.store (.duplicateKey (Kind.index .product)))) :
    Fails c s ((Creation.persistVariants made).run answer) reasons := by
  induction made generalizing s with
  | nil => exact .pure _
  | cons variant made inductionHypothesis =>
    rcases variant with ⟨product, chosen⟩
    rcases List.forall_mem_cons.mp writable with ⟨first, writable⟩
    rcases List.forall_mem_cons.mp values with ⟨firstValues, values⟩
    unfold Creation.persistVariants
    refine plan_bind sound ?_ fun row s₁ sound₁ written => ?_
    · refine perform_fails (.insert (k := .product) sound disturbed first.stop (fun _ _ => rfl)
        (fun _ _ => rfl) (fun _ _ => decide_eq_true first.packed) (fun _ _ => ?_) ?_)
      · exact Bool.and_eq_true_iff.mpr ⟨first.owner, rfl⟩
      · intro _ other member same
        refine colliding fun apart => apart.2 other member ?_
        have sameSku : product.sku = other.sku := beq_iff_eq.mp same
        rw [← sameSku]
        exact List.mem_cons_self
    rcases Plan.writes_perform.mp written with ⟨⟨now, rowMade⟩, gainsProduct⟩
    have own : row ∈ (Tables.only .product [row]).rows .product := List.mem_cons_self
    refine plan_bind sound₁ ?_ fun _ s₂ sound₂ writtenLinks => ?_
    · refine perform_fails (linkValues_fails disturbed (gainsProduct.has_new own)
        fun valueId member => ?_)
      rcases List.mem_map.mp member with ⟨value, inside, rfl⟩
      exact gainsProduct.has_of_has (firstValues value inside)
    rcases Plan.writes_perform.mp writtenLinks with ⟨links, _, _, gainsLinks⟩
    have gains := gainsProduct.trans gainsLinks
    refine plan_bind sound₂ ?_ fun views _ _ _ => .pure _
    refine inductionHypothesis sound₂ (fun other member => (writable other member).gains gains)
      (fun other member value inside => gains.has_of_has (values other member value inside))
      fun collides => colliding fun apart => collides ?_
    rcases List.nodup_cons.mp apart.1 with ⟨fresh, distinct⟩
    refine ⟨distinct, fun other member => ?_⟩
    rw [gainsLinks.eq_append, gainsProduct.eq_append, Tables.live_append, Tables.live_append] at member
    rcases List.mem_append.mp ((List.append_nil _) ▸ member) with old | added
    · exact fun inside => apart.2 other old (List.mem_cons_of_mem _ inside)
    · have same : other = row := List.mem_singleton.mp (Tables.mem_live.mp added).1
      have sku : other.sku = product.sku := by
        rw [same, rowMade]
        rfl
      rw [sku]
      exact fresh

/-! ## Pictures -/

/-- Pictures are kept and written for a root that is there. -/
theorem createImages_fails (disturbed : c.Disturbs reasons) {root : ProductRoot}
    {images : List ResolvedImage}
    (pictured : images ≠ [] → ∀ failure : Failure, failure.OfPictures → reasons failure)
    (sound : s.Sound) (owner : s.tables.has .root root.id = true) (position : Nat) :
    Fails c s ((Creation.createImages root position images).run answer) reasons := by
  induction images generalizing s position with
  | nil => exact .pure _
  | cons image images inductionHypothesis =>
    have ofPictures := pictured (List.cons_ne_nil _ _)
    unfold Creation.createImages
    refine plan_bind sound ?_ fun row s₁ sound₁ written => ?_
    · unfold Creation.createImage
      refine plan_bind sound ?_ fun locations s₁ sound₁ kept => ?_
      · refine perform_fails fun p failure q _ failed => ?_
        rcases perform_keepPicture_error failed with ⟨fault, rfl⟩
        exact ofPictures _ trivial
      · have same : s₁.tables = s.tables := Plan.writes_perform.mp kept
        refine perform_fails (.insert (k := .image) sound₁ disturbed ?_ (fun _ _ => rfl)
          (fun _ _ => rfl) (fun _ _ => rfl) (fun _ _ => ?_) fun _ _ _ clash => by cases clash)
        · intro parameter member fault stopped
          refine ofPictures _ ?_
          rcases List.mem_map.mp member with ⟨text, _, rfl⟩
          exact Parameter.badText_of_fault? stopped
        · change s₁.tables.has .root root.id = true
          rw [same]
          exact owner
    · rcases Creation.createImage_writes written with ⟨gains, _⟩
      refine plan_bind sound₁ ?_ fun rows _ _ _ => .pure _
      exact inductionHypothesis (fun _ => ofPictures) sound₁ (gains.has_of_has owner) (position + 1)

/-- The primary picture is one of those that were written. -/
theorem mem_of_primaryImage {images : List ResolvedImage} {rows : List ProductImage}
    {imageId : Int} (primary : Creation.primaryImage images rows = some imageId) :
    ∃ row ∈ rows, row.id = imageId := by
  unfold Creation.primaryImage at primary
  simp only [Option.orElse_eq_orElse, Option.orElse_eq_or, Option.or_eq_some_iff,
    Option.map_eq_some_iff, Option.map_eq_none_iff] at primary
  rcases primary with ⟨⟨image, row⟩, found, rfl⟩ | ⟨_, row, found, rfl⟩
  · exact ⟨row, (List.of_mem_zip (List.mem_of_find?_eq_some found)).2, rfl⟩
  · exact ⟨row, List.mem_of_head? found, rfl⟩

/-- A change of the primary picture touches nothing that the store compares. -/
theorem setImage_fails (disturbed : c.Disturbs reasons) {k : Kind} {id : Int}
    (sound : s.Sound) {change : k.Row → k.Row} (number : ∀ row, k.number (change row) = k.number row)
    (kept : ∀ row, k.sound (change row) = k.sound row)
    (clash : ∀ row other, k.clash (change row) other = k.clash row other)
    (anchored : ∀ row ∈ s.tables.rows k, s.tables.anchored k (change row) = true) :
    Fails c s (statement ((Statement.update k (fun _ row => k.number row == id) fun _ => change).map
      fun _ => ())) reasons := by
  refine .statement disturbed fun fault drawn failed => ?_
  rcases Statement.update_fault sound.numbered (fun _ row => k.number row == id)
      (fun row picked => beq_iff_eq.mp picked) number
      (fun row member _ => (kept row).trans (sound.conforms.sound k row member))
      (fun row member _ => anchored row member) (Statement.map_error failed) with
    ⟨_, row, member, _, other, inside, clashes⟩
  rw [clash, sound.unclashed k row member other inside] at clashes
  cases clashes

/-- The primary picture is set to a picture that is there. -/
theorem setPrimaryImage_fails (disturbed : c.Disturbs reasons) {view : RootView}
    {imageId : Option Int} (sound : s.Sound)
    (present : ∀ n, imageId = some n → s.tables.has .image n = true) :
    Fails c s ((Creation.setPrimaryImage view imageId).run answer) reasons := by
  cases imageId with
  | none => exact .pure _
  | some n =>
    have image := present n rfl
    refine plan_bind sound (perform_fails ?_) fun _ s₁ sound₁ written => ?_
    · exact setImage_fails (k := .root) disturbed sound (fun _ => rfl) (fun _ => rfl) (fun _ _ => rfl)
        fun _ _ => image
    · have tables := Plan.writes_perform.mp written
      have later : s₁.tables.has .image n = true := by
        rw [tables]
        exact image
      split
      · exact .pure _
      · refine plan_bind sound₁ (perform_fails ?_) fun _ _ _ _ => .pure _
        refine setImage_fails (k := .product) disturbed sound₁ (fun _ => rfl) (fun _ => rfl)
          (fun _ _ => rfl) fun row member => ?_
        have anchored : (s₁.tables.has .root row.rootId && _) = true :=
          sound₁.conforms.anchored .product row member
        exact Bool.and_eq_true_iff.mpr ⟨(Bool.and_eq_true_iff.mp anchored).1, later⟩

/-! ## The variants of a request -/

/-- The texts of options that were made for a request are texts of the request. -/
theorem texts_of_madeFrom {rootId : Int} {inputs : List OptionInput} {views : List OptionView}
    (made : List.Forall₂ (OptionView.MadeFrom rootId) inputs views) :
    ∀ view ∈ views, view.option.name ∈ inputs.flatMap (fun input => input.name :: input.values) ∧
      ∀ value ∈ view.values,
        value.value ∈ inputs.flatMap fun input => input.name :: input.values := by
  induction made with
  | nil => exact List.forall_mem_nil _
  | @cons input view inputs views first _ inductionHypothesis =>
    rw [List.flatMap_cons]
    refine List.forall_mem_cons.mpr ⟨⟨?_, fun value member => ?_⟩, fun other member => ?_⟩
    · rw [first.name]
      exact List.mem_append_left _ List.mem_cons_self
    · refine List.mem_append_left _ (List.mem_cons_of_mem _ ?_)
      rw [← first.values]
      exact List.mem_map_of_mem member
    · rcases inductionHypothesis other member with ⟨name, values⟩
      exact ⟨List.mem_append_right _ name,
        fun value inside => List.mem_append_right _ (values value inside)⟩

/-- A chosen value is one of the values of its option. -/
theorem mem_of_mem_choices {axes : List (List α)} {choice : List α}
    (chosen : choice ∈ Variant.choices axes) : ∀ a ∈ choice, ∃ axis ∈ axes, a ∈ axis := by
  have picks := Variant.mem_choices_iff.mp chosen
  clear chosen
  induction picks with
  | nil => exact List.forall_mem_nil _
  | cons member _ inductionHypothesis =>
    refine List.forall_mem_cons.mpr ⟨⟨_, List.mem_cons_self, member⟩, fun a inside => ?_⟩
    rcases inductionHypothesis a inside with ⟨axis, axisInside, inAxis⟩
    exact ⟨axis, List.mem_cons_of_mem _ axisInside, inAxis⟩

section Variants

variable {request : RootRequest} {rootId : Int} {availableOn : Instant} {options : List OptionView}
  {made : List (NewProduct × List OptionValue)}

/-- Options within the limit have variants. -/
theorem variants_of_limit (template : NewProduct)
    (optionsMade : List.Forall₂ (OptionView.MadeFrom rootId) request.options options) {n : Nat}
    (limited : Variant.ensureLimit request.optionSizes = .ok n) :
    ∃ made, Creation.variants template options = .ok made := by
  have sizes : options.map (fun view => view.values.length) = request.optionSizes := by
    rw [RootRequest.optionSizes, ← Creation.sizes_of_madeFrom optionsMade, List.map_map]
    rfl
  rcases Creation.variants_of_sizes template (sizes ▸ limited) with ⟨made, planned, _⟩
  exact ⟨made, planned⟩

/-- The variants have the SKUs for which the request stands. -/
theorem skus_of_variants
    (optionsMade : List.Forall₂ (OptionView.MadeFrom rootId) request.options options)
    (planned : Creation.variants (request.template rootId availableOn) options = .ok made) :
    made.map (·.1.sku) = request.skus := by
  have lowered : request.fragments =
      (options.map (·.values)).map (List.map fun value => Text.lowercase value.value) :=
    OptionView.fragments_of_madeFrom optionsMade
  rw [Creation.variants_ok planned, List.map_map, RootRequest.skus, lowered, Variant.choices_map,
    List.map_map]
  rfl

/-- What a variant derives from the texts of the request can be passed if they can. -/
theorem variant_passable
    (optionsMade : List.Forall₂ (OptionView.MadeFrom rootId) request.options options)
    (planned : Creation.variants (request.template rootId availableOn) options = .ok made)
    {product : NewProduct} {chosen : List OptionValue} (member : (product, chosen) ∈ made)
    (passable : ∀ text ∈ request.texts, Passable text) :
    Passable product.sku ∧ Passable product.optionSummary := by
  have texts := texts_of_madeFrom optionsMade
  have ofOptions {text : String}
      (inside : text ∈ request.options.flatMap fun option => option.name :: option.values) :
      Passable text := passable text (List.mem_append_right _ inside)
  rw [Creation.variants_ok planned] at member
  rcases List.mem_map.mp member with ⟨choice, inChoices, same⟩
  rcases Prod.mk.inj same with ⟨rfl, rfl⟩
  have value : ∀ value ∈ choice, Passable value.value := by
    intro value inside
    rcases mem_of_mem_choices inChoices value inside with ⟨axis, axisInside, inAxis⟩
    rcases List.mem_map.mp axisInside with ⟨view, shown, rfl⟩
    exact ofOptions ((texts view shown).2 value inAxis)
  constructor
  · refine passable_intercalate (passable_iff.mpr (by decide)) (List.forall_mem_cons.mpr ⟨?_, ?_⟩)
    · exact passable request.sku (List.mem_append_left _ List.mem_cons_self)
    · intro fragment inside
      rcases List.mem_map.mp inside with ⟨chosen, inChoice, rfl⟩
      exact Text.passable_lowercase (value chosen inChoice)
  · refine passable_intercalate (passable_iff.mpr (by decide)) fun part inside => ?_
    rcases List.mem_iff_getElem.mp inside with ⟨i, bound, rfl⟩
    rw [List.getElem_zipWith]
    refine passable_append_iff.mpr ⟨passable_append_iff.mpr ⟨?_, passable_iff.mpr (by decide)⟩,
      value _ (List.getElem_mem _)⟩
    rw [List.getElem_map]
    exact ofOptions (texts _ (List.getElem_mem _)).1

/-- The values of a variant are values of the options. -/
theorem values_of_variants {template : NewProduct}
    (planned : Creation.variants template options = .ok made) :
    ∀ variant ∈ made, ∀ value ∈ variant.2, ∃ view ∈ options, value ∈ view.values := by
  intro variant member value inside
  rw [Creation.variants_ok planned] at member
  rcases List.mem_map.mp member with ⟨choice, inChoices, rfl⟩
  rcases mem_of_mem_choices inChoices value inside with ⟨axis, axisInside, inAxis⟩
  rcases List.mem_map.mp axisInside with ⟨view, shown, rfl⟩
  exact ⟨view, shown, inAxis⟩

/-- The variants of a root that is there can be written, if the texts and times of the request can be
passed. -/
theorem variants_writable {t : Tables} {clock : Instant}
    (stop : Parameter.Stop (request.parameters clock) reasons)
    (owner : t.has .root rootId = true)
    (optionsMade : List.Forall₂ (OptionView.MadeFrom rootId) request.options options)
    (planned : Creation.variants
      (request.template rootId (request.availableOn.getD clock)) options = .ok made) :
    ∀ variant ∈ made, Writable reasons t variant.1 := by
  rintro ⟨product, chosen⟩ member
  have packed : 1 ≤ request.packageUnits := Int.le_max_right _ _
  have stopListing : Parameter.Stop
      (request.listing (request.availableOn.getD clock)).parameters reasons :=
    stop.root.subset (List.subset_cons_self _ _)
  have derived (whole : String) (passes : (∀ text ∈ request.texts, Passable text) →
      Passable whole) : Parameter.Stop (Parameter.texts [whole]) reasons :=
    (stop.subset (List.subset_cons_self _ _) : Parameter.Stop (Parameter.texts request.texts)
      reasons).made passes
  have passable := variant_passable optionsMade planned member
  rw [Creation.variants_ok planned] at member
  rcases List.mem_map.mp member with ⟨choice, _, same⟩
  rcases Prod.mk.inj same with ⟨rfl, rfl⟩
  refine ⟨packed, owner, stopListing.append (.cons ?_ (.cons ?_ ?_))⟩
  · exact derived _ fun passes => (passable passes).1
  · exact derived _ fun passes => (passable passes).2
  · refine derived request.offer.upc fun passes => passes _ (List.mem_append_left _ ?_)
    simp

end Variants

/-! ## The root as a whole -/

/-- The values of an accepted option differ. -/
theorem values_nodup {request : RootRequest} (accepted : request.problems.isEmpty = true) :
    ∀ option ∈ request.options, option.values.Nodup :=
  fun _ member =>
    (OptionInput.accepted_values (request.accepted_option accepted member)).2.of_map

/-- What the plan of a new root can fail for once its checks are passed: its texts and times, its
pictures, and the SKUs of its products. -/
theorem creation_fails (disturbed : c.Disturbs reasons) (request : RootRequest)
    {images : List ResolvedImage} {clock : Instant}
    (stop : Parameter.Stop (request.parameters clock) reasons)
    (named : (request.options.map (·.name)).Nodup)
    (valued : ∀ option ∈ request.options, option.values.Nodup) {n : Nat}
    (limited : Variant.ensureLimit request.optionSizes = .ok n)
    (free : ∀ root ∈ s.tables.live .root, root.skuPrefix ≠ request.sku)
    (colliding : ¬ request.Apart s.tables → reasons (.store (.duplicateKey (Kind.index .product))))
    (pictured : images ≠ [] → ∀ failure : Failure, failure.OfPictures → reasons failure)
    (sound : s.Sound) :
    Fails c s ((Creation.createRoot request images clock).run answer) reasons := by
  unfold Creation.createRoot
  refine plan_bind sound ?_ fun _ s₀ sound₀ ensured => ?_
  · rw [limited]
    exact .pure _
  have same : s₀.tables = s.tables := (Plan.writes_ensure.mp ensured).2
  refine plan_bind sound₀ (perform_fails ?_) fun root s₁ sound₁ writtenRoot => ?_
  · refine .insert (k := .root) sound₀ disturbed stop.root (fun _ _ => rfl) (fun _ _ => rfl)
      (fun _ _ => decide_eq_true (Int.le_max_right _ _)) (fun _ _ => rfl)
      fun _ other member same' => ?_
    rw [same] at member
    exact absurd (beq_iff_eq.mp same').symm (free other member)
  rcases Plan.writes_perform.mp writtenRoot with ⟨_, gainsRoot⟩
  rw [same] at gainsRoot
  have own : root ∈ (Tables.only .root [root]).rows .root := List.mem_cons_self
  refine plan_bind sound₁ ?_ fun rows s₂ sound₂ writtenImages => ?_
  · exact createImages_fails disturbed pictured sound₁ (gainsRoot.has_new own) 0
  rcases Creation.createImages_writes writtenImages with ⟨gainsImages, _⟩
  -- The number of the root is new, so no option belongs to it.
  have unnamed : ∀ option ∈ s₂.tables.live .option, option.rootId = root.id →
      option.name ∉ request.options.map (·.name) := by
    intro option member ofRoot
    rw [gainsImages.eq_append, gainsRoot.eq_append, Tables.live_append, Tables.live_append] at member
    have inside := (List.append_nil _) ▸ (List.append_nil _) ▸ member
    have anchored : s.tables.has .root option.rootId = true :=
      sound.conforms.anchored .option option (Tables.mem_live.mp inside).1
    rw [ofRoot] at anchored
    exact absurd anchored (gainsRoot.not_has_new own)
  have owner : s₂.tables.has .root root.id = true := gainsImages.has_of_has (gainsRoot.has_new own)
  refine plan_bind sound₂ ?_ fun options s₃ sound₃ writtenOptions => ?_
  · refine createOptions_fails disturbed
      (fun input member => stop.subset (List.Subset.trans ?_ (List.subset_cons_self _ _))) named valued
      sound₂ owner unnamed
    exact List.map_subset _ fun text inside => List.mem_append_right _
      (List.mem_flatMap.mpr ⟨input, member, inside⟩)
  rcases Creation.createOptions_writes writtenOptions with ⟨gainsOptions, optionsMade⟩
  rcases variants_of_limit (request.template root.id (request.availableOn.getD clock)) optionsMade
    limited with ⟨made, planned⟩
  refine plan_bind sound₃ ?_ fun variants s₄ sound₄ ensuredVariants => ?_
  · rw [planned]
    exact .pure _
  rcases Plan.writes_ensure.mp ensuredVariants with ⟨plannedAgain, unchanged⟩
  cases planned.symm.trans plannedAgain
  have products : s₄.tables.live .product = s.tables.live .product := by
    rw [unchanged, gainsOptions.eq_append, gainsImages.eq_append, gainsRoot.eq_append,
      Tables.live_append, Tables.live_append, Tables.live_append]
    exact (List.append_nil _).trans ((List.append_nil _).trans (List.append_nil _))
  have present {k : Kind} {n : Int} (found : s₂.tables.has k n = true) :
      s₄.tables.has k n = true := by
    rw [unchanged]
    exact gainsOptions.has_of_has found
  refine plan_bind sound₄ ?_ fun views s₅ sound₅ writtenProducts => ?_
  · refine persistVariants_fails disturbed sound₄
      (variants_writable stop (present owner) optionsMade planned) ?_ ?_
    · intro variant member value inside
      rcases values_of_variants planned variant member value inside with ⟨view, shown, inAxis⟩
      rw [unchanged]
      exact gainsOptions.has_new (k := .value) (List.mem_flatMap.mpr ⟨view, shown, inAxis⟩)
    · rw [skus_of_variants optionsMade planned, products]
      exact colliding
  rcases Creation.persistVariants_writes writtenProducts with ⟨links, gainsProducts, _⟩
  refine setPrimaryImage_fails disturbed sound₅ fun imageId primary => ?_
  rcases mem_of_primaryImage primary with ⟨row, inRows, rfl⟩
  exact gainsProducts.has_of_has (present (gainsImages.has_new (k := .image) inRows))

/-- Pictures are fetched and read without the store. -/
theorem resolveFrom_fails {inputs : List ImageInput}
    (pictured : inputs ≠ [] → ∀ failure : Failure, failure.OfPictures → reasons failure)
    (position : Nat) :
    Fails c s (ImageInput.resolveFrom downloader position inputs) reasons := by
  induction inputs generalizing s position with
  | nil => exact .pure _
  | cons input inputs inductionHypothesis =>
    have ofPictures := pictured (List.cons_ne_nil _ _)
    have orFail {α : Type} {s : Session} (result : Except PictureFault α) :
        Fails c s (ImageInput.orFail (m := Work) result) reasons := by
      cases result with
      | ok a => exact .pure _
      | error fault => exact .throw (ofPictures _ trivial)
    have fetched {s : Session} (address : String) :
        Fails c s (ImageInput.fetch downloader position address) reasons := by
      refine .bind (.of_sure (.lift _)) fun _ answered _ _ _ => ?_
      cases answered with
      | ok bytes => exact .pure _
      | error fault => exact .throw (ofPictures _ trivial)
    refine .bind ?_ fun _ image _ _ _ => .bind (inductionHypothesis (fun _ => ofPictures) _)
      fun _ _ _ _ _ => .pure _
    refine .bind (orFail _) fun _ kind _ _ _ => ?_
    cases kind with
    | base64 => exact .bind (orFail _) fun _ _ _ _ _ => .pure _
    | url =>
      exact .bind (fetched _) fun _ _ _ _ _ => .bind (orFail _) fun _ _ _ _ _ => .pure _

end Service
end Shop
