import Shop.Catalog.Creation
import Shop.Proofs.Catalog.Writing
import Shop.Proofs.Variant.Walk

/-!
# What a new root is composed of

The creation of a root writes one table after the other: images, options with their values, products
with their links.  Each part of the plan is followed here by itself, the rows it leaves behind and
the request they were made from, and the parts are put together at the end.  The numbers of the rows
come from the writer, so that a product is tied to values of the same call only because the values
written, the choices made of them and the products persisted stand in the same order.
-/

namespace Shop

/-! ## The rows of views -/

/-- The rows that options and their values are shown from. -/
def OptionView.tables (views : List OptionView) : Tables :=
  { Tables.empty with
    options := views.map (·.option)
    values := views.flatMap (·.values) }

def ProductView.tables (views : List ProductView) (links : List VariantLink) : Tables :=
  { Tables.empty with
    products := views.map (·.product)
    links }

def RootView.tables (view : RootView) (links : List VariantLink) : Tables :=
  { Tables.empty with
    roots := [view.root]
    images := view.images
    options := view.options.map (·.option)
    values := view.options.flatMap (·.values)
    products := view.products.map (·.product)
    links }

/-! ## What they were made from -/

/-- An option of a root that was made from what a request says about it. -/
structure OptionView.MadeFrom (rootId : Int) (input : OptionInput) (view : OptionView) : Prop where
  owner : view.option.rootId = rootId
  name : view.option.name = input.name
  values : view.values.map (·.value) = input.values
  owned : ∀ value ∈ view.values, value.optionId = view.option.id

/-- A product of a root that was made from a template and the values it shows. -/
structure ProductView.MadeFrom (root : ProductRoot) (template : NewProduct)
    (options : List OptionView) (view : ProductView) : Prop where
  owner : view.product.rootId = root.id
  sku : view.product.sku = String.intercalate "_"
    (root.skuPrefix :: view.applicableOptions.map fun value => Text.lowercase value.value)
  summary : view.product.optionSummary = String.intercalate ", "
    (List.zipWith (fun option value => option.option.name ++ ": " ++ value.value) options
      view.applicableOptions)
  listing : view.product.listing = root.listing
  offer : view.product.offer = template.offer

/-- A root that was composed from a request, with the links of its products: one product for each
choice of one value from each option, and each product linked to the values of its choice. -/
structure RootView.ComposedFrom (kept : Listing → Listing) (request : RootRequest) (now : Instant)
    (view : RootView) (links : List VariantLink) : Prop where
  skuPrefix : view.root.skuPrefix = request.sku
  listing : view.root.listing = kept (request.listing (request.availableOn.getD now))
  images : ∀ image ∈ view.images, image.rootId = view.root.id
  options : List.Forall₂ (OptionView.MadeFrom view.root.id) request.options view.options
  /-- The choices, by positions: all of them, with the last option moving fastest. -/
  choices : ∃ places : List (List Nat),
    (∀ place, place ∈ places ↔ List.Forall₂ (· < ·) place request.optionSizes) ∧
    places.Pairwise (· < ·) ∧
    view.products.map (·.applicableOptions.map some) =
      places.map (List.zipWith (fun option i => option.values[i]?) view.options)
  number : view.products.length = request.optionSizes.prod
  bounded : view.products.length ≤ Variant.maxVariants
  products : ∀ product ∈ view.products, product.MadeFrom view.root
    (request.template view.root.id (request.availableOn.getD now)) view.options
  linked : ∀ product ∈ view.products,
    (links.filter (·.productId == product.product.id)).map (·.valueId) =
      product.applicableOptions.map (·.id)
  linksOwned : ∀ link ∈ links, ∃ product ∈ view.products, link.productId = product.product.id

/-- Options that were made for a root belong to it, and their values to them. -/
theorem OptionView.owned_of_madeFrom {rootId : Int} {inputs : List OptionInput}
    {views : List OptionView} (made : List.Forall₂ (OptionView.MadeFrom rootId) inputs views) :
    ∀ view ∈ views, view.option.rootId = rootId ∧
      ∀ value ∈ view.values, value.optionId = view.option.id := by
  induction made with
  | nil => exact List.forall_mem_nil _
  | cons first _ inductionHypothesis =>
    exact List.forall_mem_cons.mpr ⟨⟨first.owner, first.owned⟩, inductionHypothesis⟩

namespace Creation

variable {kept : Listing → Listing} {t t' : Tables}

/-! ## Images -/

theorem createImage_writes {root : ProductRoot} {position : Nat} {image : ResolvedImage}
    {row : ProductImage} (written : (createImage root position image).Writes kept t t' row) :
    t.Gains (.only .image [row]) t' ∧ row.rootId = root.id := by
  rcases Plan.writes_bind.mp written with ⟨locations, _, kept, stored⟩
  rcases Plan.writes_perform.mp kept with rfl
  rcases Plan.writes_perform.mp stored with ⟨⟨now, made⟩, gains⟩
  refine ⟨gains, ?_⟩
  rw [made]
  rfl

theorem createImages_writes {root : ProductRoot} {position : Nat} {images : List ResolvedImage}
    {rows : List ProductImage}
    (written : (createImages root position images).Writes kept t t' rows) :
    t.Gains (.only .image rows) t' ∧ ∀ row ∈ rows, row.rootId = root.id := by
  induction images generalizing position t rows with
  | nil =>
    rcases written with ⟨rfl, rfl⟩
    exact ⟨.none t', List.forall_mem_nil _⟩
  | cons image images inductionHypothesis =>
    simp only [createImages, Plan.writes_bind, Plan.writes_pure] at written
    rcases written with ⟨row, _, writtenFirst, rest, _, writtenRest, rfl, rfl⟩
    rcases createImage_writes writtenFirst with ⟨first, owned⟩
    rcases inductionHypothesis writtenRest with ⟨gains, ownedRest⟩
    exact ⟨first.trans gains, List.forall_mem_cons.mpr ⟨owned, ownedRest⟩⟩

/-! ## Options and values -/

theorem createValues_writes {optionId : Int} {values : List String} {rows : List OptionValue}
    (written : (createValues optionId values).Writes kept t t' rows) :
    t.Gains (.only .value rows) t' ∧ rows.map (·.value) = values ∧
      ∀ row ∈ rows, row.optionId = optionId := by
  induction values generalizing t rows with
  | nil =>
    rcases written with ⟨rfl, rfl⟩
    exact ⟨.none t', rfl, List.forall_mem_nil _⟩
  | cons value values inductionHypothesis =>
    simp only [createValues, Plan.writes_bind, Plan.writes_perform, Plan.writes_pure] at written
    rcases written with
      ⟨(row : OptionValue), _, ⟨⟨now, made⟩, first⟩, rest, _, writtenRest, rfl, rfl⟩
    rcases inductionHypothesis writtenRest with ⟨gains, same, owned⟩
    refine ⟨first.trans gains, ?_, ?_⟩
    · rw [List.map_cons, same, made]
      rfl
    · refine List.forall_mem_cons.mpr ⟨?_, owned⟩
      rw [made]
      rfl

theorem createOptions_writes {rootId : Int} {inputs : List OptionInput} {views : List OptionView}
    (written : (createOptions rootId inputs).Writes kept t t' views) :
    t.Gains (OptionView.tables views) t' ∧
      List.Forall₂ (OptionView.MadeFrom rootId) inputs views := by
  induction inputs generalizing t views with
  | nil =>
    rcases written with ⟨rfl, rfl⟩
    exact ⟨.none t', .nil⟩
  | cons input inputs inductionHypothesis =>
    simp only [createOptions, Plan.writes_bind, Plan.writes_perform, Plan.writes_pure] at written
    rcases written with
      ⟨(option : ProductOption), _, ⟨⟨now, made⟩, first⟩, values, _, writtenValues, rest, _,
        writtenRest, rfl, rfl⟩
    rcases createValues_writes writtenValues with ⟨gainsValues, same, owned⟩
    rcases inductionHypothesis writtenRest with ⟨gains, madeRest⟩
    refine ⟨(first.trans gainsValues).trans gains, .cons ?_ madeRest⟩
    exact
      { owner := by rw [made]; rfl
        name := by rw [made]; rfl
        values := same
        owned }

/-! ## Products and links -/

/-- A product that was written from one of several variants and shows the values of it. -/
def PersistedFrom (kept : Listing → Listing) (variants : List (NewProduct × List OptionValue))
    (view : ProductView) : Prop :=
  ∃ product now, (product, view.applicableOptions) ∈ variants ∧ view.product =
    NewProduct.row { product with listing := kept product.listing } now view.product.id

/-- Products are written in the order of their variants, each with links of its own to the values it
was made from. -/
theorem persistVariants_writes {variants : List (NewProduct × List OptionValue)}
    {views : List ProductView}
    (written : (persistVariants variants).Writes kept t t' views) :
    ∃ links, t.Gains (ProductView.tables views links) t' ∧
      views.map (·.applicableOptions) = variants.map (·.2) ∧
      (∀ view ∈ views, PersistedFrom kept variants view) ∧
      (∀ view ∈ views, (links.filter (·.productId == view.product.id)).map (·.valueId) =
        view.applicableOptions.map (·.id)) ∧
      ∀ link ∈ links, ∃ view ∈ views, link.productId = view.product.id := by
  induction variants generalizing t views with
  | nil =>
    rcases written with ⟨rfl, rfl⟩
    exact ⟨[], .none t', rfl, List.forall_mem_nil _, List.forall_mem_nil _, List.forall_mem_nil _⟩
  | cons variant variants inductionHypothesis =>
    rcases Plan.writes_bind.mp written with ⟨(row : Product), _, stored, written⟩
    rcases Plan.writes_perform.mp stored with ⟨⟨now, made⟩, first⟩
    rcases Plan.writes_bind.mp written with ⟨_, _, stored, written⟩
    rcases Plan.writes_perform.mp stored with ⟨links, linksTo, linksFrom, gainsLinks⟩
    rcases Plan.writes_bind.mp written with ⟨rest, _, writtenRest, rfl, rfl⟩
    rcases inductionHypothesis writtenRest with ⟨laterLinks, gains, same, persisted, linked, owned⟩
    have gainsAll : t.Gains (ProductView.tables (⟨row, variant.2⟩ :: rest) (links ++ laterLinks))
        t' := (first.trans gainsLinks).trans gains
    have apart : ∀ view ∈ rest, row.id ≠ view.product.id := by
      intro view member same
      have distinct := (List.nodup_cons.mp (gainsAll.distinct .product)).1
      refine distinct (List.mem_map.mpr ⟨view.product, ?_, same.symm⟩)
      exact List.mem_map_of_mem member
    refine ⟨links ++ laterLinks, gainsAll, ?_, ?_, ?_, ?_⟩
    · rw [List.map_cons, List.map_cons, same]
    · refine List.forall_mem_cons.mpr ⟨⟨variant.1, now, List.mem_cons_self, made⟩, ?_⟩
      intro view member
      rcases persisted view member with ⟨product, now, planned, row⟩
      exact ⟨product, now, List.mem_cons_of_mem _ planned, row⟩
    · intro view member
      rw [List.filter_append, List.map_append]
      rcases List.mem_cons.mp member with rfl | member
      · have own : links.filter (·.productId == row.id) = links :=
          List.filter_eq_self.mpr fun link inLinks => beq_iff_eq.mpr (linksTo link inLinks)
        have noneLater : laterLinks.filter (·.productId == row.id) = [] := by
          refine List.filter_eq_nil_iff.mpr fun link inLinks same => ?_
          rcases owned link inLinks with ⟨view, member, owner⟩
          exact apart view member ((beq_iff_eq.mp same).symm.trans owner)
        rw [own, noneLater, linksFrom, List.map_nil, List.append_nil]
      · have noneOwn : links.filter (·.productId == view.product.id) = [] := by
          refine List.filter_eq_nil_iff.mpr fun link inLinks same => ?_
          exact apart view member ((linksTo link inLinks).symm.trans (beq_iff_eq.mp same))
        rw [noneOwn, linked view member, List.map_nil, List.nil_append]
    · intro link member
      rcases List.mem_append.mp member with inLinks | inLinks
      · exact ⟨_, List.mem_cons_self, linksTo link inLinks⟩
      · rcases owned link inLinks with ⟨view, member, owner⟩
        exact ⟨view, List.mem_cons_of_mem _ member, owner⟩

/-- The variants of options are the choices of their values, each with a product of its own. -/
theorem variants_ok {template : NewProduct} {options : List OptionView}
    {made : List (NewProduct × List OptionValue)}
    (planned : variants template options = .ok made) :
    made = (Variant.choices (options.map (·.values))).map fun choice =>
      let variant := Variant.ofChoice OptionValue.value template.sku
        (options.map (·.option.name)) choice
      (template.stamped variant.sku variant.optionSummary, choice) := by
  simp only [variants, Variant.build_eq, List.map_map, Function.comp_def] at planned
  cases ensured : Variant.ensureLimit (options.map fun view => view.values.length) with
  | error refusal =>
    rw [ensured] at planned
    cases planned
  | ok count =>
    rw [ensured] at planned
    cases planned
    rw [List.map_map]
    rfl

/-- Options within the limit have as many variants as were counted. -/
theorem variants_of_sizes (template : NewProduct) {options : List OptionView} {n : Nat}
    (limited : Variant.ensureLimit (options.map fun view => view.values.length) = .ok n) :
    ∃ made, variants template options = .ok made ∧ made.length = n := by
  have counted := Variant.length_build OptionValue.value template.sku
    (options.map fun view => (view.option.name, view.values))
  rw [List.map_map] at counted
  change _ = Variant.ensureLimit (options.map fun view => view.values.length) at counted
  rw [limited] at counted
  cases built : Variant.build OptionValue.value template.sku
      (options.map fun view => (view.option.name, view.values)) with
  | error refusal =>
    rw [built] at counted
    cases counted
  | ok made =>
    rw [built] at counted
    simp only [variants, built]
    exact ⟨_, rfl, (List.length_map _).trans (Except.ok.inj counted)⟩

/-! ## Primary images -/

variable {request : RootRequest} {now : Instant} {links : List VariantLink}

/-- The primary image of the root is no part of how it was composed. -/
theorem composedFrom_withRootImage {view : RootView}
    (composed : view.ComposedFrom kept request now links) (imageId : Option Int) :
    RootView.ComposedFrom kept request now
      { view with root := { view.root with primaryImageId := imageId } } links :=
  { composed with
    products := fun product member => { composed.products product member with } }

/-- Nor is that of its first product. -/
theorem composedFrom_withFirstImage {root : ProductRoot} {options : List OptionView}
    {images : List ProductImage} {first : ProductView} {rest : List ProductView}
    (composed : RootView.ComposedFrom kept request now ⟨root, options, images, first :: rest⟩ links)
    (imageId : Option Int) :
    RootView.ComposedFrom kept request now
      ⟨root, options, images,
        { first with product := { first.product with primaryImageId := imageId } } :: rest⟩
      links := by
  have made := List.forall_mem_cons.mp composed.products
  have linked := List.forall_mem_cons.mp composed.linked
  exact
    { composed with
      products := List.forall_mem_cons.mpr ⟨{ made.1 with }, made.2⟩
      linked := List.forall_mem_cons.mpr linked
      linksOwned := by
        intro link inLinks
        rcases composed.linksOwned link inLinks with ⟨product, member, owner⟩
        rcases List.mem_cons.mp member with rfl | member
        · exact ⟨_, List.mem_cons_self, owner⟩
        · exact ⟨product, List.mem_cons_of_mem _ member, owner⟩ }

/-- A root that was gained may be given its primary image by its number. -/
theorem gains_withRootImage {before : Tables} {view : RootView}
    (gains : before.Gains (view.tables links) t) (imageId : Int) :
    before.Gains
      (RootView.tables { view with root := { view.root with primaryImageId := some imageId } } links)
      (t.put .root (t.roots.map fun r =>
        if r.id == view.root.id then { r with primaryImageId := some imageId } else r)) := by
  have member : view.root ∈ (view.tables links).rows .root := List.mem_cons_self
  have amended := gains.amendOne member
    (fun r => { r with primaryImageId := some imageId }) (fun _ => rfl) (fun _ => rfl)
  have own : [if view.root.id == view.root.id then { view.root with primaryImageId := some imageId }
      else view.root] = [{ view.root with primaryImageId := some imageId }] := by
    rw [if_pos (beq_self_eq_true _)]
  unfold RootView.tables
  rw [← own]
  exact amended

/-- So may the first product, which leaves the others alone. -/
theorem gains_withFirstImage {before : Tables} {root : ProductRoot} {options : List OptionView}
    {images : List ProductImage} {first : ProductView} {rest : List ProductView}
    (gains : before.Gains (RootView.tables ⟨root, options, images, first :: rest⟩ links) t)
    (imageId : Int) :
    before.Gains
      (RootView.tables ⟨root, options, images,
        { first with product := { first.product with primaryImageId := some imageId } } :: rest⟩
        links)
      (t.put .product (t.products.map fun p =>
        if p.id == first.product.id then { p with primaryImageId := some imageId } else p)) := by
  have member : first.product ∈
      (RootView.tables ⟨root, options, images, first :: rest⟩ links).rows .product :=
    List.mem_cons_self
  have amended := gains.amendOne member
    (fun p => { p with primaryImageId := some imageId }) (fun _ => rfl) (fun _ => rfl)
  have distinct := (List.nodup_cons.mp (gains.distinct .product)).1
  have others : (rest.map (·.product)).map (fun p =>
      if p.id == first.product.id then { p with primaryImageId := some imageId } else p) =
        rest.map (·.product) := by
    refine (List.map_congr_left fun p member => ?_).trans (List.map_id _)
    refine if_neg fun same => distinct (List.mem_map.mpr ⟨p, member, ?_⟩)
    exact beq_iff_eq.mp same
  have own : (first.product :: rest.map (·.product)).map (fun p =>
      if p.id == first.product.id then { p with primaryImageId := some imageId } else p) =
        { first.product with primaryImageId := some imageId } :: rest.map (·.product) := by
    rw [List.map_cons, if_pos (beq_self_eq_true _), others]
  unfold RootView.tables
  rw [List.map_cons, ← own]
  exact amended

/-- The primary image changes rows of the new root only, since their numbers are new. -/
theorem setPrimaryImage_writes {before : Tables} {view shown : RootView} {imageId : Option Int}
    (gains : before.Gains (view.tables links) t)
    (composed : view.ComposedFrom kept request now links)
    (written : (setPrimaryImage view imageId).Writes kept t t' shown) :
    before.Gains (shown.tables links) t' ∧ shown.ComposedFrom kept request now links := by
  rcases view with ⟨root, options, images, products⟩
  cases imageId with
  | none =>
    rcases written with ⟨rfl, rfl⟩
    exact ⟨gains, composed⟩
  | some imageId =>
    rcases Plan.writes_bind.mp written with ⟨_, middle, stored, setFirst⟩
    rcases Plan.writes_perform.mp stored with rfl
    have gainsRoot := gains_withRootImage gains imageId
    have composedRoot := composedFrom_withRootImage composed (some imageId)
    cases products with
    | nil =>
      rcases setFirst with ⟨rfl, rfl⟩
      exact ⟨gainsRoot, composedRoot⟩
    | cons first rest =>
      rcases Plan.writes_bind.mp setFirst with ⟨_, _, storedFirst, rfl, rfl⟩
      rcases Plan.writes_perform.mp storedFirst with rfl
      exact ⟨gains_withFirstImage gainsRoot imageId,
        composedFrom_withFirstImage composedRoot (some imageId)⟩

/-! ## The root as a whole -/

theorem sizes_of_madeFrom {rootId : Int} {inputs : List OptionInput} {views : List OptionView}
    (made : List.Forall₂ (OptionView.MadeFrom rootId) inputs views) :
    (views.map (·.values)).map List.length = inputs.map (·.values.length) := by
  induction made with
  | nil => rfl
  | cons first _ inductionHypothesis =>
    simp only [List.map_cons, inductionHypothesis, ← first.values, List.length_map]

/-- A product that was persisted from the variants of a root is made from the values it shows. -/
theorem madeFrom_of_persistedFrom {root : ProductRoot} {template : NewProduct}
    {options : List OptionView} {made : List (NewProduct × List OptionValue)} {view : ProductView}
    (owner : template.rootId = root.id) (skuPrefix : template.sku = root.skuPrefix)
    (listing : kept template.listing = root.listing)
    (planned : variants template options = .ok made) (persisted : PersistedFrom kept made view) :
    view.MadeFrom root template options := by
  rcases persisted with ⟨product, now, member, row⟩
  rw [variants_ok planned] at member
  rcases List.mem_map.mp member with ⟨choice, _, same⟩
  rcases Prod.mk.inj same with ⟨rfl, rfl⟩
  exact
    { owner := by rw [row]; exact owner
      sku := by rw [row, ← skuPrefix]; rfl
      summary := by rw [row]; exact congrArg (String.intercalate ", ") List.zipWith_map_left
      listing := by rw [row]; exact listing
      offer := by rw [row]; rfl }

/-- A root that was created is composed from its request, and all its rows were gained. -/
theorem createRoot_writes {images : List ResolvedImage} {view : RootView}
    (written : (createRoot request images now).Writes kept t t' view) :
    ∃ links, t.Gains (view.tables links) t' ∧ view.ComposedFrom kept request now links := by
  rcases Plan.writes_bind.mp written with ⟨count, before, ensuredLimit, afterLimit⟩
  rcases Plan.writes_ensure.mp ensuredLimit with ⟨limited, rfl⟩
  rcases Plan.writes_bind.mp afterLimit with ⟨(root : ProductRoot), _, storedRoot, afterRoot⟩
  rcases Plan.writes_perform.mp storedRoot with ⟨⟨rootNow, rootRow⟩, gainsRoot⟩
  rcases Plan.writes_bind.mp afterRoot with ⟨rows, _, writtenImages, afterImages⟩
  rcases createImages_writes writtenImages with ⟨gainsImages, imagesOwned⟩
  rcases Plan.writes_bind.mp afterImages with ⟨options, _, writtenOptions, afterOptions⟩
  rcases createOptions_writes writtenOptions with ⟨gainsOptions, optionsMade⟩
  rcases Plan.writes_bind.mp afterOptions with ⟨made, _, ensuredVariants, afterVariants⟩
  rcases Plan.writes_ensure.mp ensuredVariants with ⟨planned, rfl⟩
  rcases Plan.writes_bind.mp afterVariants with
    ⟨products, persisted, writtenProducts, afterProducts⟩
  rcases persistVariants_writes writtenProducts with
    ⟨links, gainsProducts, shown, fromVariants, linked, linksOwned⟩
  have gains : before.Gains (RootView.tables ⟨root, options, rows, products⟩ links) persisted := by
    have together := gainsRoot.trans (gainsImages.trans (gainsOptions.trans gainsProducts))
    have parts : RootView.tables ⟨root, options, rows, products⟩ links =
        .only .root [root] ++ (.only .image rows ++
          (OptionView.tables options ++ ProductView.tables products links)) := by
      refine Tables.ext_rows fun k => ?_
      rw [Tables.rows_append, Tables.rows_append, Tables.rows_append]
      cases k <;> simp [RootView.tables, OptionView.tables, ProductView.tables, Tables.rows,
        Tables.only, Tables.put, Tables.empty]
    rwa [← parts] at together
  have sizes := sizes_of_madeFrom optionsMade
  have chosen : made.map (·.2) = Variant.choices (options.map (·.values)) := by
    rw [variants_ok planned, List.map_map]
    exact List.map_id _
  have places : products.map (·.applicableOptions.map some) =
      (Variant.places request.optionSizes).map
        (List.zipWith (fun option i => option.values[i]?) options) := by
    calc
      products.map (·.applicableOptions.map some) =
          (products.map (·.applicableOptions)).map (List.map some) := by
        rw [List.map_map]
        rfl
      _ = (Variant.choices (options.map (·.values))).map (List.map some) := by
        rw [shown, chosen]
      _ = _ := by
        rw [← Variant.map_zipWith_places, sizes]
        exact List.map_congr_left fun place _ => List.zipWith_map_left
  have number : products.length = request.optionSizes.prod := by
    have lengths := congrArg List.length places
    rwa [List.length_map, List.length_map, Variant.length_places] at lengths
  have composed : RootView.ComposedFrom kept request now ⟨root, options, rows, products⟩ links :=
    { skuPrefix := by rw [rootRow]; rfl
      listing := by rw [rootRow]; rfl
      images := imagesOwned
      options := optionsMade
      choices := ⟨_, fun _ => Variant.mem_places_iff, Variant.places_pairwise_lt _, places⟩
      number
      bounded := by
        rcases Variant.ensureLimit_ok limited with ⟨counted, bounded⟩
        rwa [number, ← counted]
      products := fun product member =>
        madeFrom_of_persistedFrom rfl (by rw [rootRow]; rfl) (by rw [rootRow]; rfl) planned
          (fromVariants product member)
      linked
      linksOwned }
  rcases setPrimaryImage_writes gains composed afterProducts with ⟨gainsShown, composedShown⟩
  exact ⟨links, gainsShown, composedShown⟩

end Creation
end Shop
