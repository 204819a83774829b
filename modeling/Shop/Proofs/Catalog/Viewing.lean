import Shop.Proofs.Catalog.Composition
import Shop.Proofs.Store.Ownership
import Shop.Proofs.Store.Views

/-!
# A new root as it is viewed

The rows of a new root are put among those of other roots, and a view has to pick them out again.  It
picks exactly these: their numbers are new, so in tables that are closed under ownership no older row
can belong to them.  Values come back in the order of their options, since a choice names its values
in the order in which the options were written.
-/

namespace Shop

/-! ## Rows that were gained and those before -/

namespace Tables.Gains

variable {t new t' : Tables}

theorem live_eq (gains : t.Gains new t') (k : Kind) : t'.live k = t.live k ++ new.rows k := by
  have alive : new.live k = new.rows k := List.filter_eq_self.mpr (gains.live k)
  rw [gains.eq_append, live_append, alive]

/-- Only rows that were gained too belong to a row that was gained. -/
theorem filter_owner (gains : t.Gains new t') (owned : t.Owned) {k j : Kind}
    {ownerId : k.Row → Int} (belongs : ∀ row, k.owner? row = some (j, ownerId row)) {owner : j.Row}
    (member : owner ∈ new.rows j) :
    (t'.live k).filter (ownerId · == j.number owner) =
      (new.rows k).filter (ownerId · == j.number owner) := by
  have none : (t.live k).filter (ownerId · == j.number owner) = [] := by
    refine List.filter_eq_nil_iff.mpr fun row alive same => ?_
    rcases owned k row alive j _ (belongs row) with ⟨old, oldAlive, number⟩
    refine gains.unused j owner member old (mem_live.mp oldAlive).1 ?_
    rw [number, beq_iff_eq.mp same]
  rw [gains.live_eq, List.filter_append, none, List.nil_append]

/-- A row that was gained is found by its number. -/
theorem find?_number (gains : t.Gains new t') {k : Kind} {row : k.Row} (member : row ∈ new.rows k) :
    (t'.rows k).find? (k.number · == k.number row) = some row := by
  rw [gains.eq_append, rows_append]
  refine find?_of_unique (List.mem_append_right _ member) (beq_self_eq_true _) ?_
  intro other inRows same
  rcases List.mem_append.mp inRows with old | gained
  · exact absurd (beq_iff_eq.mp same).symm (gains.unused k row member other old)
  · exact List.inj_on_of_nodup_map (gains.distinct k) gained member (beq_iff_eq.mp same)

end Tables.Gains

/-! ## Options and choices -/

/-- Of the values of all options, those of one option are the ones it was written with. -/
theorem OptionView.filter_values {views : List OptionView}
    (distinct : (views.map (·.option.id)).Nodup)
    (owned : ∀ view ∈ views, ∀ value ∈ view.values, value.optionId = view.option.id)
    {view : OptionView} (member : view ∈ views) :
    (views.flatMap (·.values)).filter (·.optionId == view.option.id) = view.values := by
  induction views with
  | nil => cases member
  | cons first rest inductionHypothesis =>
    rcases List.nodup_cons.mp distinct with ⟨fresh, distinct⟩
    rcases List.forall_mem_cons.mp owned with ⟨ownedFirst, ownedRest⟩
    rw [List.flatMap_cons, List.filter_append]
    rcases List.mem_cons.mp member with rfl | inRest
    · have own : view.values.filter (·.optionId == view.option.id) = view.values :=
        List.filter_eq_self.mpr fun value inValues => beq_iff_eq.mpr (ownedFirst value inValues)
      have others : (rest.flatMap (·.values)).filter (·.optionId == view.option.id) = [] := by
        refine List.filter_eq_nil_iff.mpr fun value inValues same => fresh ?_
        rcases List.mem_flatMap.mp inValues with ⟨other, inRest, inOther⟩
        refine List.mem_map.mpr ⟨other, inRest, ?_⟩
        exact (ownedRest other inRest value inOther).symm.trans (beq_iff_eq.mp same)
      rw [own, others, List.append_nil]
    · have others : first.values.filter (·.optionId == view.option.id) = [] := by
        refine List.filter_eq_nil_iff.mpr fun value inValues same => fresh ?_
        refine List.mem_map.mpr ⟨view, inRest, ?_⟩
        exact (beq_iff_eq.mp same).symm.trans (ownedFirst value inValues)
      rw [others, List.nil_append, inductionHypothesis distinct ownedRest inRest]

/-- A choice takes its values from the options in their order. -/
theorem OptionView.choice_sublist {views : List OptionView} {place : List Nat}
    {values : List OptionValue}
    (owned : ∀ view ∈ views, ∀ value ∈ view.values, value.optionId = view.option.id)
    (chosen : values.map some = List.zipWith (fun view i => view.values[i]?) views place) :
    (∀ value ∈ values, value ∈ views.flatMap (·.values)) ∧
      (values.map (·.optionId)).Sublist (views.map (·.option.id)) := by
  induction views generalizing place values with
  | nil =>
    rw [List.zipWith_nil_left, List.map_eq_nil_iff] at chosen
    subst chosen
    exact ⟨List.forall_mem_nil _, .slnil⟩
  | cons view views inductionHypothesis =>
    rcases List.forall_mem_cons.mp owned with ⟨ownedFirst, ownedRest⟩
    cases place with
    | nil =>
      rw [List.zipWith_nil_right, List.map_eq_nil_iff] at chosen
      subst chosen
      exact ⟨List.forall_mem_nil _, List.nil_sublist _⟩
    | cons i place =>
      rw [List.zipWith_cons_cons] at chosen
      rcases List.map_eq_cons_iff.mp chosen with ⟨value, rest, rfl, first, later⟩
      have inFirst : value ∈ view.values := List.mem_of_getElem? first.symm
      rcases inductionHypothesis ownedRest later with ⟨inRest, sublist⟩
      rw [List.flatMap_cons, List.map_cons, List.map_cons, ownedFirst value inFirst]
      refine ⟨List.forall_mem_cons.mpr ⟨List.mem_append_left _ inFirst, ?_⟩, sublist.cons_cons _⟩
      exact fun other member => List.mem_append_right _ (inRest other member)

namespace RootView.ComposedFrom

variable {kept : Listing → Listing} {request : RootRequest} {now : Instant} {view : RootView}
variable {links : List VariantLink} {t t' : Tables}

/-- The values of a product are values of the root, in the order of their options. -/
theorem choice (composed : view.ComposedFrom kept request now links) {product : ProductView}
    (member : product ∈ view.products) :
    (∀ value ∈ product.applicableOptions, value ∈ view.options.flatMap (·.values)) ∧
      (product.applicableOptions.map (·.optionId)).Sublist (view.options.map (·.option.id)) := by
  rcases composed.choices with ⟨places, _, _, chosen⟩
  have inChoices : product.applicableOptions.map some ∈
      view.products.map (·.applicableOptions.map some) := List.mem_map.mpr ⟨product, member, rfl⟩
  rw [chosen] at inChoices
  rcases List.mem_map.mp inChoices with ⟨place, _, same⟩
  have owned := OptionView.owned_of_madeFrom composed.options
  exact OptionView.choice_sublist (fun option shown => (owned option shown).2) same.symm

variable {drawn : Sequences}

/-- Each product is viewed with the values of its choice. -/
theorem applicableOptions_eq (composed : view.ComposedFrom kept request now links)
    (gains : t.Gains (view.tables links) t') (owned : t.Owned) (numbered : t'.Numbered drawn)
    {product : ProductView} (member : product ∈ view.products) :
    t'.applicableOptions product.product.id = product.applicableOptions := by
  rcases composed.choice member with ⟨inRoot, sublist⟩
  have mine : (t'.live .link).filter (·.productId == product.product.id) =
      links.filter (·.productId == product.product.id) :=
    gains.filter_owner owned (k := .link) (j := .product) (fun _ => rfl) (List.mem_map_of_mem member)
  have linked : t'.linkedValues product.product.id = product.applicableOptions := by
    have found (value : OptionValue) (chosen : value ∈ product.applicableOptions) :
        t'.values.find? (·.id == value.id) = some value :=
      gains.find?_number (k := .value) (inRoot value chosen)
    calc
      t'.linkedValues product.product.id =
          ((links.filter (·.productId == product.product.id)).map (·.valueId)).filterMap
            (fun id => t'.values.find? (·.id == id)) := by
        rw [Tables.linkedValues, mine, List.filterMap_map]
        rfl
      _ = product.applicableOptions.filterMap (fun value => t'.values.find? (·.id == value.id)) := by
        rw [composed.linked product member, List.filterMap_map]
        rfl
      _ = product.applicableOptions.filterMap some := List.filterMap_congr found
      _ = product.applicableOptions := List.filterMap_some
  -- Numbers rise from option to option, so the values stand in their order already.
  have rising : (view.options.map (·.option.id)).Pairwise (· < ·) := by
    have all := numbered.rising .option
    rw [gains.eq_append, Tables.rows_append, List.map_append, List.pairwise_append] at all
    have new := all.2.1
    rwa [show (view.tables links).rows .option = view.options.map (·.option) from rfl,
      List.map_map] at new
  have ordered : product.applicableOptions.Pairwise fun v w => Tables.valueOrder v w = true := by
    refine (List.pairwise_map.mp (rising.sublist sublist)).imp fun before => ?_
    exact Tables.valueOrder_iff.mpr (.inl before)
  rw [Tables.applicableOptions, linked]
  exact List.mergeSort_of_pairwise ordered

/-- The view of a root that was just written is the view it was written with. -/
theorem rootView_eq (composed : view.ComposedFrom kept request now links)
    (gains : t.Gains (view.tables links) t') (owned : t.Owned) (numbered : t'.Numbered drawn) :
    t'.rootView view.root = view := by
  have isRoot : view.root ∈ (view.tables links).rows .root := List.mem_singleton_self _
  have ofRoot {k : Kind} {ownerId : k.Row → Int}
      (belongs : ∀ row, k.owner? row = some (.root, ownerId row))
      (all : ∀ row ∈ (view.tables links).rows k, ownerId row = view.root.id) :
      (t'.live k).filter (ownerId · == view.root.id) = (view.tables links).rows k := by
    refine (gains.filter_owner owned belongs isRoot).trans ?_
    exact List.filter_eq_self.mpr fun row member => beq_iff_eq.mpr (all row member)
  have ownedOptions := OptionView.owned_of_madeFrom composed.options
  have optionRows : (t'.live .option).filter (·.rootId == view.root.id) =
      view.options.map (·.option) := by
    refine ofRoot (k := .option) (fun _ => rfl) fun option member => ?_
    rcases List.mem_map.mp member with ⟨shown, inView, rfl⟩
    exact (ownedOptions shown inView).1
  have options : ((t'.live .option).filter (·.rootId == view.root.id)).map t'.optionView =
      view.options := by
    rw [optionRows, List.map_map]
    refine (List.map_congr_left fun option member => ?_).trans (List.map_id _)
    have distinct : (view.options.map (·.option.id)).Nodup := by
      have new := gains.distinct .option
      rwa [show (view.tables links).rows .option = view.options.map (·.option) from rfl,
        List.map_map] at new
    have values : (t'.live .value).filter (·.optionId == option.option.id) = option.values := by
      refine (gains.filter_owner owned (k := .value) (j := .option) (fun _ => rfl)
        (List.mem_map_of_mem member)).trans ?_
      exact OptionView.filter_values distinct (fun view shown => (ownedOptions view shown).2) member
    change (⟨option.option, (t'.live .value).filter (·.optionId == option.option.id)⟩ : OptionView) =
      option
    rw [values]
  have images : (t'.live .image).filter (·.rootId == view.root.id) = view.images :=
    ofRoot (k := .image) (fun _ => rfl) composed.images
  have productRows : t'.productsOf view.root.id = view.products.map (·.product) := by
    refine ofRoot (k := .product) (fun _ => rfl) fun product member => ?_
    rcases List.mem_map.mp member with ⟨shown, inView, rfl⟩
    exact (composed.products shown inView).owner
  have products : (t'.productsOf view.root.id).map t'.productView = view.products := by
    rw [productRows, List.map_map]
    refine (List.map_congr_left fun product member => ?_).trans (List.map_id _)
    change (⟨product.product, t'.applicableOptions product.product.id⟩ : ProductView) = product
    rw [composed.applicableOptions_eq gains owned numbered member]
  rw [Tables.rootView, options, images, products]

end RootView.ComposedFrom
end Shop
