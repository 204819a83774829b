import Shop.Proofs.Catalog.Composition

/-!
# Primary images

The creation of a root gives it one of its images as primary, and its first product the same one.
Which one it is depends on the wishes of the pictures alone: the first that asks to be primary, or
the first of all.
-/

namespace Shop

/-- A root has an image as primary, its first product has the same, and all others have none. -/
structure RootView.PrimaryIs (view : RootView) (imageId : Option Int) : Prop where
  root : view.root.primaryImageId = imageId
  first : ∀ product ∈ view.products.head?, product.product.primaryImageId = imageId
  others : ∀ product ∈ view.products.tail, product.product.primaryImageId = none

namespace Creation

variable {kept : Listing → Listing} {t t' : Tables}

/-! ## Which image is primary -/

/-- What stands beside the first of several things that is picked stands in its place. -/
theorem find?_zip {α β : Type} (picks : α → Bool) (as : List α) (bs : List β) :
    ((as.zip bs).find? fun pair => picks pair.1).map (·.2) =
      (as.findIdx? picks).bind (bs[·]?) := by
  induction as generalizing bs with
  | nil => simp
  | cons a as inductionHypothesis =>
    rw [List.findIdx?_cons]
    cases bs with
    | nil => simp
    | cons b bs =>
      rw [List.zip_cons_cons, List.find?_cons]
      cases picks a with
      | true => rfl
      | false =>
        refine (inductionHypothesis bs).trans ?_
        cases as.findIdx? picks <;> rfl

/-- The primary image is the one in the place of the first picture that asks to be, or else the first
one. -/
theorem primaryImage_eq {images : List ResolvedImage} {rows : List ProductImage}
    (same : rows.length = images.length) :
    primaryImage images rows =
      rows[(images.findIdx? (·.isPrimary)).getD 0]?.map (·.id) := by
  have flagged := find?_zip (·.isPrimary) images rows
  have asked : primaryImage images rows =
      ((((images.zip rows).find? fun pair => pair.1.isPrimary).map (·.2)).map (·.id) <|>
        rows.head?.map (·.id)) := by
    unfold primaryImage
    rw [Option.map_map]
    rfl
  rw [asked, flagged]
  cases place : images.findIdx? (·.isPrimary) with
  | none =>
    rw [List.head?_eq_getElem?]
    rfl
  | some n =>
    have bounded : n < rows.length :=
      same ▸ (List.findIdx?_eq_some_iff_getElem.mp place).1
    simp [List.getElem?_eq_getElem bounded]

/-! ## What the creation writes -/

/-- The images of a root stand in the order of its pictures, each with the address of its picture. -/
theorem createImages_sources {root : ProductRoot} {position : Nat} {images : List ResolvedImage}
    {rows : List ProductImage}
    (written : (createImages root position images).Writes kept t t' rows) :
    rows.map (·.sourceUrl) = images.map (·.sourceUrl.getD "") := by
  induction images generalizing position t rows with
  | nil =>
    rcases written with ⟨rfl, rfl⟩
    rfl
  | cons image images inductionHypothesis =>
    simp only [createImages, Plan.writes_bind, Plan.writes_pure] at written
    rcases written with ⟨row, _, writtenFirst, rest, _, writtenRest, rfl, rfl⟩
    rcases Plan.writes_bind.mp writtenFirst with ⟨locations, _, _, stored⟩
    rcases Plan.writes_perform.mp stored with ⟨⟨now, made⟩, _⟩
    rw [List.map_cons, List.map_cons, inductionHypothesis writtenRest, made]
    rfl

theorem setPrimaryImage_primary {view shown : RootView} {imageId : Option Int}
    (unset : view.PrimaryIs none)
    (written : (setPrimaryImage view imageId).Writes kept t t' shown) :
    shown.PrimaryIs imageId ∧ shown.images = view.images := by
  rcases view with ⟨root, options, images, products⟩
  cases imageId with
  | none =>
    rcases written with ⟨rfl, rfl⟩
    exact ⟨unset, rfl⟩
  | some imageId =>
    rcases Plan.writes_bind.mp written with ⟨_, middle, _, setFirst⟩
    cases products with
    | nil =>
      rcases setFirst with ⟨rfl, rfl⟩
      exact ⟨⟨rfl, by simp, by simp⟩, rfl⟩
    | cons first rest =>
      rcases Plan.writes_bind.mp setFirst with ⟨_, _, _, rfl, rfl⟩
      refine ⟨⟨rfl, ?_, unset.others⟩, rfl⟩
      rintro product ⟨⟩
      rfl

/-- A root that was created has as primary image the one that its pictures ask for. -/
theorem createRoot_primary {request : RootRequest} {images : List ResolvedImage} {now : Instant}
    {view : RootView} (written : (createRoot request images now).Writes kept t t' view) :
    view.PrimaryIs (view.images[(images.findIdx? (·.isPrimary)).getD 0]?.map (·.id)) ∧
      view.images.map (·.sourceUrl) = images.map (·.sourceUrl.getD "") := by
  rcases Plan.writes_bind.mp written with ⟨count, before, ensuredLimit, afterLimit⟩
  rcases Plan.writes_bind.mp afterLimit with ⟨(root : ProductRoot), _, storedRoot, afterRoot⟩
  rcases Plan.writes_perform.mp storedRoot with ⟨⟨rootNow, rootRow⟩, _⟩
  rcases Plan.writes_bind.mp afterRoot with ⟨rows, _, writtenImages, afterImages⟩
  rcases Plan.writes_bind.mp afterImages with ⟨options, _, _, afterOptions⟩
  rcases Plan.writes_bind.mp afterOptions with ⟨made, _, _, afterVariants⟩
  rcases Plan.writes_bind.mp afterVariants with ⟨products, _, writtenProducts, afterProducts⟩
  rcases persistVariants_writes writtenProducts with ⟨_, _, _, persisted, _⟩
  have unset (product : ProductView) (member : product ∈ products) :
      product.product.primaryImageId = none := by
    rcases persisted product member with ⟨_, _, _, row⟩
    rw [row]
    rfl
  have sources := createImages_sources writtenImages
  have same : rows.length = images.length := by
    simpa using congrArg List.length sources
  have none : RootView.PrimaryIs ⟨root, options, rows, products⟩ none :=
    ⟨by rw [rootRow]; rfl, fun product first => unset product (List.mem_of_mem_head? first),
      fun product later => unset product (List.mem_of_mem_tail later)⟩
  rcases setPrimaryImage_primary none afterProducts with ⟨primary, shown⟩
  rw [primaryImage_eq same] at primary
  rw [shown]
  exact ⟨primary, sources⟩

end Creation
end Shop
