import Shop.Proofs.Http.Addresses
import Shop.Proofs.Http.Asking
import Shop.Proofs.Service.LiveSkus

/-!
# Products as they are read

A product can be read by itself, in a page of all products, with its root and in a page of roots.
Each of these is answered from other statements, and the answers show the product at other places of
their bodies.  Yet what is shown is the same: the view of the live product in the tables, and nothing
is shown that is not live.
-/

namespace Shop

/-- The items of the list that an object has under a key. -/
def Json.items (key : String) (value : Json) : List Json :=
  match value.member? key with
  | some (.list items) => items
  | _ => []

namespace Http

/-! ## Where products are shown -/

/-- The products that a body shows, by what was asked for. -/
def shownProducts : List String → Json → List Json
  | ["product", _], body => [body]
  | ["products"], body => body.items "data"
  | ["product_root", _], body => body.items "products"
  | ["product_roots"], body => (body.items "data").flatMap (Json.items "products")
  | _, _ => []

/-- The products that a response shows, if it shows anything. -/
def Response.products? (response : Response) (segments : List String) : Option (List Json) :=
  match response.body with
  | .json body => if response.status = 200 then some (shownProducts segments body) else none
  | _ => none

theorem Response.products?_eq_some {response : Response} {segments : List String}
    {objects : List Json} :
    response.products? segments = some objects ↔
      response.status = 200 ∧
        ∃ body, response.body = .json body ∧ shownProducts segments body = objects := by
  unfold products?
  cases response.body <;> simp

theorem Response.products?_eq_none {response : Response} {segments : List String}
    (failed : 400 ≤ response.status) : response.products? segments = none := by
  cases shown : response.products? segments with
  | none => rfl
  | some objects =>
    rw [(products?_eq_some.mp shown).1] at failed
    exact absurd failed (by decide)

theorem items_envelope (page : Page) (count : Int) (rows : List Json) :
    (page.envelope count rows).items "data" = rows := by
  simp [Page.envelope, Json.items, Json.member?, List.lookup_cons]

theorem items_rootView (view : RootView) :
    view.toJson.items "products" = view.products.map (·.toJson) := by
  rfl

theorem items_rootSummary (view : RootSummary) :
    view.toJson.items "products" = view.products.map (·.toJson) := by
  rfl

theorem member?_id (view : ProductView) :
    view.toJson.member? "id" = some (.int view.product.id) := by
  rfl

theorem member?_applicableOptions (view : ProductView) :
    view.toJson.member? "applicable_options" =
      some (.list (view.applicableOptions.map (·.toJson))) := by
  rfl

/-! ## What each reading shows -/

variable {c : Context} {s : Session} {r : Request} {fresh part : String} {page : Page}
variable {segments : List String}

/-- A reading shows what its command reads. -/
theorem products?_of_reads (asks : r.Asks .get segments) {command : Command}
    (stands : r.command = .ok command) {body : Json}
    (reads : command.action.Reads c s.tables (.ok (.ok body))) :
    (serve c fresh s r).1.products? segments = some (shownProducts segments body) := by
  rcases asks.shows stands reads fresh with ⟨status, shown⟩
  exact Response.products?_eq_some.mpr ⟨status, body, shown, rfl⟩

theorem products?_of_failure (asks : r.Asks .get segments) {command : Command}
    (stands : r.command = .ok command) {failure : Failure}
    (reads : command.action.Reads c s.tables (.error failure)) :
    (serve c fresh s r).1.products? segments = none := by
  refine Response.products?_eq_none ?_
  rw [(asks.reads (by decide) stands reads fresh).1]
  exact failure.status_ge

theorem products?_of_rejection (asks : r.Asks .get segments) {rejection : Rejection}
    (stands : r.command = .error rejection) :
    (serve c fresh s r).1.products? segments = none := by
  have other : r.method ≠ .options := by simp [asks.method]
  refine Response.products?_eq_none ?_
  rw [(serve_rejected fresh other asks.outside stands).1]
  exact rejection.status_ge

theorem products?_product (reachable : Reachable s) (undisturbed : c.Undisturbed)
    (asks : r.Asks .get ["product", part]) {sku : String} (named : readText "sku" part = .ok sku) :
    (serve c fresh s r).1.products? ["product", part] =
      ((s.tables.live .product).find? (·.sku == sku)).map fun p =>
        [(s.tables.productView p).toJson] := by
  have stands : r.command = .ok (.showProduct sku) := by
    rw [asks.command rfl, named]
    rfl
  cases found : (s.tables.live .product).find? (·.sku == sku) with
  | some p =>
    have passable := reachable.sku_passable (List.mem_of_find?_eq_some found)
    rw [beq_iff_eq.mp (List.find?_some (p := fun p : Product => p.sku == sku) found)] at passable
    exact products?_of_reads asks stands
      (Service.showProduct_reads undisturbed reachable.numbered passable found)
  | none =>
    cases passable : Parameter.fault? (.text sku) with
    | none =>
      exact products?_of_failure asks stands (Service.showProduct_missing undisturbed passable found)
    | some fault =>
      exact products?_of_failure asks stands (Service.showProduct_unpassable undisturbed passable)

theorem products?_products (reachable : Reachable s) (undisturbed : c.Undisturbed)
    (asks : r.Asks .get ["products"]) (paged : r.page = .ok page) :
    (serve c fresh s r).1.products? ["products"] =
      some ((page.slice (s.tables.live .product)).map fun p => (s.tables.productView p).toJson) := by
  have stands : r.command = .ok (.listProducts page) := by
    rw [asks.command rfl, paged]
    rfl
  rw [products?_of_reads asks stands (Service.listProducts_reads undisturbed reachable.numbered page)]
  exact congrArg some (items_envelope page (s.tables.live .product).length _)

theorem products?_root (reachable : Reachable s) (undisturbed : c.Undisturbed)
    (asks : r.Asks .get ["product_root", part]) {id : Int} (named : readNumber part = .ok id) :
    (serve c fresh s r).1.products? ["product_root", part] =
      ((s.tables.live .root).find? (·.id == id)).map fun root =>
        (s.tables.productsOf root.id).map fun p => (s.tables.productView p).toJson := by
  have stands : r.command = .ok (.showRoot id) := by
    rw [asks.command rfl, named]
    rfl
  cases found : (s.tables.live .root).find? (·.id == id) with
  | some root =>
    rw [products?_of_reads asks stands (Service.showRoot_reads undisturbed reachable.numbered found)]
    change some ((RootView.toJson _).items "products") = _
    rw [items_rootView]
    exact congrArg some List.map_map
  | none => exact products?_of_failure asks stands (Service.showRoot_missing undisturbed found)

theorem products?_roots (reachable : Reachable s) (undisturbed : c.Undisturbed)
    (asks : r.Asks .get ["product_roots"]) (paged : r.page = .ok page) :
    (serve c fresh s r).1.products? ["product_roots"] =
      some ((page.slice (s.tables.live .root)).flatMap fun root =>
        (s.tables.productsOf root.id).map fun p => (s.tables.productView p).toJson) := by
  have stands : r.command = .ok (.listRoots page) := by
    rw [asks.command rfl, paged]
    rfl
  rw [products?_of_reads asks stands (Service.listRoots_reads undisturbed reachable.numbered page)]
  change some ((Json.items "data" _).flatMap _) = _
  rw [items_envelope, List.flatMap_map]
  refine congrArg some (List.flatMap_congr fun root _ => ?_)
  rw [items_rootSummary]
  exact List.map_map

/-- Whatever is read, the products that are shown are live ones. -/
theorem live_of_products? (reachable : Reachable s) (undisturbed : c.Undisturbed)
    (asks : r.Asks .get segments) {objects : List Json}
    (shown : (serve c fresh s r).1.products? segments = some objects) :
    ∀ object ∈ objects, ∃ p ∈ s.tables.live .product, object = (s.tables.productView p).toJson := by
  rcases Response.products?_eq_some.mp shown with ⟨_, body, _, listed⟩
  intro object member
  unfold shownProducts at listed
  split at listed
  · rename_i part
    cases named : readText "sku" part with
    | error rejection =>
      rw [products?_of_rejection asks (by rw [asks.command rfl, named]; rfl)] at shown
      cases shown
    | ok sku =>
      rw [products?_product reachable undisturbed asks named, Option.map_eq_some_iff] at shown
      rcases shown with ⟨p, found, rfl⟩
      exact ⟨p, List.mem_of_find?_eq_some found, List.mem_singleton.mp member⟩
  · cases paged : r.page with
    | error rejection =>
      rw [products?_of_rejection asks (by rw [asks.command rfl, paged]; rfl)] at shown
      cases shown
    | ok page =>
      rw [products?_products reachable undisturbed asks paged] at shown
      rcases Option.some.inj shown with rfl
      rcases List.mem_map.mp member with ⟨p, inPage, rfl⟩
      exact ⟨p, List.mem_of_mem_drop (List.mem_of_mem_take inPage), rfl⟩
  · rename_i part
    cases named : readNumber part with
    | error rejection =>
      rw [products?_of_rejection asks (by rw [asks.command rfl, named]; rfl)] at shown
      cases shown
    | ok id =>
      rw [products?_root reachable undisturbed asks named, Option.map_eq_some_iff] at shown
      rcases shown with ⟨root, _, rfl⟩
      rcases List.mem_map.mp member with ⟨p, inRoot, rfl⟩
      exact ⟨p, (List.mem_filter.mp inRoot).1, rfl⟩
  · cases paged : r.page with
    | error rejection =>
      rw [products?_of_rejection asks (by rw [asks.command rfl, paged]; rfl)] at shown
      cases shown
    | ok page =>
      rw [products?_roots reachable undisturbed asks paged] at shown
      rcases Option.some.inj shown with rfl
      rcases List.mem_flatMap.mp member with ⟨root, _, inSummary⟩
      rcases List.mem_map.mp inSummary with ⟨p, inRoot, rfl⟩
      exact ⟨p, (List.mem_filter.mp inRoot).1, rfl⟩
  · rw [← listed] at member
    cases member

/-! ## The readings of a product -/

/-- The requests that read a product: for its SKU, for a page that holds it, for its root, and for a
page that holds its root. -/
inductive Request.ReadsProduct (t : Tables) (p : Product) (r : Request) : List String → Prop
  | alone {part : String} (asks : r.Asks .get ["product", part])
    (named : readText "sku" part = .ok p.sku) : ReadsProduct t p r ["product", part]
  | listed {page : Page} (asks : r.Asks .get ["products"]) (paged : r.page = .ok page)
    (held : p ∈ page.slice (t.live .product)) : ReadsProduct t p r ["products"]
  | inRoot {part : String} (asks : r.Asks .get ["product_root", part])
    (named : readNumber part = .ok p.rootId) : ReadsProduct t p r ["product_root", part]
  | inRoots {page : Page} {root : ProductRoot} (asks : r.Asks .get ["product_roots"])
    (paged : r.page = .ok page) (held : root ∈ page.slice (t.live .root))
    (own : p.rootId = root.id) : ReadsProduct t p r ["product_roots"]

theorem Request.ReadsProduct.asks {t : Tables} {p : Product}
    (reads : r.ReadsProduct t p segments) : r.Asks .get segments := by
  cases reads <;> assumption

/-- Every reading of a live product shows it. -/
theorem shown_of_readsProduct (reachable : Reachable s) (undisturbed : c.Undisturbed) {p : Product}
    (alive : p ∈ s.tables.live .product) (reads : r.ReadsProduct s.tables p segments)
    (fresh : String) :
    ∃ objects, (serve c fresh s r).1.products? segments = some objects ∧
      (s.tables.productView p).toJson ∈ objects := by
  have ofRoot {root : ProductRoot} (own : p.rootId = root.id) :
      (s.tables.productView p).toJson ∈
        (s.tables.productsOf root.id).map fun p => (s.tables.productView p).toJson :=
    List.mem_map_of_mem (List.mem_filter.mpr ⟨alive, beq_iff_eq.mpr own⟩)
  cases reads with
  | alone asks named =>
    have found := reachable.numbered.find?_sku reachable.unclashed alive
    rw [products?_product reachable undisturbed asks named, found]
    exact ⟨_, rfl, List.mem_singleton_self _⟩
  | listed asks paged held =>
    exact ⟨_, products?_products reachable undisturbed asks paged, List.mem_map_of_mem held⟩
  | inRoot asks named =>
    rcases reachable.owned .product p alive .root p.rootId rfl with ⟨root, rootAlive, own⟩
    have found : (s.tables.live .root).find? (·.id == p.rootId) = some root := by
      rw [← own]
      exact reachable.numbered.find?_live (k := .root) rootAlive
    rw [products?_root reachable undisturbed asks named, found]
    exact ⟨_, rfl, ofRoot own.symm⟩
  | inRoots asks paged held own =>
    exact ⟨_, products?_roots reachable undisturbed asks paged,
      List.mem_flatMap.mpr ⟨_, held, ofRoot own⟩⟩

/-- The headers of a product are found exactly if the product is. -/
theorem head_status_iff (reachable : Reachable s) {c' : Context} {r' : Request} (fresh' : String)
    (undisturbed : c.Undisturbed) (undisturbed' : c'.Undisturbed)
    (head : r.Asks .head ["product", part]) (get : r'.Asks .get ["product", part]) :
    (serve c fresh s r).1.status = 200 ↔ (serve c' fresh' s r').1.status = 200 := by
  cases named : readText "sku" part with
  | error rejection =>
    have headStands : r.command = .error rejection := by
      rw [head.command rfl, named]
      rfl
    have getStands : r'.command = .error rejection := by
      rw [get.command rfl, named]
      rfl
    rw [(serve_rejected fresh (by simp [head.method]) head.outside headStands).1,
      (serve_rejected fresh' (by simp [get.method]) get.outside getStands).1]
  | ok sku =>
    have headStands : r.command = .ok (.probeProduct sku) := by
      rw [head.command rfl, named]
      rfl
    have getStands : r'.command = .ok (.showProduct sku) := by
      rw [get.command rfl, named]
      rfl
    cases passable : Parameter.fault? (.text sku) with
    | some fault =>
      rw [(head.reads (by decide) headStands
          (Service.probeProduct_unpassable undisturbed passable) fresh).1,
        (get.reads (by decide) getStands
          (Service.showProduct_unpassable undisturbed' passable) fresh').1]
    | none =>
      have headStatus : (serve c fresh s r).1.status =
          if (s.tables.live .product).any (·.sku == sku) then 200 else 404 :=
        (head.reads (by decide) headStands
          (Service.probeProduct_reads undisturbed passable) fresh).1
      cases found : (s.tables.live .product).find? (·.sku == sku) with
      | some p =>
        have taken : (s.tables.live .product).any (·.sku == sku) = true :=
          List.any_eq_true.mpr ⟨p, List.mem_of_find?_eq_some found,
            List.find?_some (p := fun p : Product => p.sku == sku) found⟩
        rw [taken] at headStatus
        rw [headStatus, (get.reads (by decide) getStands
          (Service.showProduct_reads undisturbed' reachable.numbered passable found) fresh').1]
        rfl
      | none =>
        have free : (s.tables.live .product).any (·.sku == sku) = false :=
          List.any_eq_false.mpr (List.find?_eq_none.mp found)
        rw [free] at headStatus
        rw [headStatus, (get.reads (by decide) getStands
          (Service.showProduct_missing undisturbed' passable found) fresh').1]
        have failed := Failure.status_ge (.refused (Service.noProduct sku))
        exact iff_of_false (by decide) (Nat.ne_of_gt (Nat.lt_of_lt_of_le (by decide) failed))

end Http

/-- Wherever a live product is read, it is shown as the same JSON value, with the values that live
links join to it, in the order of their options and of the values themselves.  Nothing else is shown
as a product, so one that is not live appears nowhere.  And a request for the headers of a product
succeeds exactly if one for the product does. -/
theorem Reachable.productReadings_agree {s : Session} (reachable : Reachable s) :
    let t := s.tables
    let shown (p : Product) : Json := (t.productView p).toJson
    (∀ p ∈ t.live .product, ∀ r segments, r.ReadsProduct t p segments →
      ∀ c fresh, c.Undisturbed → ∃ objects,
        (Http.serve c fresh s r).1.products? segments = some objects ∧ shown p ∈ objects ∧
        ∀ object ∈ objects, object.member? "id" = some (.int p.id) → object = shown p) ∧
    (∀ p ∈ t.live .product, ∃ values : List OptionValue,
      (shown p).member? "applicable_options" = some (.list (values.map (·.toJson))) ∧
      values.Perm (t.joinedValues p.id) ∧
      values.Pairwise fun v w => v.optionId < w.optionId ∨ v.optionId = w.optionId ∧ v.id ≤ w.id) ∧
    (∀ r segments, r.Asks .get segments → ∀ c fresh, c.Undisturbed → ∀ objects,
      (Http.serve c fresh s r).1.products? segments = some objects → ∀ object ∈ objects,
        (∃ p ∈ t.live .product, object = shown p) ∧
        ∀ p ∈ t.rows .product, Kind.live .product p = false →
          object.member? "id" ≠ some (.int p.id)) ∧
    ∀ part r r', r.Asks .head ["product", part] → r'.Asks .get ["product", part] →
      ∀ c fresh c' fresh', c.Undisturbed → c'.Undisturbed →
        ((Http.serve c fresh s r).1.status = 200 ↔ (Http.serve c' fresh' s r').1.status = 200) := by
  intro t shown
  have ofNumber {p q : Product} (alive : p ∈ t.live .product) (member : q ∈ t.rows .product)
      (same : (shown p).member? "id" = some (.int q.id)) : p = q := by
    rw [Http.member?_id] at same
    exact reachable.numbered.eq_of_number (k := .product) (Tables.mem_live.mp alive).1 member
      (Json.int.inj (Option.some.inj same))
  refine ⟨?_, ?_, ?_, ?_⟩
  · intro p alive r segments reads c fresh undisturbed
    rcases Http.shown_of_readsProduct reachable undisturbed alive reads fresh with
      ⟨objects, answered, member⟩
    refine ⟨objects, answered, member, fun object inObjects number => ?_⟩
    rcases Http.live_of_products? reachable undisturbed reads.asks answered object inObjects with
      ⟨other, otherAlive, rfl⟩
    rw [ofNumber otherAlive (Tables.mem_live.mp alive).1 number]
  · intro p _
    exact ⟨t.applicableOptions p.id, Http.member?_applicableOptions _,
      Tables.applicableOptions_perm reachable.numbered p.id, t.applicableOptions_pairwise p.id⟩
  · intro r segments asks c fresh undisturbed objects answered object member
    rcases Http.live_of_products? reachable undisturbed asks answered object member with
      ⟨p, alive, rfl⟩
    refine ⟨⟨p, alive, rfl⟩, fun q inRows gone number => ?_⟩
    rw [← ofNumber alive inRows number, (Tables.mem_live.mp alive).2] at gone
    cases gone
  · intro part r r' head get c fresh c' fresh' undisturbed undisturbed'
    exact Http.head_status_iff reachable fresh' undisturbed undisturbed' head get

/-- The shirt of one size is shown by itself and in the page of all products as the same value. -/
theorem Reachable.productReadings_agree_shirt :
    let s := (Http.serve (.calm ⟨0, 0⟩) "shirt" (.start 16) Http.shirtRequest).2
    let look (target : String) := (Http.serve (.calm ⟨0, 0⟩) "look" s (Http.lookRequest target)).1
    ∃ p ∈ s.tables.live .product, p.sku = "shirt_m" ∧
      (∃ alone, (look "/v1/product/shirt_m").products? ["product", "shirt_m"] = some alone ∧
        (s.tables.productView p).toJson ∈ alone) ∧
      ∃ listed, (look "/v1/products").products? ["products"] = some listed ∧
        (s.tables.productView p).toJson ∈ listed := by
  intro s look
  have reachable : Reachable s := .serve (.start 16) _ _ _
  have named : "shirt_m" ∈ (s.tables.live .product).map (·.sku) := by
    rw [Http.shirtRequest_skus]
    decide
  rcases List.mem_map.mp named with ⟨p, alive, sku⟩
  have reads := reachable.productReadings_agree.1 p alive
  have alone : (Http.lookRequest "/v1/product/shirt_m").ReadsProduct s.tables p
      ["product", "shirt_m"] := by
    refine .alone ⟨rfl, ?_, by decide⟩ ?_
    · rw [Text.splitOn_slash]
      decide +kernel
    · rw [sku]
      rfl
  have listed : (Http.lookRequest "/v1/products").ReadsProduct s.tables p ["products"] := by
    have paged : (Http.lookRequest "/v1/products").page = .ok ⟨1, 25⟩ :=
      Http.Request.page_of_noQuery (by decide +kernel)
    refine .listed ⟨rfl, ?_, by decide⟩ paged ?_
    · rw [Text.splitOn_slash]
      decide +kernel
    · have few : (s.tables.live .product).length ≤ 25 := by
        rw [← List.length_map (·.sku), Http.shirtRequest_skus]
        decide
      change p ∈ ((s.tables.live .product).drop 0).take 25
      rwa [List.drop_zero, List.take_of_length_le few]
  rcases reads _ _ alone (.calm ⟨0, 0⟩) "look" fun _ => rfl with ⟨one, shownAlone, inAlone, _⟩
  rcases reads _ _ listed (.calm ⟨0, 0⟩) "look" fun _ => rfl with ⟨all, shownListed, inListed, _⟩
  exact ⟨p, alive, sku, ⟨one, shownAlone, inAlone⟩, all, shownListed, inListed⟩

end Shop
