import Shop.Proofs.Paging
import Shop.Proofs.Service.Running
import Shop.Proofs.Store.Views
import Shop.Service.Products

/-!
# What is read

An action that only reads ends as the tables say and leaves the session as it is, as long as no
statement is made to fail.  `Action.Reads` names its end, and the ends of longer actions are composed
from those of their parts.

What clients are shown are then functions of the tables: `Tables.productView` for a product wherever
it is shown, `Tables.rootView` for a root by itself, `Tables.rootSummary` for a root in a list.
-/

namespace Shop

/-- A context in which no statement is made to fail. -/
def Context.Undisturbed (c : Context) : Prop := ∀ n, c.faults.statement n = none

/-- What a client is told of how an action ended. -/
def Reply.ofResult : Except Failure Reply → Reply
  | .ok reply => reply
  | .error failure => .ofFailure failure

namespace Action

/-- An action that, where it finds some tables, ends in one way and leaves the session. -/
def Reads (c : Context) (t : Tables) (a : Action α) (result : Except Failure α) : Prop :=
  ∀ p, p.session.tables = t →
    (a.perform c p).1 = result ∧ (a.perform c p).2.session = p.session

namespace Reads

variable {c : Context} {t : Tables}

theorem pure (a : α) : (Pure.pure a : Action α).Reads c t (.ok a) :=
  fun _ _ => ⟨rfl, rfl⟩

theorem refuse (refusal : Refusal) :
    (Action.refuse refusal : Action α).Reads c t (.error (.refused refusal)) :=
  fun _ _ => ⟨rfl, rfl⟩

/-- A sequence goes on from the answer of its first part. -/
theorem bind {a : Action α} {next : α → Action β} {x : α} {result : Except Failure β}
    (first : a.Reads c t (.ok x)) (rest : (next x).Reads c t result) :
    (a >>= next).Reads c t result := by
  intro p found
  rcases first p found with ⟨answered, session⟩
  rw [perform_bind]
  rcases ran : a.perform c p with ⟨result, middle⟩
  rw [ran] at answered session
  cases answered
  rcases rest middle ((congrArg _ session).trans found) with ⟨ended, same⟩
  exact ⟨ended, same.trans session⟩

/-- A sequence whose first part fails goes no further. -/
theorem bind_error {a : Action α} {next : α → Action β} {failure : Failure}
    (failed : a.Reads c t (.error failure)) : (a >>= next).Reads c t (.error failure) := by
  intro p found
  rcases failed p found with ⟨answered, session⟩
  rw [perform_bind]
  rcases ran : a.perform c p with ⟨result, middle⟩
  rw [ran] at answered session
  cases answered
  exact ⟨rfl, session⟩

theorem select (undisturbed : c.Undisturbed) (f : Tables → α) :
    (statement (.select f)).Reads c t (.ok (f t)) := by
  rintro p rfl
  rw [perform_statement, undisturbed]
  exact ⟨rfl, rfl⟩

/-- An answer may be used in another form. -/
theorem map (undisturbed : c.Undisturbed) (f : Tables → α) (g : α → β) :
    (statement ((Statement.select f).map g)).Reads c t (.ok (g (f t))) := by
  rintro p rfl
  rw [perform_statement, undisturbed]
  exact ⟨rfl, rfl⟩

/-- A statement answers if its parameters can be passed. -/
theorem passing (undisturbed : c.Undisturbed) {parameters : List Parameter}
    (passable : parameters.findSome? Parameter.fault? = none) (f : Tables → α) :
    (statement (.passing parameters (.select f))).Reads c t (.ok (f t)) := by
  rintro p rfl
  rw [perform_statement, undisturbed]
  simp only [Statement.passing, passable]
  exact ⟨rfl, rfl⟩

theorem passing_error (undisturbed : c.Undisturbed) {parameters : List Parameter}
    {fault : StoreFault} (stopped : parameters.findSome? Parameter.fault? = some fault)
    (f : Tables → α) :
    (statement (.passing parameters (.select f))).Reads c t (.error (.store fault)) := by
  rintro p rfl
  rw [perform_statement, undisturbed]
  simp only [Statement.passing, stopped]
  exact ⟨trivial, trivial⟩

/-- A page of all live rows of a kind. -/
theorem page (undisturbed : c.Undisturbed) (k : Kind) (page : Page) :
    (statement (.page k page fun _ => true)).Reads c t (.ok (page.slice (t.live k))) := by
  have all : (t.live k).filter (fun _ => true) = t.live k := List.filter_eq_self.mpr fun _ _ => rfl
  have answered := select (t := t) undisturbed fun t => page.slice ((t.live k).filter fun _ => true)
  rwa [all] at answered

theorem count (undisturbed : c.Undisturbed) (k : Kind) :
    (statement (.count k fun _ => true)).Reads c t (.ok (t.live k).length) := by
  have all : (t.live k).filter (fun _ => true) = t.live k := List.filter_eq_self.mpr fun _ _ => rfl
  have answered := select (t := t) undisturbed fun t => ((t.live k).filter fun _ => true).length
  rwa [all] at answered

theorem require_some (refusal : Refusal) (a : α) :
    (require refusal (some a)).Reads c t (.ok a) :=
  pure a

theorem require_none (refusal : Refusal) :
    (require refusal none : Action α).Reads c t (.error (.refused refusal)) :=
  refuse refusal

/-- What is read is told to the client. -/
theorem serve {a : Action Reply} {s : Session} {result : Except Failure Reply}
    (reads : a.Reads c s.tables result) : a.serve c s = (.ofResult result, s) := by
  rcases reads (.start s) rfl with ⟨answered, session⟩
  unfold Action.serve
  rcases ran : a.perform c (.start s) with ⟨ended, p⟩
  rw [ran] at answered session
  cases answered
  cases ended <;> exact Prod.ext rfl session

end Reads
end Action

namespace Service

open Shop.Action

variable {c : Context} {t : Tables} {drawn : Sequences}

/-- What is shown of one product is looked up as that of several is. -/
theorem showOne_looksUp (undisturbed : c.Undisturbed) (product : Product) :
    (showOne product).Reads c t (.ok ((t.productViews [product]).headD ⟨product, []⟩)) :=
  .map undisturbed _ _

theorem showOne_reads (undisturbed : c.Undisturbed) (numbered : t.Numbered drawn)
    (product : Product) : (showOne product).Reads c t (.ok (t.productView product)) := by
  have shown := showOne_looksUp (t := t) undisturbed product
  rwa [Tables.productViews_single numbered] at shown

theorem showProducts_reads (undisturbed : c.Undisturbed) (numbered : t.Numbered drawn)
    {products : List Product} (live : products.Sublist (t.live .product)) :
    (showProducts products).Reads c t (.ok (products.map t.productView)) := by
  rw [← Tables.productViews_eq numbered (numbered.distinct_of_sublist (k := .product) live)]
  unfold showProducts
  split
  · rename_i empty
    rw [List.isEmpty_iff.mp empty]
    exact .pure _
  · exact .select undisturbed _

theorem showOptions_reads (undisturbed : c.Undisturbed) (numbered : t.Numbered drawn)
    {options : List ProductOption} (live : options.Sublist (t.live .option)) :
    (showOptions options).Reads c t (.ok (options.map t.optionView)) := by
  rw [← Tables.optionViews_eq numbered (numbered.distinct_of_sublist (k := .option) live)]
  unfold showOptions
  split
  · rename_i empty
    rw [List.isEmpty_iff.mp empty]
    exact .pure _
  · exact .select undisturbed _

/-! ## Products -/

/-- A product is found by its SKU and shown with the values it is linked to. -/
theorem showProduct_reads (undisturbed : c.Undisturbed) (numbered : t.Numbered drawn)
    {sku : String} {product : Product} (passable : Parameter.fault? (.text sku) = none)
    (found : (t.live .product).find? (·.sku == sku) = some product) :
    (showProduct sku).Reads c t (.ok (.ok (t.productView product).toJson)) := by
  have lookup : (statement (Store.productBySku sku)).Reads c t (.ok (some product)) := by
    rw [← found]
    exact .passing undisturbed (by simp [passable]) _
  have loaded : (loadProduct sku).Reads c t (.ok (t.productView product)) :=
    .bind lookup (.bind (.require_some _ product) (showOne_reads undisturbed numbered product))
  exact .bind loaded (.pure _)

theorem showProduct_missing (undisturbed : c.Undisturbed) {sku : String}
    (passable : Parameter.fault? (.text sku) = none)
    (missing : (t.live .product).find? (·.sku == sku) = none) :
    (showProduct sku).Reads c t (.error (.refused (noProduct sku))) := by
  have lookup : (statement (Store.productBySku sku)).Reads c t (.ok none) := by
    rw [← missing]
    exact .passing undisturbed (by simp [passable]) _
  have failed : (loadProduct sku).Reads c t (.error (.refused (noProduct sku))) :=
    .bind lookup (.bind_error (.require_none _))
  exact .bind_error failed

/-- A SKU that cannot be passed to the store finds nothing, and is an error of its own. -/
theorem showProduct_unpassable (undisturbed : c.Undisturbed) {sku : String} {fault : StoreFault}
    (stopped : Parameter.fault? (.text sku) = some fault) :
    (showProduct sku).Reads c t (.error (.store fault)) := by
  have lookup : (statement (Store.productBySku sku)).Reads c t (.error (.store fault)) :=
    .passing_error undisturbed (by simp [stopped]) _
  exact .bind_error (.bind_error lookup)

theorem probeProduct_reads (undisturbed : c.Undisturbed) {sku : String}
    (passable : Parameter.fault? (.text sku) = none) :
    (probeProduct sku).Reads c t
      (.ok ⟨if (t.live .product).any (·.sku == sku) then 200 else 404, none⟩) :=
  .bind (.passing undisturbed (by simp [passable]) _) (.pure _)

theorem probeProduct_unpassable (undisturbed : c.Undisturbed) {sku : String} {fault : StoreFault}
    (stopped : Parameter.fault? (.text sku) = some fault) :
    (probeProduct sku).Reads c t (.error (.store fault)) :=
  .bind_error (.passing_error undisturbed (by simp [stopped]) _)

theorem listProducts_reads (undisturbed : c.Undisturbed) (numbered : t.Numbered drawn)
    (page : Page) :
    (listProducts page).Reads c t (.ok (.ok (page.envelope (t.live .product).length
      ((page.slice (t.live .product)).map fun product => (t.productView product).toJson)))) := by
  refine .bind (.page undisturbed .product page) (.bind (.count undisturbed .product)
    (.bind (showProducts_reads undisturbed numbered (page.slice_sublist _)) ?_))
  rw [List.map_map]
  exact .pure _

/-! ## Roots -/

/-- A root is shown with all live rows that belong to it. -/
theorem showRoot_reads (undisturbed : c.Undisturbed) (numbered : t.Numbered drawn) {id : Int}
    {root : ProductRoot} (found : (t.live .root).find? (·.id == id) = some root) :
    (showRoot id).Reads c t (.ok (.ok (t.rootView root).toJson)) := by
  have lookup : (statement (.find .root id)).Reads c t (.ok (some root)) := by
    rw [← found]
    exact .select undisturbed _
  have products : (statement (Store.productsOf [root.id])).Reads c t
      (.ok (t.productsOf root.id)) := by
    have one : t.productsOf root.id = (t.live .product).filter fun p =>
        [root.id].contains p.rootId := by
      refine List.filter_congr fun p _ => ?_
      rw [List.contains_cons, List.contains_nil, Bool.or_false]
    rw [one]
    exact .select undisturbed _
  exact .bind lookup (.bind (.require_some _ root)
    (.bind (.select undisturbed _)
      (.bind (showOptions_reads undisturbed numbered List.filter_sublist)
        (.bind (.select undisturbed _) (.bind products
          (.bind (showProducts_reads undisturbed numbered List.filter_sublist) (.pure _)))))))

theorem showRoot_missing (undisturbed : c.Undisturbed) {id : Int}
    (missing : (t.live .root).find? (·.id == id) = none) :
    (showRoot id).Reads c t (.error (.refused (noRoot id))) := by
  have lookup : (statement (.find .root id)).Reads c t (.ok none) := by
    rw [← missing]
    exact .select undisturbed _
  exact .bind lookup (.bind_error (.require_none _))

/-- Products that are loaded for several roots at once are handed to the root that each belongs
to. -/
theorem productsOf_handed (t : Tables) {roots : List ProductRoot} {root : ProductRoot}
    (member : root ∈ roots) :
    ((((t.live .product).filter fun p => (roots.map (·.id)).contains p.rootId).map
      t.productView).filter (·.product.rootId == root.id)) =
        (t.productsOf root.id).map t.productView := by
  rw [List.filter_map, List.filter_filter]
  refine congrArg (List.map t.productView) (List.filter_congr fun p _ => ?_)
  change (p.rootId == root.id && (roots.map (·.id)).contains p.rootId) = (p.rootId == root.id)
  have asked : p.rootId = root.id → (roots.map (·.id)).contains p.rootId = true := by
    intro same
    rw [same, List.contains_iff_mem]
    exact List.mem_map_of_mem member
  cases belongs : p.rootId == root.id with
  | false => exact Bool.false_and _
  | true => exact asked (beq_iff_eq.mp belongs)

/-- Roots are shown with the products that were loaded for all of them. -/
theorem summaries_eq (numbered : t.Numbered drawn) {roots : List ProductRoot}
    (live : roots.Sublist (t.live .root)) :
    (Groups.ofRows (·.product.rootId) (((t.live .product).filter fun p =>
      (roots.map (·.id)).contains p.rootId).map t.productView)).handOut (·.id) RootSummary.mk roots =
        roots.map t.rootSummary := by
  have distinct := numbered.distinct_of_sublist (k := .root) live
  exact (Groups.handOut_ofRows distinct _ _ _).trans (List.map_congr_left fun root member =>
    congrArg (RootSummary.mk root) (productsOf_handed t member))

/-- A list of roots shows each with the products that belong to it. -/
theorem listRoots_reads (undisturbed : c.Undisturbed) (numbered : t.Numbered drawn) (page : Page) :
    (listRoots page).Reads c t (.ok (.ok (page.envelope (t.live .root).length
      ((page.slice (t.live .root)).map fun root => (t.rootSummary root).toJson)))) := by
  refine .bind (.page undisturbed .root page) (.bind (.count undisturbed .root) ?_)
  extract_lets next
  -- An empty page asks for no products, and no root is there to show them.
  have rest : (next ((t.live .product).filter fun p =>
      ((page.slice (t.live .root)).map (·.id)).contains p.rootId)).Reads c t
        (.ok (.ok (page.envelope (t.live .root).length
          ((page.slice (t.live .root)).map fun root => (t.rootSummary root).toJson)))) := by
    refine .bind (showProducts_reads undisturbed numbered List.filter_sublist) ?_
    rw [summaries_eq numbered (page.slice_sublist _)]
    dsimp only
    rw [List.map_map]
    exact .pure _
  split
  · rename_i empty
    have none : ((t.live .product).filter fun p =>
        ((page.slice (t.live .root)).map (·.id)).contains p.rootId) = [] := by
      rw [List.isEmpty_iff.mp empty]
      exact List.filter_eq_nil_iff.mpr fun p _ => by simp
    rw [none] at rest
    exact .bind (.pure _) rest
  · exact .bind (.select undisturbed _) rest

end Service
end Shop
