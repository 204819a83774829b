import Shop.Proofs.Service.Creations
import Shop.Proofs.Service.History
import Shop.Proofs.Service.Showing
import Shop.Proofs.Service.Untouched

/-!
# What products are made of

A product is made of one value for each option that its root has when it is created.  Options and
values may be added, renamed and archived afterwards, but what a product is made of is read through
its links, which only it and its root take with them, and through values that are never lost and
never change their option.  So as long as a product is live it shows the values that it was created
with, and in the same order.  Its SKU, too, is its own: only a change of this very product gives it
another one.
-/

namespace Shop

/-! ## The values of a product -/

namespace Tables

/-- What a product is made of: its values in the order shown, each by its option and its number. -/
def composition (t : Tables) (productId : Int) : List (Int × Int) :=
  (t.applicableOptions productId).map fun v => (v.optionId, v.id)

/-- The live links of a product. -/
def linksOf (t : Tables) (productId : Int) : List VariantLink :=
  (t.live .link).filter (·.productId == productId)

/-- The value of a number, by its option and its number. -/
def valueKey? (t : Tables) (n : Int) : Option (Int × Int) :=
  (t.values.find? (·.id == n)).map fun v => (v.optionId, v.id)

variable {t t' : Tables} {drawn : Sequences}

/-- Whether a value stands before another, of which options and numbers are known. -/
def keyOrder (v w : Int × Int) : Bool :=
  decide (v.1 < w.1) || (v.1 == w.1 && decide (v.2 ≤ w.2))

/-- Of the values, a composition depends on the numbers of their options only. -/
theorem composition_eq (t : Tables) (productId : Int) :
    t.composition productId =
      ((t.linksOf productId).filterMap fun link => t.valueKey? link.valueId).mergeSort keyOrder := by
  have sorted : ((t.linkedValues productId).mergeSort valueOrder).map (fun v => (v.optionId, v.id)) =
      ((t.linkedValues productId).map fun v => (v.optionId, v.id)).mergeSort keyOrder :=
    List.map_mergeSort fun _ _ _ _ => rfl
  rw [composition, applicableOptions, sorted, linkedValues, List.map_filterMap]
  rfl

/-- A value that is there keeps its option in later tables. -/
theorem Continues.valueKey?_eq (continues : t.Continues t') (numbered : t.Numbered drawn)
    {drawn' : Sequences} (numbered' : t'.Numbered drawn') {n : Int} (found : t.has .value n = true) :
    t'.valueKey? n = t.valueKey? n := by
  rcases has_iff.mp found with ⟨value, member, rfl⟩
  rcases continues .value value member with ⟨later, laterMember, continued⟩
  have first : t.values.find? (·.id == value.id) = some value :=
    find?_of_unique member (beq_self_eq_true _) fun other inside same =>
      numbered.eq_of_number (k := .value) inside member (beq_iff_eq.mp same)
  have second : t'.values.find? (·.id == value.id) = some later :=
    find?_of_unique laterMember (beq_iff_eq.mpr continued.number) fun other inside same =>
      numbered'.eq_of_number (k := .value) inside laterMember
        ((beq_iff_eq.mp same).trans continued.number.symm)
  have option : later.optionId = value.optionId :=
    (Prod.mk.inj (List.cons.inj continued.references).1).2
  have number : later.id = value.id := continued.number
  change (t'.values.find? (·.id == value.id)).map _ = (t.values.find? (·.id == value.id)).map _
  rw [first, second, Option.map_some, Option.map_some, option, number]

/-- A product that keeps its links is made of the same in later tables. -/
theorem Continues.composition_eq (continues : t.Continues t') (conforms : t.Conforms)
    (numbered : t.Numbered drawn) {drawn' : Sequences} (numbered' : t'.Numbered drawn')
    {productId : Int} (links : t'.linksOf productId = t.linksOf productId) :
    t'.composition productId = t.composition productId := by
  have keys : ((t.linksOf productId).filterMap fun link => t'.valueKey? link.valueId) =
      (t.linksOf productId).filterMap fun link => t.valueKey? link.valueId := by
    refine List.filterMap_congr fun link member => ?_
    have inRows := (mem_live.mp (List.mem_filter.mp member).1).1
    have anchored := conforms.anchored .link link inRows
    exact continues.valueKey?_eq numbered numbered' (Bool.and_eq_true_iff.mp anchored).2
  rw [Tables.composition_eq, links, keys, ← Tables.composition_eq]

/-- Where links go exactly if their product does, products that are left keep their links. -/
theorem linksOf_archiveEach {kinds : List Kind} (archives : .execution ∉ kinds)
    (products : .product ∈ kinds) {gone : (k : Kind) → k.Row → Bool} {now : Instant} {p : Product}
    (left : p ∈ (t.archiveEach kinds gone now).live .product)
    (together : p ∈ t.live .product → ∀ link : VariantLink, link.productId = p.id →
      gone .link link = gone .product p) :
    (t.archiveEach kinds gone now).linksOf p.id = t.linksOf p.id := by
  rw [live_archiveEach t archives, if_pos products, List.mem_filter, Bool.not_eq_true'] at left
  unfold linksOf
  rw [live_archiveEach t archives]
  split
  · rw [List.filter_filter]
    refine List.filter_congr fun link _ => ?_
    cases own : link.productId == p.id with
    | false => rfl
    | true =>
      rw [together left.1 link (beq_iff_eq.mp own), left.2]
      rfl
  · rfl

theorem isOfRoot_eq (numbered : t.Numbered drawn) {p : Product} (member : p ∈ t.rows .product)
    (rootId : Int) : t.isOfRoot p.id rootId = (p.rootId == rootId) := by
  refine Bool.eq_iff_iff.mpr ⟨fun found => ?_, fun own => ?_⟩
  · rcases List.any_eq_true.mp found with ⟨other, inside, both⟩
    rcases Bool.and_eq_true_iff.mp both with ⟨same, own⟩
    rcases numbered.eq_of_number (k := .product) inside member (beq_iff_eq.mp same) with rfl
    exact own
  · exact List.any_eq_true.mpr ⟨p, member, Bool.and_eq_true_iff.mpr ⟨beq_self_eq_true _, own⟩⟩

/-- The products that were there before a root was created keep their links. -/
theorem Gains.linksOf_eq {kept : Listing → Listing} {request : RootRequest} {now : Instant}
    {view : RootView} {links : List VariantLink} (gains : t.Gains (view.tables links) t')
    (composed : view.ComposedFrom kept request now links) {p : Product}
    (alive : p ∈ t.live .product) : t'.linksOf p.id = t.linksOf p.id := by
  have others : links.filter (·.productId == p.id) = [] := by
    refine List.filter_eq_nil_iff.mpr fun link member own => ?_
    rcases composed.linksOwned link member with ⟨created, shown, owner⟩
    refine gains.unused .product created.product (List.mem_map_of_mem shown) p
      (mem_live.mp alive).1 ?_
    exact owner.symm.trans (beq_iff_eq.mp own)
  unfold linksOf
  rw [gains.live_eq, List.filter_append]
  change _ ++ links.filter _ = _
  rw [others, List.append_nil]

end Tables

/-- A choice takes one value from each option. -/
theorem OptionView.choice_forall₂ {views : List OptionView} {place : List Nat}
    {values : List OptionValue} (fits : place.length = views.length)
    (owned : ∀ view ∈ views, ∀ value ∈ view.values, value.optionId = view.option.id)
    (chosen : values.map some = List.zipWith (fun view i => view.values[i]?) views place) :
    List.Forall₂ (fun view value => value.optionId = view.option.id) views values := by
  induction views generalizing place values with
  | nil =>
    rw [List.zipWith_nil_left, List.map_eq_nil_iff] at chosen
    rw [chosen]
    exact .nil
  | cons view views inductionHypothesis =>
    rcases List.forall_mem_cons.mp owned with ⟨ownedFirst, ownedRest⟩
    cases place with
    | nil => cases fits
    | cons i place =>
      rw [List.zipWith_cons_cons] at chosen
      rcases List.map_eq_cons_iff.mp chosen with ⟨value, rest, rfl, first, later⟩
      have inFirst : value ∈ view.values := List.mem_of_getElem? first.symm
      exact .cons (ownedFirst value inFirst)
        (inductionHypothesis (Nat.succ.inj fits) ownedRest later)

/-- A product of a new root has one value for each option of the root, in their order. -/
theorem RootView.ComposedFrom.onePerOption {kept : Listing → Listing} {request : RootRequest}
    {now : Instant} {view : RootView} {links : List VariantLink}
    (composed : view.ComposedFrom kept request now links) {product : ProductView}
    (member : product ∈ view.products) :
    List.Forall₂ (fun option value => value.optionId = option.option.id) view.options
      product.applicableOptions := by
  rcases composed.choices with ⟨places, all, _, chosen⟩
  have inChoices : product.applicableOptions.map some ∈
      view.products.map (·.applicableOptions.map some) := List.mem_map.mpr ⟨product, member, rfl⟩
  rw [chosen] at inChoices
  rcases List.mem_map.mp inChoices with ⟨place, listed, same⟩
  have fits : place.length = view.options.length := by
    rw [((all place).mp listed).length_eq, RootRequest.optionSizes, List.length_map,
      composed.options.length_eq]
  have owned := OptionView.owned_of_madeFrom composed.options
  exact OptionView.choice_forall₂ fits (fun option shown => (owned option shown).2) same.symm

/-! ## What commands leave of products -/

/-- Only a new root brings new products, and every other command leaves the links of the products
that are left. -/
theorem Command.linksOf_eq {command : Command} (other : ∀ request, command ≠ .createRoot request)
    {s : Session} (reachable : Reachable s) (c : Context) :
    ∀ p ∈ (command.action.serve c s).2.tables.live .product,
      (∃ old ∈ s.tables.live .product, old.id = p.id) ∧
        (command.action.serve c s).2.tables.linksOf p.id = s.tables.linksOf p.id := by
  intro p left
  have old : ∃ old ∈ s.tables.live .product, old.id = p.id := by
    refine (command.within.serve c s).live_number (k := .product) (by decide) ?_ p left
    cases command with
    | createRoot request => exact absurd rfl (other request)
    | _ => simp [effects]
  refine ⟨old, ?_⟩
  have untouched (same : (command.action.serve c s).2.tables = s.tables) :
      (command.action.serve c s).2.tables.linksOf p.id = s.tables.linksOf p.id := by rw [same]
  have spared (spares : command.effects.all (·.kind? != some .link) = true) :
      (command.action.serve c s).2.tables.linksOf p.id = s.tables.linksOf p.id := by
    have same : (command.action.serve c s).2.tables.rows .link = s.tables.rows .link :=
      (command.within.serve c s).rows_eq fun e may => by
        simpa using List.all_eq_true.mp spares e may
    rw [Tables.linksOf, Tables.live, same]
    rfl
  cases command with
  | createRoot request => exact absurd rfl (other request)
  | archiveRoot id =>
    rcases Action.serve_cases (Command.archiveRoot id).action c s with
      ⟨failure, q, failed, replied⟩ | ⟨reply, q, ran, replied⟩
    · refine untouched ?_
      rw [replied]
      exact (Service.archiveRoot_atomic id c _ failure q failed).1
    · rw [replied] at left ⊢
      have tables := Service.archiveRoot_ok ran
      change p ∈ q.session.tables.live .product at left
      rw [tables] at left ⊢
      refine Tables.linksOf_archiveEach (by decide) (by decide) left fun alive link own => ?_
      have member := (Tables.mem_live.mp alive).1
      change s.tables.isOfRoot link.productId id = (p.rootId == id)
      rw [own, Tables.isOfRoot_eq reachable.numbered member]
  | archiveProduct sku =>
    rcases Action.serve_cases (Command.archiveProduct sku).action c s with
      ⟨failure, q, failed, replied⟩ | ⟨reply, q, ran, replied⟩
    · refine untouched ?_
      rw [replied]
      exact (Service.archiveProduct_atomic sku c _ failure q failed).1
    · rw [replied] at left ⊢
      rcases Service.archiveProduct_ok ran with ⟨id, tables⟩
      change p ∈ q.session.tables.live .product at left
      rw [tables] at left ⊢
      refine Tables.linksOf_archiveEach (by decide) (by decide) left fun _ link own => ?_
      simp [Kind.goesWith, Kind.owner?, Kind.number, own, Bool.beq_eq_decide_eq]
  | _ => exact spared rfl

/-! ## SKUs -/

/-- Later tables have only products of these, with their SKUs but for products with one SKU, which
may have been given another. -/
def Tables.SkusFrom (t : Tables) (sku : String) (given : Option String) (later : Tables) : Prop :=
  ∀ p' ∈ later.live .product, ∃ p ∈ t.live .product, p.id = p'.id ∧
    (p'.sku = p.sku ∨ p.sku = sku ∧ given = some p'.sku)

theorem Service.changeProduct_skusFrom {t : Tables} {drawn : Sequences}
    (numbered : t.Numbered drawn) (sku : String) (patch : ProductPatch) :
    (changeProduct sku patch).Maintains (t.SkusFrom sku patch.sku) := by
  refine changeProduct_maintains_of_change fun middle existing before found =>
    .statement fun c p changed q done holds => ?_
  rw [(Action.perform_updateLive_ok (k := .product) done).1]
  unfold Tables.SkusFrom
  rw [Tables.live_put_map _ .product fun row => by split <;> rfl]
  refine List.forall_mem_map.mpr fun row alive => ?_
  rcases holds row alive with ⟨old, oldAlive, same, kept⟩
  split
  · rename_i chosen
    refine ⟨old, oldAlive, same, ?_⟩
    change patch.sku.getD row.sku = old.sku ∨ old.sku = sku ∧ patch.sku = some (patch.sku.getD row.sku)
    cases new : patch.sku with
    | none =>
      rw [new] at kept
      exact .inl (kept.resolve_right fun both => by cases both.2)
    | some newSku =>
      refine .inr ⟨?_, rfl⟩
      -- The row that changes has the number of the one that was found by its SKU.
      rcases before existing (List.mem_of_find?_eq_some found) with
        ⟨other, otherAlive, number, named⟩
      have looked : existing.sku = sku :=
        beq_iff_eq.mp (List.find?_some (p := fun product : Product => product.sku == sku) found)
      have target : row.id = existing.id := beq_iff_eq.mp (Bool.and_eq_true_iff.mp chosen).2
      rcases numbered.eq_of_number (k := .product) (Tables.mem_live.mp oldAlive).1
        (Tables.mem_live.mp otherAlive).1 ((same.trans target).trans number.symm) with rfl
      exact named.elim (fun unchanged => unchanged.symm.trans looked) And.left
  · exact ⟨old, oldAlive, same, kept⟩

theorem Tables.Numbered.sku_eq {t : Tables} {drawn : Sequences} (numbered : t.Numbered drawn)
    {p p' : Product} (member : p ∈ t.rows .product) (member' : p' ∈ t.rows .product)
    (same : p'.id = p.id) : p'.sku = p.sku :=
  congrArg Product.sku (numbered.eq_of_number (k := .product) member' member same)

/-- A command that gives a live product another SKU is a change of this product that names it. -/
theorem Command.changes_of_sku_ne {command : Command} {s : Session} (reachable : Reachable s)
    {c : Context} {p p' : Product} (alive : p ∈ s.tables.live .product)
    (alive' : p' ∈ (command.action.serve c s).2.tables.live .product) (same : p'.id = p.id)
    (different : p'.sku ≠ p.sku) :
    ∃ patch, command = .changeProduct p.sku patch ∧ patch.val.sku = some p'.sku := by
  have numbered := reachable.numbered
  have kept (member : p' ∈ s.tables.live .product) : False :=
    different (numbered.sku_eq (Tables.mem_live.mp alive).1 (Tables.mem_live.mp member).1 same)
  cases command with
  | createRoot request =>
    rcases Action.serve_cases (Command.createRoot request).action c s with
      ⟨failure, q, failed, replied⟩ | ⟨reply, q, ran, replied⟩
    · rw [replied] at alive'
      have tables := (Service.createRoot_atomic request.val c _ failure q failed).1
      change p' ∈ q.session.tables.live .product at alive'
      rw [tables] at alive'
      exact (kept alive').elim
    · rw [replied] at alive'
      rcases Service.createRoot_ok numbered ran with
        ⟨_, view, links, _, committed, _, _, ⟨gains, _⟩, _, _, ended⟩
      change p' ∈ q.session.tables.live .product at alive'
      rw [ended, gains.live_eq] at alive'
      rcases List.mem_append.mp alive' with old | new
      · exact (kept old).elim
      · exact (gains.unused .product p' new p (Tables.mem_live.mp alive).1 same).elim
  | changeProduct sku patch =>
    rw [Action.serve_snd] at alive'
    have starts : s.tables.SkusFrom sku patch.val.sku s.tables :=
      fun row member => ⟨row, member, rfl, .inl rfl⟩
    rcases Service.changeProduct_skusFrom numbered sku patch.val c (.start s) starts p' alive' with
      ⟨old, oldAlive, number, unchanged | ⟨rfl, given⟩⟩
    all_goals
      rcases numbered.eq_of_number (k := .product) (Tables.mem_live.mp oldAlive).1
        (Tables.mem_live.mp alive).1 (number.trans same) with rfl
    · exact absurd unchanged different
    · exact ⟨patch, rfl, given⟩
  | _ => exact (kept ((Command.live_sublist _ c s (by decide) rfl).subset alive')).elim

/-- A request that gives a live product another SKU is a change of this product that names it, and
succeeds if no statement is made to fail. -/
theorem Http.changes_of_sku_ne {s : Session} (reachable : Reachable s) {c : Context}
    {fresh : String} {r : Request} {p p' : Product} (alive : p ∈ s.tables.live .product)
    (alive' : p' ∈ (serve c fresh s r).2.tables.live .product) (same : p'.id = p.id)
    (different : p'.sku ≠ p.sku) :
    ∃ part patch, r.Asks .patch ["product", part] ∧ readText "sku" part = .ok p.sku ∧
      r.readBody ProductPatch.reader = .ok patch ∧ patch.sku = some p'.sku ∧
      (c.Undisturbed → (serve c fresh s r).1.status = 200) := by
  have kept (member : p' ∈ s.tables.live .product) : False :=
    different (reachable.numbered.sku_eq (Tables.mem_live.mp alive).1
      (Tables.mem_live.mp member).1 same)
  rcases served : r.served? with _ | command
  · rw [serve_unserved c fresh s served] at alive'
    exact (kept alive').elim
  · rcases serve_served c fresh s served with ⟨status, session⟩
    rw [session] at alive'
    rcases command.changes_of_sku_ne reachable alive alive' same different with
      ⟨patch, rfl, given⟩
    rcases Request.asks_of_changeProduct served with ⟨⟨part, asks, named⟩, body⟩
    refine ⟨part, patch.val, asks, named, body, given, fun undisturbed => ?_⟩
    rw [status]
    rcases Action.serve_cases (Command.changeProduct p.sku patch).action c s with
      ⟨failure, q, failed, replied⟩ | ⟨reply, q, ran, replied⟩
    · -- Then nothing would have changed.
      rw [replied] at alive'
      change p' ∈ q.session.tables.live .product at alive'
      rw [(Command.atomicIn undisturbed _ _ failure q failed).1] at alive'
      exact (kept alive').elim
    · rw [replied]
      exact (Command.ends (.changeProduct p.sku patch) c _ reply q ran).1

/-- A request to call the first value `xs`. -/
def Http.tinyRequest : Http.Request :=
  jsonRequest .patch "/v1/product_option_values/1" "\x7b\"value\": \"xs\"\x7d"

/-- A request to call the small shirt `shirt_short`. -/
def Http.shortRequest : Http.Request :=
  jsonRequest .patch "/v1/product/shirt_s" "\x7b\"sku\": \"shirt_short\"\x7d"

/-! ## Histories -/

namespace Session

/-- After anything that happens, a live product was so before and is made of the same, or was just
created. -/
theorem composition_after {s : Session} (reachable : Reachable s) (next : Happening) :
    ∀ p ∈ (s.after next).tables.live .product,
      (∃ old ∈ s.tables.live .product, old.id = p.id ∧
        (s.after next).tables.composition p.id = s.tables.composition p.id) ∨
      ∃ c fresh r request view created, next = .served c fresh r ∧
        Http.Creates c fresh s r request view ∧ created ∈ view.products ∧ created.product = p ∧
        (s.after next).tables.applicableOptions p.id = created.applicableOptions ∧
        List.Forall₂ (fun option value => value.optionId = option.option.id) view.options
          created.applicableOptions := by
  intro p alive
  have kept (old : ∃ old ∈ s.tables.live .product, old.id = p.id)
      (links : (s.after next).tables.linksOf p.id = s.tables.linksOf p.id) :
      ∃ old ∈ s.tables.live .product, old.id = p.id ∧
        (s.after next).tables.composition p.id = s.tables.composition p.id := by
    rcases old with ⟨old, oldAlive, same⟩
    refine ⟨old, oldAlive, same, ?_⟩
    exact (continues_after reachable next).composition_eq reachable.sound.conforms
      reachable.numbered (reachable.after next).numbered links
  rcases s.after_cases next with
    ⟨live, _⟩ | ⟨c, fresh, r, request, rfl, served⟩ | ⟨c, command, other, ended⟩
  · refine .inl (kept ⟨p, live .product (by decide) ▸ alive, rfl⟩ ?_)
    rw [Tables.linksOf, Tables.linksOf, live .link (by decide)]
  · rcases Http.creates_or_tables_eq reachable c fresh served with
      same | ⟨view, links, creates, gains, composed⟩
    · have same : (s.after (.served c fresh r)).tables = s.tables := same
      exact .inl (kept ⟨p, same ▸ alive, rfl⟩ (congrArg (Tables.linksOf · p.id) same))
    · have gains : s.tables.Gains (view.tables links) (s.after (.served c fresh r)).tables := gains
      rw [gains.live_eq] at alive
      rcases List.mem_append.mp alive with old | new
      · exact .inl (kept ⟨p, old, rfl⟩ (gains.linksOf_eq composed old))
      · rcases List.mem_map.mp new with ⟨created, shown, rfl⟩
        refine .inr ⟨c, fresh, r, request.val, view, created, rfl, creates, shown, rfl, ?_,
          composed.onePerOption shown⟩
        exact composed.applicableOptions_eq gains reachable.owned
          (reachable.after (.served c fresh r)).numbered shown
  · rw [ended] at alive
    rcases command.linksOf_eq other reachable c p alive with ⟨old, links⟩
    exact .inl (kept old ((congrArg (·.tables.linksOf p.id) ended).trans links))

/-- A live product goes back to the request that created it, and is made of what it was made of
then. -/
theorem composition_of_created (queueCapacity : Nat) (history : List Happening) :
    ∀ p ∈ (since queueCapacity history).tables.live .product, ∃ c request view created,
      Created queueCapacity history c request view ∧ created ∈ view.products ∧
      created.product.id = p.id ∧
      (since queueCapacity history).tables.composition p.id =
        created.applicableOptions.map (fun v => (v.optionId, v.id)) ∧
      List.Forall₂ (fun option value => value.optionId = option.option.id) view.options
        created.applicableOptions := by
  induction history with
  | nil => exact List.forall_mem_nil _
  | cons latest earlier inductionHypothesis =>
    intro p alive
    have reachable := since_reachable queueCapacity earlier
    rcases composition_after reachable latest p alive with
      ⟨old, oldAlive, same, kept⟩ |
      ⟨c, fresh, r, request, view, created, rfl, creates, shown, rfl, values, onePerOption⟩
    · rcases inductionHypothesis old oldAlive with
        ⟨c, request, view, created, goesBack, shown, number, made, onePerOption⟩
      rw [same] at number made
      exact ⟨c, request, view, created, goesBack.before latest, shown, number, kept.trans made,
        onePerOption⟩
    · refine ⟨c, request, view, created, .now creates, shown, rfl, ?_, onePerOption⟩
      exact congrArg (List.map fun v : OptionValue => (v.optionId, v.id)) values

/-- What a product is made of is settled when it is created.  As long as it is live, it shows the
values that the request for its root was answered with, in the same order, one for each option that
the root had then; every reading that shows a product shows a live one so.  And a product gets
another SKU only by a request to change it that names the new one, which succeeds unless a statement
is made to fail. -/
theorem since_compositions (queueCapacity : Nat) (history : List Happening) :
    let s := since queueCapacity history
    (∀ p ∈ s.tables.live .product, ∃ c request view created,
      Created queueCapacity history c request view ∧ created ∈ view.products ∧
      created.product.id = p.id ∧
      (s.tables.productView p).applicableOptions.map (·.id) =
        created.applicableOptions.map (·.id) ∧
      List.Forall₂ (fun option value => value.optionId = option.option.id) view.options
        created.applicableOptions) ∧
    (∀ r segments, r.Asks .get segments → ∀ c fresh, c.Undisturbed → ∀ objects,
      (Http.serve c fresh s r).1.products? segments = some objects → ∀ object ∈ objects,
        ∃ p ∈ s.tables.live .product, object = (s.tables.productView p).toJson) ∧
    ∀ next, ∀ p ∈ s.tables.live .product, ∀ p' ∈ (s.after next).tables.live .product,
      p'.id = p.id → p'.sku ≠ p.sku → ∃ c fresh r part patch, next = .served c fresh r ∧
        r.Asks .patch ["product", part] ∧ Http.readText "sku" part = .ok p.sku ∧
        r.readBody ProductPatch.reader = .ok patch ∧ patch.sku = some p'.sku ∧
        (c.Undisturbed → (Http.serve c fresh s r).1.status = 200) := by
  intro s
  have reachable : Reachable s := since_reachable queueCapacity history
  refine ⟨fun p alive => ?_, ?_, ?_⟩
  · rcases composition_of_created queueCapacity history p alive with
      ⟨c, request, view, created, goesBack, shown, number, made, onePerOption⟩
    refine ⟨c, request, view, created, goesBack, shown, number, ?_, onePerOption⟩
    have numbers := congrArg (List.map Prod.snd) made
    rwa [Tables.composition, List.map_map, List.map_map] at numbers
  · intro r segments asks c fresh undisturbed objects shown
    exact Http.live_of_products? reachable undisturbed asks shown
  · intro next p alive p' alive' same different
    cases next with
    | served c fresh r =>
      rcases Http.changes_of_sku_ne reachable alive alive' same different with
        ⟨part, patch, changed⟩
      exact ⟨c, fresh, r, part, patch, rfl, changed⟩
    | delivered c answered d event =>
      have rows := (Service.dispatch_within answered d event c (.start s)).rows_eq
        (k := .product) fun e may => by simp [List.mem_singleton.mp may, Effect.kind?]
      have member : p' ∈ s.tables.rows .product := rows ▸ (Tables.mem_live.mp alive').1
      exact absurd (reachable.numbered.sku_eq (Tables.mem_live.mp alive).1 member same) different

/-- The history of a shirt whose first value was renamed before its only option was archived. -/
def sizelessHistory : List Happening :=
  [.served (.calm ⟨120, 0⟩) "gone" (Http.archiveRequest "/v1/product_options/1"),
    .served (.calm ⟨60, 0⟩) "tiny" Http.tinyRequest,
    .served (.calm ⟨0, 0⟩) "shirt" Http.shirtRequest]

def shortening : Happening := .served (.calm ⟨180, 0⟩) "short" Http.shortRequest

theorem sizelessHistory_skus :
    let s := since 16 sizelessHistory
    let s' := s.after shortening
    s'.tables.live .value = [] ∧
      (s.tables.live .product).map (fun p => (p.id, p.sku)) = [(1, "shirt_s"), (2, "shirt_m")] ∧
      (s'.tables.live .product).map (fun p => (p.id, p.sku)) =
        [(1, "shirt_short"), (2, "shirt_m")] ∧
      (s'.tables.linkedValues 1).map (·.value) = ["xs"] := by
  simp only [sizelessHistory, shortening, since, after, Http.serve, Http.answer,
    Http.Request.command, Http.servedAt_eq]
  decide +kernel

/-- The small shirt gets another SKU by the request that names it, which succeeds.  No value is live
then, and it still shows the one that it was created with, by the name that this has now. -/
theorem since_compositions_shirt :
    let s := since 16 sizelessHistory
    let s' := s.after shortening
    ∃ p ∈ s.tables.live .product, ∃ p' ∈ s'.tables.live .product,
      p'.id = p.id ∧ p.sku = "shirt_s" ∧ p'.sku = "shirt_short" ∧
      s'.tables.live .value = [] ∧
      (s'.tables.productView p').applicableOptions.map (·.value) = ["xs"] ∧
      (∃ c request view created, Created 16 (shortening :: sizelessHistory) c request view ∧
        created ∈ view.products ∧ created.product.id = p'.id ∧
        (s'.tables.productView p').applicableOptions.map (·.id) =
          created.applicableOptions.map (·.id)) ∧
      ∃ patch, Http.shortRequest.readBody ProductPatch.reader = .ok patch ∧
        patch.sku = some "shirt_short" ∧
        (Http.serve (.calm ⟨180, 0⟩) "short" s Http.shortRequest).1.status = 200 := by
  intro s s'
  rcases sizelessHistory_skus with ⟨valueless, skus, skus', linked⟩
  rcases List.map_eq_cons_iff.mp skus with ⟨p, rest, products, names, _⟩
  rcases List.map_eq_cons_iff.mp skus' with ⟨p', rest', products', names', _⟩
  rcases Prod.mk.inj names with ⟨number, named⟩
  rcases Prod.mk.inj names' with ⟨number', named'⟩
  have alive : p ∈ s.tables.live .product := products ▸ List.mem_cons_self
  have alive' : p' ∈ s'.tables.live .product := products' ▸ List.mem_cons_self
  have same : p'.id = p.id := number'.trans number.symm
  have different : p'.sku ≠ p.sku := by
    rw [named, named']
    decide
  have shown : (s'.tables.productView p').applicableOptions.map (·.value) = ["xs"] := by
    rcases List.map_eq_singleton_iff.mp linked with ⟨value, single, called⟩
    change (s'.tables.applicableOptions p'.id).map (·.value) = _
    rw [number', Tables.applicableOptions, single, List.mergeSort_singleton, List.map_singleton,
      called]
  rcases (since_compositions 16 (shortening :: sizelessHistory)).1 p' alive' with
    ⟨c, request, view, created, goesBack, among, own, values, _⟩
  rcases (since_compositions 16 sizelessHistory).2.2 shortening p alive p' alive' same different with
    ⟨_, _, _, _, patch, happened, _, _, body, given, succeeds⟩
  cases happened
  exact ⟨p, alive, p', alive', same, named, named', valueless, shown,
    ⟨c, request, view, created, goesBack, among, own, values⟩, patch, body, named' ▸ given,
    succeeds fun _ => rfl⟩

end Session
end Shop
