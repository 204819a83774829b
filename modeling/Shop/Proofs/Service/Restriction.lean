import Shop.Proofs.Http.Asking
import Shop.Proofs.Service.LiveSkus
import Shop.Proofs.Variant.Sku

/-!
# Restricted SKUs

SKUs are to be made of one to fifty letters, hyphens and underscores.  This is checked of the prefix
of a new root and of the SKU that a change gives to a product.  The SKUs of the products of a new
root are derived from its prefix and the values of its options, and nobody checks what comes out.

So the SKUs of live products stay restricted exactly as long as the values of every new root fit
behind its prefix.  Where they do, no product is refused its own SKU in a change.
-/

namespace Shop

/-! ## Derived SKUs -/

namespace Variant

/-- Fragments that give a SKU behind a prefix: they consist of characters of SKUs, and all of them
with their underscores leave it within the length of a SKU. -/
def Fits (base : String) (fragments : List String) : Prop :=
  (∀ fragment ∈ fragments, fragment.toList.all Rule.isSkuChar = true) ∧
    base.toList.length + (fragments.map (·.toList.length + 1)).sum ≤ Rule.maxSkuLength

instance (base : String) (fragments : List String) : Decidable (Fits base fragments) :=
  inferInstanceAs (Decidable (_ ∧ _))

theorem isSku_joinSku_iff {base : String} (isBase : Rule.isSku base = true)
    {fragments : List String} :
    Rule.isSku (joinSku base fragments) = true ↔ Fits base fragments := by
  simp only [Rule.isSku, Bool.and_eq_true, decide_eq_true_eq, List.all_eq_true] at isBase ⊢
  rcases isBase with ⟨⟨filled, _⟩, characters⟩
  have length : (joinSku base fragments).toList.length =
      base.toList.length + (fragments.map (·.toList.length + 1)).sum := by
    simp only [toList_joinSku, List.length_append, List.length_flatMap, List.length_cons]
  have behind : (∀ c ∈ (joinSku base fragments).toList, Rule.isSkuChar c = true) ↔
      ∀ fragment ∈ fragments, fragment.toList.all Rule.isSkuChar = true := by
    rw [toList_joinSku, List.forall_mem_append, and_iff_right characters]
    simp only [List.mem_flatMap, forall_exists_index, and_imp, List.all_eq_true]
    constructor
    · exact fun all fragment member c inside => all c fragment member (List.mem_cons_of_mem _ inside)
    · intro all c fragment member inside
      rcases List.mem_cons.mp inside with rfl | inside
      · rfl
      · exact all fragment member c inside
  rw [length, behind]
  unfold Fits
  constructor
  · rintro ⟨⟨_, short⟩, all⟩
    exact ⟨all, short⟩
  · rintro ⟨all, short⟩
    exact ⟨⟨by omega, short⟩, all⟩

end Variant

/-- The values of options that were made for a request are, lowercased, its fragments. -/
theorem OptionView.fragments_of_madeFrom {rootId : Int} {inputs : List OptionInput}
    {views : List OptionView} (made : List.Forall₂ (OptionView.MadeFrom rootId) inputs views) :
    inputs.map (fun input => input.values.map Text.lowercase) =
      (views.map (·.values)).map (List.map fun value => Text.lowercase value.value) := by
  induction made with
  | nil => rfl
  | cons first _ inductionHypothesis =>
    rw [List.map_cons, inductionHypothesis, ← first.values, List.map_map]
    rfl

namespace RootView.ComposedFrom

variable {kept : Listing → Listing} {request : RootRequest} {now : Instant} {view : RootView}
variable {links : List VariantLink}

/-- The products show the choices of one value from each option, in their order. -/
theorem applicableOptions_eq_choices (composed : view.ComposedFrom kept request now links) :
    view.products.map (·.applicableOptions) = Variant.choices (view.options.map (·.values)) := by
  rcases composed.choices with ⟨places, all, rising, chosen⟩
  -- Positions that are listed in their order are listed in one way only.
  have same : places = Variant.places request.optionSizes := by
    refine List.Perm.eq_of_pairwise ?_ rising (Variant.places_pairwise_lt _) ?_
    · exact fun _ _ _ _ less more => absurd less (lt_asymm more)
    · refine (List.perm_ext_iff_of_nodup (rising.imp ne_of_lt)
        ((Variant.places_pairwise_lt _).imp ne_of_lt)).mpr fun place => ?_
      rw [all, Variant.mem_places_iff]
  have sizes : (view.options.map (·.values)).map List.length = request.optionSizes :=
    Creation.sizes_of_madeFrom composed.options
  have shown : (view.products.map (·.applicableOptions)).map (List.map some) =
      (Variant.choices (view.options.map (·.values))).map (List.map some) := by
    rw [← Variant.map_zipWith_places, sizes, ← same, List.map_map]
    refine chosen.trans (List.map_congr_left fun place _ => ?_)
    exact List.zipWith_map_left.symm
  exact List.map_injective_iff.mpr (List.map_injective_iff.mpr (Option.some_injective _)) shown

/-- The SKUs of the products are the prefix joined with each choice of lowercased values. -/
theorem skus_eq (composed : view.ComposedFrom kept request now links) :
    view.products.map (·.product.sku) =
      (Variant.choices request.fragments).map (Variant.joinSku request.sku) := by
  have lowered : request.fragments =
      (view.options.map (·.values)).map (List.map fun value => Text.lowercase value.value) :=
    OptionView.fragments_of_madeFrom composed.options
  rw [lowered, Variant.choices_map, ← composed.applicableOptions_eq_choices, List.map_map,
    List.map_map]
  refine List.map_congr_left fun product member => ?_
  rw [(composed.products product member).sku, composed.skuPrefix]
  rfl

end RootView.ComposedFrom

/-! ## What is checked -/

theorem RootRequest.accepted_sku {request : RootRequest}
    (accepted : request.problems.isEmpty = true) : Rule.isSku request.sku = true := by
  have entries := List.isEmpty_iff.mp accepted
  simp only [problems, Problems.entries, List.append_eq_nil_iff] at entries
  have passed := Problems.check_eq_nil_iff.mp entries.1.1.2
  unfold Rule.sku at passed
  split at passed
  · assumption
  · cases passed

/-- A SKU that is one adds no problem to a change. -/
theorem ProductPatch.problems_withSku (patch : ProductPatch) {sku : String}
    (restricted : Rule.isSku sku = true) :
    ({ patch with sku := some sku } : ProductPatch).problems =
      ({ patch with sku := none } : ProductPatch).problems := by
  have passed : Rule.sku sku = none := if_pos restricted
  simp only [problems, Problems.checkSome, Option.bind_some, Option.bind_none, passed]

theorem ProductPatch.accepted_sku {patch : ProductPatch}
    (accepted : patch.problems.isEmpty = true) {sku : String} (new : patch.sku = some sku) :
    Rule.isSku sku = true := by
  have entries := List.isEmpty_iff.mp accepted
  simp only [problems, Problems.entries, List.append_eq_nil_iff, Problems.checkSome] at entries
  have passed := Problems.check_eq_nil_iff.mp entries.1.2
  rw [new, Option.bind_some] at passed
  unfold Rule.sku at passed
  split at passed
  · assumption
  · cases passed

/-! ## What commands make of restricted SKUs -/

/-- A command that leaves all SKUs restricted: the values of a new root fit behind its prefix. -/
def Command.KeepsSkus : Command → Prop
  | .createRoot request =>
    ∀ choice ∈ Variant.choices request.val.fragments, Variant.Fits request.val.sku choice
  | _ => True

theorem restrictionLaw :
    Law (Tables.LiveSkus fun sku => Rule.isSku sku = true) fun _ _ command => command.KeepsSkus where
  starts := .empty
  said t t' same := .of_rows_eq (same .product (by decide))
  command := by
    intro s reachable holds c command
    cases command with
    | createRoot request =>
      refine Service.createRoot_kept_iff reachable.numbered holds
        fun view links after gains composed => ?_
      have restricted := RootRequest.accepted_sku request.property
      rw [gains.eq_append, Tables.LiveSkus.append_iff, and_iff_right holds]
      calc
        (view.tables links).LiveSkus (fun sku => Rule.isSku sku = true) ↔
            ∀ sku ∈ view.products.map (·.product.sku), Rule.isSku sku = true := by
          have alive : (view.tables links).live .product = view.products.map (·.product) :=
            List.filter_eq_self.mpr (gains.live .product)
          unfold Tables.LiveSkus
          rw [alive, List.forall_mem_map, List.forall_mem_map]
        _ ↔ ∀ choice ∈ Variant.choices request.val.fragments,
            Rule.isSku (Variant.joinSku request.val.sku choice) = true := by
          rw [composed.skus_eq, List.forall_mem_map]
          rfl
        _ ↔ (Command.createRoot request).KeepsSkus :=
          forall₂_congr fun _ _ => Variant.isSku_joinSku_iff restricted
    | changeProduct sku patch =>
      refine iff_of_true ?_ fun _ => trivial
      rw [Action.serve_snd]
      refine Service.changeProduct_maintains (fun _ _ new => ?_) c (.start s) holds
      exact ProductPatch.accepted_sku patch.property new
    | _ =>
      refine iff_of_true (fun p alive => holds p ?_) fun _ => trivial
      exact (Command.live_sublist _ c s (by decide) rfl).subset alive

/-- Whether the prefixes of all live roots are restricted. -/
def Tables.PrefixesRestricted (t : Tables) : Prop :=
  ∀ root ∈ t.live .root, Rule.isSku root.skuPrefix = true

/-- Prefixes are checked, and stay as they are. -/
theorem prefixLaw : Law Tables.PrefixesRestricted fun _ _ _ => True where
  starts := List.forall_mem_nil _
  said := by
    intro t t' same holds
    unfold Tables.PrefixesRestricted Tables.live
    rw [same .root (by decide)]
    exact holds
  command := by
    intro s reachable holds c command
    cases command with
    | createRoot request =>
      refine Service.createRoot_kept_iff reachable.numbered holds
        fun view links after gains composed => iff_of_true ?_ trivial
      unfold Tables.PrefixesRestricted
      rw [gains.eq_append, Tables.live_append, List.forall_mem_append]
      refine ⟨holds, fun root alive => ?_⟩
      rw [List.mem_singleton.mp (Tables.mem_live.mp alive).1, composed.skuPrefix]
      exact RootRequest.accepted_sku request.property
    | _ =>
      refine iff_of_true (fun root alive => holds root ?_) fun _ => trivial
      exact (Command.live_sublist _ c s (by decide) rfl).subset alive

/-! ## Every reachable session -/

/-- Whatever was asked for before, the prefixes of all live roots are restricted. -/
theorem Reachable.prefixes_restricted {s : Session} (reachable : Reachable s) :
    ∀ root ∈ s.tables.live .root, Rule.isSku root.skuPrefix = true :=
  prefixLaw.holds (reachable.reachedBy fun _ _ _ => trivial)

/-- In every session to which commands lead that keep SKUs restricted, those of all live products
are, as the prefixes of all live roots are anyway.  A change of a product that names its own SKU is
then understood as one without it would be.  A further request leaves the SKUs restricted exactly if
it fails, or keeps them so too. -/
theorem ReachableBy.liveSkus_restricted {s : Session}
    (reached : ReachableBy (fun _ _ command => command.KeepsSkus) s) :
    (∀ root ∈ s.tables.live .root, Rule.isSku root.skuPrefix = true) ∧
    (∀ p ∈ s.tables.live .product, Rule.isSku p.sku = true) ∧
    (∀ p ∈ s.tables.live .product, ∀ part r, Http.Request.Asks r .patch ["product", part] →
      Http.readText "sku" part = .ok p.sku → ∀ patch, r.readBody ProductPatch.reader = .ok patch →
        patch.sku = some p.sku →
        ({ patch with sku := none } : ProductPatch).problems.isEmpty = true →
          ∃ accepted, r.command = .ok (.changeProduct p.sku ⟨patch, accepted⟩)) ∧
    ∀ c fresh r, (∀ p ∈ (Http.serve c fresh s r).2.tables.live .product,
        Rule.isSku p.sku = true) ↔
      ∀ command, r.served? = some command → (Http.serve c fresh s r).1.status < 400 →
        command.KeepsSkus := by
  have restricted := restrictionLaw.holds reached
  refine ⟨reached.reachable.prefixes_restricted, restricted, ?_,
    restrictionLaw.serve_iff reached.reachable restricted⟩
  intro p alive part r asks named patch read own others
  have same : { patch with sku := some p.sku } = patch := by rw [← own]
  have accepted : patch.problems.isEmpty = true := by
    rw [← same, ProductPatch.problems_withSku patch (restricted p alive)]
    exact others
  refine ⟨accepted, ?_⟩
  rw [asks.command rfl, named, Http.Request.accept, read]
  simp only [accepted, dif_pos]
  rfl

namespace Http

/-- The values of the shirt fit behind its prefix. -/
theorem shirtRequest_fits : shirtRequest.served?.any (fun
    | .createRoot request => decide (∀ choice ∈ Variant.choices request.val.fragments,
        Variant.Fits request.val.sku choice)
    | _ => false) = true := by
  simp only [Request.served?, Request.command, servedAt_eq]
  decide +kernel

end Http

/-- The shirt keeps SKUs restricted, so those of both its sizes are. -/
theorem ReachableBy.liveSkus_restricted_shirt :
    let s := (Http.serve (.calm ⟨0, 0⟩) "shirt" (.start 16) Http.shirtRequest).2
    (s.tables.live .product).map (·.sku) = ["shirt_s", "shirt_m"] ∧
      ∀ p ∈ s.tables.live .product, Rule.isSku p.sku = true := by
  intro s
  have reached : ReachableBy (fun _ _ command => command.KeepsSkus) s := by
    refine .serve (.start 16) (.calm ⟨0, 0⟩) "shirt" Http.shirtRequest fun command served _ => ?_
    have fitting := Http.shirtRequest_fits
    rw [served] at fitting
    cases command with
    | createRoot request =>
      have fits : ∀ choice ∈ Variant.choices request.val.fragments,
          Variant.Fits request.val.sku choice := of_decide_eq_true fitting
      exact fits
    | _ => cases fitting
  exact ⟨Http.shirtRequest_skus, reached.liveSkus_restricted.2.1⟩

namespace Http

/-- A request to create the root of a shirt whose size is a number. -/
def numberRequest : Request :=
  jsonRequest .post "/v1/product"
    ("\x7b\"name\": \"Shirt\", \"sku\": \"shirt\", \"options\": [" ++
      "\x7b\"name\": \"size\", \"values\": [\"10\"]\x7d]\x7d")

/-- A request that the shirt of this size keep its SKU. -/
def keepRequest : Request :=
  jsonRequest .patch "/v1/product/shirt_10" "\x7b\"sku\": \"shirt_10\"\x7d"

end Http

/-- The shirt of size ten is live with a SKU that is no longer one when the shirt is to keep it. -/
theorem Reachable.liveSkus_unrestricted :
    let s := (Http.serve (.calm ⟨0, 0⟩) "shirt" (.start 16) Http.numberRequest).2
    Reachable s ∧ (s.tables.live .product).map (·.sku) = ["shirt_10"] ∧
      Rule.isSku "shirt_10" = false ∧
      (Http.serve (.calm ⟨60, 0⟩) "keep" s Http.keepRequest).1.status = 400 := by
  refine ⟨.serve (.start 16) _ _ _, ?_, by decide, ?_⟩
  · simp only [Http.serve, Http.answer, Http.Request.command, Http.servedAt_eq]
    decide +kernel
  · simp only [Http.serve, Http.answer, Http.Request.command, Http.servedAt_eq]
    decide +kernel

end Shop
