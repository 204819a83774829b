import Mathlib.Data.List.Sort
import Shop.Proofs.Store.Grouping
import Shop.Proofs.Store.Keys
import Shop.Proofs.Store.Numbering
import Shop.Store.Catalog

/-!
# Views of tables

What is shown of a product or root is put together from several tables.  A product shows the join of
its live links with the values, in the order of options and values; a root shows the live rows that
belong to it.

What several products or options show is looked up at once and handed out to them.  Each of them is
given what it shows by itself, since their numbers are distinct.
-/

namespace Shop
namespace Tables

/-- The values that a product is linked to by live links, in the order of the links. -/
def linkedValues (t : Tables) (productId : Int) : List OptionValue :=
  ((t.live .link).filter (·.productId == productId)).filterMap fun link =>
    t.values.find? (·.id == link.valueId)

def applicableOptions (t : Tables) (productId : Int) : List OptionValue :=
  (t.linkedValues productId).mergeSort valueOrder

def productView (t : Tables) (p : Product) : ProductView := ⟨p, t.applicableOptions p.id⟩

def optionView (t : Tables) (o : ProductOption) : OptionView :=
  ⟨o, (t.live .value).filter (·.optionId == o.id)⟩

/-- The live products of a root. -/
def productsOf (t : Tables) (rootId : Int) : List Product :=
  (t.live .product).filter (·.rootId == rootId)

/-- A root as it is shown by itself. -/
def rootView (t : Tables) (root : ProductRoot) : RootView where
  root
  options := ((t.live .option).filter (·.rootId == root.id)).map t.optionView
  images := (t.live .image).filter (·.rootId == root.id)
  products := (t.productsOf root.id).map t.productView

def rootSummary (t : Tables) (root : ProductRoot) : RootSummary :=
  ⟨root, (t.productsOf root.id).map t.productView⟩

/-! ## Finding rows -/

/-- A search finds the one element that it is for. -/
theorem find?_of_unique {α : Type} {picks : α → Bool} {l : List α} {a : α} (member : a ∈ l)
    (picked : picks a = true) (unique : ∀ b ∈ l, picks b = true → b = a) :
    l.find? picks = some a := by
  cases found : l.find? picks with
  | none => exact absurd picked (List.find?_eq_none.mp found a member)
  | some b => rw [unique b (List.mem_of_find?_eq_some found) (List.find?_some found)]

/-- Where no two elements have one number, a search by number finds all elements of this number. -/
theorem filter_number {α : Type} {number : α → Int} {l : List α} (distinct : (l.map number).Nodup)
    (n : Int) : l.filter (number · == n) = (l.find? (number · == n)).toList := by
  induction l with
  | nil => rfl
  | cons a l inductionHypothesis =>
    rcases List.nodup_cons.mp distinct with ⟨fresh, distinct⟩
    rw [List.filter_cons, List.find?_cons]
    cases picked : number a == n with
    | false => exact inductionHypothesis distinct
    | true =>
      have others : l.filter (number · == n) = [] := by
        refine List.filter_eq_nil_iff.mpr fun b member same => fresh ?_
        rw [beq_iff_eq.mp picked, ← beq_iff_eq.mp same]
        exact List.mem_map_of_mem member
      simp [others]

variable {t : Tables} {drawn : Sequences}

theorem Numbered.distinct (numbered : t.Numbered drawn) (k : Kind) :
    ((t.rows k).map k.number).Nodup :=
  (numbered.rising k).imp Int.ne_of_lt

/-- Live rows of distinct numbers, chosen from a table in its order. -/
theorem Numbered.distinct_of_sublist (numbered : t.Numbered drawn) {k : Kind} {chosen : List k.Row}
    (live : chosen.Sublist (t.live k)) : (chosen.map k.number).Nodup :=
  (numbered.distinct k).sublist ((live.trans List.filter_sublist).map _)

theorem Numbered.live_nodup (numbered : t.Numbered drawn) (k : Kind) : (t.live k).Nodup :=
  (numbered.distinct k).of_map.filter _

theorem Numbered.find?_live (numbered : t.Numbered drawn) {k : Kind} {row : k.Row}
    (alive : row ∈ t.live k) : (t.live k).find? (k.number · == k.number row) = some row :=
  find?_of_unique alive (beq_self_eq_true _) fun _ member same =>
    numbered.eq_of_number (mem_live.mp member).1 (mem_live.mp alive).1 (beq_iff_eq.mp same)

/-- A SKU finds the one live product that has it. -/
theorem Numbered.find?_sku (numbered : t.Numbered drawn) (unclashed : t.Unclashed)
    {product : Product} (alive : product ∈ t.live .product) :
    (t.live .product).find? (·.sku == product.sku) = some product := by
  refine find?_of_unique alive (beq_self_eq_true _) fun other member same => ?_
  have number := unclashed.number_eq (k := .product) member alive same
  exact numbered.eq_of_number (k := .product) (mem_live.mp member).1 (mem_live.mp alive).1 number

/-! ## The values of a product -/

/-- The values that live links join to a product. -/
def joinedValues (t : Tables) (productId : Int) : List OptionValue :=
  (t.live .link).flatMap fun link =>
    (t.rows .value).filter fun v => link.productId == productId && v.id == link.valueId

theorem linkedValues_eq_joinedValues (numbered : t.Numbered drawn) (productId : Int) :
    t.linkedValues productId = t.joinedValues productId := by
  have found (n : Int) : t.values.filter (·.id == n) = (t.values.find? (·.id == n)).toList :=
    filter_number (numbered.distinct .value) n
  unfold linkedValues joinedValues
  induction t.live .link with
  | nil => rfl
  | cons link links inductionHypothesis =>
    rw [List.flatMap_cons, ← inductionHypothesis, List.filter_cons]
    cases mine : link.productId == productId with
    | false => simp
    | true =>
      simp only [Bool.true_and, if_true, List.filterMap_cons]
      change _ = t.values.filter (·.id == link.valueId) ++ _
      rw [found]
      cases t.values.find? (·.id == link.valueId) <;> rfl

theorem valueOrder_iff {v w : OptionValue} :
    valueOrder v w = true ↔ v.optionId < w.optionId ∨ v.optionId = w.optionId ∧ v.id ≤ w.id := by
  simp [valueOrder]

theorem applicableOptions_perm (numbered : t.Numbered drawn) (productId : Int) :
    (t.applicableOptions productId).Perm (t.joinedValues productId) := by
  rw [← linkedValues_eq_joinedValues numbered]
  exact List.mergeSort_perm _ _

theorem valueOrder_trans (u v w : OptionValue) (first : valueOrder u v = true)
    (second : valueOrder v w = true) : valueOrder u w = true := by
  rw [valueOrder_iff] at *
  omega

theorem valueOrder_total (v w : OptionValue) : (valueOrder v w || valueOrder w v) = true := by
  rw [Bool.or_eq_true, valueOrder_iff, valueOrder_iff]
  omega

theorem applicableOptions_ordered (t : Tables) (productId : Int) :
    (t.applicableOptions productId).Pairwise fun v w => valueOrder v w = true :=
  List.pairwise_mergeSort valueOrder_trans valueOrder_total _

theorem applicableOptions_pairwise (t : Tables) (productId : Int) :
    (t.applicableOptions productId).Pairwise fun v w =>
      v.optionId < w.optionId ∨ v.optionId = w.optionId ∧ v.id ≤ w.id :=
  (t.applicableOptions_ordered productId).imp valueOrder_iff.mp

/-! ## Values of several products or options -/

/-- Values that stand in one order are the same, since no two of them have one number. -/
theorem Numbered.eq_of_ordered (numbered : t.Numbered drawn) {found own : List OptionValue}
    (foundOrdered : found.Pairwise fun v w => valueOrder v w = true)
    (ownOrdered : own.Pairwise fun v w => valueOrder v w = true) (same : found.Perm own)
    (stored : ∀ v ∈ own, v ∈ t.rows .value) : found = own := by
  refine List.Perm.eq_of_pairwise (fun v w member otherMember before after => ?_) foundOrdered
    ownOrdered same
  refine numbered.eq_of_number (k := .value) (stored v (same.subset member)) (stored w otherMember)
    ?_
  rw [valueOrder_iff] at before after
  change v.id = w.id
  omega

theorem linkedOrder_iff {a b : Int × OptionValue} :
    linkedOrder a b = true ↔ a.1 < b.1 ∨ a.1 = b.1 ∧ valueOrder a.2 b.2 = true := by
  simp [linkedOrder]

theorem linkedRows_ordered (t : Tables) (productIds : List Int) :
    (t.linkedRows productIds).Pairwise fun a b => linkedOrder a b = true := by
  refine List.pairwise_mergeSort (fun a b c first second => ?_) (fun a b => ?_) _
  · rw [linkedOrder_iff] at *
    rcases first with less | ⟨same, before⟩
    · omega
    · rcases second with less | ⟨same', before'⟩
      · omega
      · exact .inr ⟨same.trans same', valueOrder_trans _ _ _ before before'⟩
  · rw [Bool.or_eq_true, linkedOrder_iff, linkedOrder_iff]
    have total := valueOrder_total a.2 b.2
    rw [Bool.or_eq_true] at total
    rcases Int.lt_trichotomy a.1 b.1 with less | same | less
    · exact .inl (.inl less)
    · exact total.imp (fun before => .inr ⟨same, before⟩) fun after => .inr ⟨same.symm, after⟩
    · exact .inr (.inl less)

/-- Values that stand beside a product are found under its number alone. -/
theorem filter_beside (number n : Int) (values : List OptionValue) :
    ((values.map fun v => (number, v)).filter (·.1 == n)).map Prod.snd =
      values.filter fun _ => number == n := by
  rw [List.filter_map, List.map_map]
  exact List.map_id _

/-- Among the joined rows of several products, those of one product are its own join. -/
theorem linkedRows_perm (t : Tables) {productIds : List Int} {productId : Int}
    (asked : productId ∈ productIds) :
    (((t.linkedRows productIds).filter (·.1 == productId)).map Prod.snd).Perm
      (t.joinedValues productId) := by
  refine (((List.mergeSort_perm _ _).filter _).map _).trans (.of_eq ?_)
  rw [List.filter_flatMap, List.map_flatMap]
  simp only [filter_beside, List.filter_filter]
  unfold joinedValues
  induction t.live .link with
  | nil => rfl
  | cons link links inductionHypothesis =>
    rw [List.flatMap_cons, ← inductionHypothesis, List.filter_cons]
    cases wanted : productIds.contains link.productId with
    | true => exact List.flatMap_cons
    | false =>
      have other : (link.productId == productId) = false := by
        refine beq_eq_false_iff_ne.mpr fun same => ?_
        rw [same, List.contains_iff_mem.mpr asked] at wanted
        cases wanted
      simp [other]

/-- The rows of one product, among those that were looked up for several, are what it shows. -/
theorem linkedRows_filter (numbered : t.Numbered drawn) {productIds : List Int} {productId : Int}
    (asked : productId ∈ productIds) :
    ((t.linkedRows productIds).filter (·.1 == productId)).map Prod.snd =
      t.applicableOptions productId := by
  have joined := applicableOptions_perm numbered productId
  refine numbered.eq_of_ordered ?_ (t.applicableOptions_ordered productId)
    ((t.linkedRows_perm asked).trans joined.symm) fun v shown => ?_
  · rw [List.pairwise_map, List.pairwise_filter]
    refine (t.linkedRows_ordered productIds).imp fun {a b} before mine mine' => ?_
    rcases linkedOrder_iff.mp before with less | ⟨_, before⟩
    · rw [beq_iff_eq.mp mine, beq_iff_eq.mp mine'] at less
      exact absurd less (Int.lt_irrefl _)
    · exact before
  · rcases List.mem_flatMap.mp (joined.subset shown) with ⟨link, _, found⟩
    exact (List.mem_filter.mp found).1

/-- The live values of an option stand in the order of their numbers. -/
theorem Numbered.values_ordered (numbered : t.Numbered drawn) (optionId : Int) :
    ((t.live .value).filter (·.optionId == optionId)).Pairwise fun v w => valueOrder v w = true := by
  have rising : (t.rows .value).Pairwise fun v w => v.id < w.id :=
    List.pairwise_map.mp (numbered.rising .value)
  refine List.pairwise_filter.mpr ((rising.filter _).imp fun {v w} less mine mine' => ?_)
  rw [valueOrder_iff, beq_iff_eq.mp mine, beq_iff_eq.mp mine']
  exact .inr ⟨rfl, Int.le_of_lt less⟩

/-- The values of one option, among those that were looked up for several, are what it shows. -/
theorem valueRows_filter (numbered : t.Numbered drawn) {optionIds : List Int} {optionId : Int}
    (asked : optionId ∈ optionIds) :
    (t.valueRows optionIds).filter (·.optionId == optionId) =
      (t.live .value).filter (·.optionId == optionId) := by
  refine numbered.eq_of_ordered ?_ (numbered.values_ordered optionId) ?_ fun v own =>
    (mem_live.mp (List.mem_filter.mp own).1).1
  · exact (List.pairwise_mergeSort valueOrder_trans valueOrder_total _).filter _
  · refine ((List.mergeSort_perm _ _).filter _).trans (.of_eq ?_)
    rw [List.filter_filter]
    refine List.filter_congr fun v _ => ?_
    cases mine : v.optionId == optionId with
    | false => exact Bool.false_and _
    | true =>
      rw [Bool.true_and, beq_iff_eq.mp mine]
      exact List.contains_iff_mem.mpr asked

/-- Products that are looked up together show what each shows by itself. -/
theorem productViews_eq (numbered : t.Numbered drawn) {products : List Product}
    (distinct : (products.map (·.id)).Nodup) :
    t.productViews products = products.map t.productView := by
  refine (Groups.handOut_ofRows distinct _ _ _).trans (List.map_congr_left fun p member => ?_)
  exact congrArg (ProductView.mk p) (linkedRows_filter numbered (List.mem_map_of_mem member))

theorem productViews_single (numbered : t.Numbered drawn) (product : Product) :
    t.productViews [product] = [t.productView product] :=
  productViews_eq numbered (List.nodup_singleton _)

/-- Options that are looked up together show what each shows by itself. -/
theorem optionViews_eq (numbered : t.Numbered drawn) {options : List ProductOption}
    (distinct : (options.map (·.id)).Nodup) :
    t.optionViews options = options.map t.optionView := by
  refine (Groups.handOut_ofRows distinct _ _ _).trans (List.map_congr_left fun o member => ?_)
  exact congrArg (OptionView.mk o) (valueRows_filter numbered (List.mem_map_of_mem member))

end Tables
end Shop
