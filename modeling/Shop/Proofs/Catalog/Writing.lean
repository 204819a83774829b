import Shop.Catalog.Plan
import Shop.Proofs.Store.Growth

/-!
# What plans write

A writer answers the calls of plans, and keeps tables in which it stores what the calls give it.
Whoever it is, a plan that it runs to the end changes the tables as the calls of the plan say.
`Plan.Writes` is this change, so what is proved of it holds of every writer.

A writer may keep the attributes of a listing in a form of its own, the same for roots and products:
the store cuts times.  A writer that keeps everything as it is has the identity for `kept`.
-/

namespace Shop

/-- The change by which a call is answered: the row of what was given, under a number of its own, or
the primary image of the row of a number.  Pictures are not kept in tables. -/
def Call.Stored (kept : Listing → Listing) (t t' : Tables) : (c : Call) → c.Reply → Prop
  | .createRoot root, row =>
    (∃ now, row = NewRoot.row { root with listing := kept root.listing } now row.id) ∧
      t.Gains (.only .root [row]) t'
  | .keepImage _ _ _, _ => t' = t
  | .createImage image, row =>
    (∃ now, row = image.row now row.id) ∧ t.Gains (.only .image [row]) t'
  | .createOption rootId name, row =>
    (∃ now, row = ProductOption.new rootId name now row.id) ∧ t.Gains (.only .option [row]) t'
  | .createValue optionId value, row =>
    (∃ now, row = OptionValue.new optionId value now row.id) ∧ t.Gains (.only .value [row]) t'
  | .createProduct product, row =>
    (∃ now, row = NewProduct.row { product with listing := kept product.listing } now row.id) ∧
      t.Gains (.only .product [row]) t'
  | .linkValues productId valueIds, _ =>
    ∃ links : List VariantLink, (∀ link ∈ links, link.productId = productId) ∧
      links.map (·.valueId) = valueIds ∧ t.Gains (.only .link links) t'
  | .setRootImage rootId imageId, _ =>
    t' = t.put .root (t.roots.map fun r =>
      if r.id == rootId then { r with primaryImageId := some imageId } else r)
  | .setProductImage productId imageId, _ =>
    t' = t.put .product (t.products.map fun p =>
      if p.id == productId then { p with primaryImageId := some imageId } else p)

namespace Plan

/-- A plan can be run to its end with a result, if calls are answered by the changes they ask for,
and this changes one state of the tables into another. -/
def Writes (kept : Listing → Listing) : Plan α → Tables → Tables → α → Prop
  | .done a, t, t', result => result = a ∧ t' = t
  | .refused _, _, _, _ => False
  | .call c next, t, t', result =>
    ∃ reply middle, c.Stored kept t middle reply ∧ (next reply).Writes kept middle t' result

variable {kept : Listing → Listing} {t t' : Tables}

@[simp]
theorem writes_pure {a result : α} :
    (pure a : Plan α).Writes kept t t' result ↔ result = a ∧ t' = t := Iff.rfl

@[simp]
theorem writes_bind {plan : Plan α} {next : α → Plan β} {result : β} :
    (plan >>= next).Writes kept t t' result ↔
      ∃ a middle, plan.Writes kept t middle a ∧ (next a).Writes kept middle t' result := by
  change (plan.bind next).Writes kept t t' result ↔ _
  induction plan generalizing t with
  | done a => simp only [Plan.bind, Writes, and_assoc, exists_and_left, exists_eq_left]
  | refused refusal => simp [Plan.bind, Writes]
  | call c rest inductionHypothesis =>
    simp only [Plan.bind, Writes, inductionHypothesis]
    constructor
    · rintro ⟨reply, first, stored, a, second, written, rest⟩
      exact ⟨a, second, ⟨reply, first, stored, written⟩, rest⟩
    · rintro ⟨a, second, ⟨reply, first, stored, written⟩, rest⟩
      exact ⟨reply, first, stored, a, second, written, rest⟩

@[simp]
theorem writes_perform {c : Call} {reply : c.Reply} :
    (perform c).Writes kept t t' reply ↔ c.Stored kept t t' reply := by
  simp only [perform, Writes]
  constructor
  · rintro ⟨answered, _, stored, rfl, rfl⟩
    exact stored
  · intro stored
    exact ⟨reply, t', stored, rfl, rfl⟩

@[simp]
theorem writes_ensure {decided : Except Refusal α} {a : α} :
    (ensure decided).Writes kept t t' a ↔ decided = .ok a ∧ t' = t := by
  cases decided with
  | ok b => simp [ensure, Writes, eq_comm]
  | error refusal => simp [ensure, Writes]

/-- A plan goes on with the answer to its first call, if there is one. -/
theorem run_call {σ : Type} (answer : Answerer (StateM σ)) (c : Call) (next : c.Reply → Plan α)
    (s : σ) :
    ((Plan.call c next).run answer).run s =
      match (answer c).run s with
      | (.ok reply, s') => ((next reply).run answer).run s'
      | (.error failure, s') => (.error failure, s') := by
  change (match (answer c).run s with
    | (answered, s') => (ExceptT.bindCont (fun reply => (next reply).run answer) answered) s') = _
  rcases (answer c).run s with ⟨_ | _, _⟩ <;> rfl

end Plan

/-- A writer: it answers calls, and every answer in a valid state stores what the call gave it. -/
structure Writer (σ : Type) where
  answer : Plan.Answerer (StateM σ)
  tables : σ → Tables
  kept : Listing → Listing
  valid : σ → Prop
  stores {s s' : σ} {c : Call} {reply : c.Reply} (starts : valid s)
    (answered : (answer c).run s = (.ok reply, s')) :
    c.Stored kept (tables s) (tables s') reply ∧ valid s'

namespace Writer

variable {σ : Type}

/-- Run a plan against a writer. -/
def run (w : Writer σ) (plan : Plan α) (s : σ) : Except Failure α × σ :=
  (plan.run w.answer).run s

theorem run_call (w : Writer σ) (c : Call) (next : c.Reply → Plan α) (s : σ) :
    w.run (.call c next) s =
      match (w.answer c).run s with
      | (.ok reply, s') => w.run (next reply) s'
      | (.error failure, s') => (.error failure, s') :=
  Plan.run_call w.answer c next s

/-- A plan that a writer runs to the end changes the tables as the plan says. -/
theorem run_ok (w : Writer σ) {plan : Plan α} {s s' : σ} {result : α} (starts : w.valid s)
    (done : w.run plan s = (.ok result, s')) :
    plan.Writes w.kept (w.tables s) (w.tables s') result ∧ w.valid s' := by
  induction plan generalizing s with
  | done a =>
    cases done
    exact ⟨⟨rfl, rfl⟩, starts⟩
  | refused refusal => cases done
  | call c next inductionHypothesis =>
    rw [run_call] at done
    rcases answered : (w.answer c).run s with ⟨failure | reply, middle⟩
    · rw [answered] at done
      cases done
    · rw [answered] at done
      rcases w.stores starts answered with ⟨stored, valid⟩
      rcases inductionHypothesis reply valid done with ⟨rest, ends⟩
      exact ⟨⟨reply, w.tables middle, stored, rest⟩, ends⟩

end Writer
end Shop
