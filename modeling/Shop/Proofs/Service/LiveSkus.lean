import Shop.Proofs.Service.Changing
import Shop.Proofs.Service.Keeping
import Shop.Proofs.Text.Passing

/-!
# SKUs of live products

A live product gets its SKU when its root is created or when it is changed; no other command gives
one.  So what is to hold of all SKUs of live products has to be looked at in these two commands only.
Both pass the SKU to the store, so all SKUs of live products can be passed again.
-/

namespace Shop

/-- Whether something holds of the SKUs of all live products. -/
def Tables.LiveSkus (P : String → Prop) (t : Tables) : Prop := ∀ p ∈ t.live .product, P p.sku

namespace Tables.LiveSkus

variable {P : String → Prop} {s t t' : Tables}

theorem empty : Tables.empty.LiveSkus P := List.forall_mem_nil _

theorem of_rows_eq (same : t'.rows .product = t.rows .product) (holds : t.LiveSkus P) :
    t'.LiveSkus P := by
  unfold LiveSkus Tables.live
  rw [same]
  exact holds

theorem append_iff : (s ++ t).LiveSkus P ↔ s.LiveSkus P ∧ t.LiveSkus P := by
  unfold LiveSkus
  rw [live_append, List.forall_mem_append]

theorem only {product : Product} (holds : P product.sku) :
    (Tables.only .product [product]).LiveSkus P := by
  intro p alive
  rw [mem_live, rows_only] at alive
  rw [List.mem_singleton.mp alive.1]
  exact holds

/-- Products may change, if they are not revived and a new SKU is one of which it holds. -/
theorem change (holds : t.LiveSkus P) {change : Product → Product}
    (keeps : ∀ p, Kind.live .product (change p) = Kind.live .product p)
    (given : ∀ p, P p.sku → P (change p).sku) :
    (t.put .product ((t.rows .product).map change)).LiveSkus P := by
  unfold LiveSkus
  rw [live_put_map t .product keeps, List.forall_mem_map]
  exact fun p alive => given p (holds p alive)

end Tables.LiveSkus

namespace Action

/-- A statement that was answered could be passed its parameters. -/
theorem perform_passing_ok {c : Context} {p q : Progress} {parameters : List Parameter}
    {s : Statement α} {a : α}
    (done : (statement (.passing parameters s)).perform c p = (.ok a, q)) :
    ∀ parameter ∈ parameters, parameter.fault? = none := by
  rcases perform_statement_ok done with ⟨tables, sequences, answered, _⟩
  simp only [Statement.passing] at answered
  split at answered
  · cases answered
  · rename_i passed
    exact List.findSome?_eq_none_iff.mp passed

end Action

namespace Service

open Shop.Action

variable {kept : Tables → Prop} {P : String → Prop}

/-! ## Changing products -/

theorem changeProduct_maintains {sku : String} {patch : ProductPatch}
    (given : (∀ parameter ∈ patch.parameters, parameter.fault? = none) →
      ∀ newSku, patch.sku = some newSku → P newSku) :
    (changeProduct sku patch).Maintains (Tables.LiveSkus P) := by
  refine changeProduct_maintains_of_change fun _ existing _ _ =>
    .statement fun c p changed q done holds => ?_
  rw [(perform_updateLive_ok (k := .product) done).1]
  refine holds.change (fun row => ?_) fun row old => ?_
  · split <;> rfl
  · split
    · change P (patch.sku.getD row.sku)
      cases new : patch.sku with
      | none => exact old
      | some newSku => exact given (perform_passing_ok done) newSku new
    · exact old

theorem changeProduct_passable (sku : String) (patch : ProductPatch) :
    (changeProduct sku patch).Maintains (Tables.LiveSkus Passable) := by
  refine changeProduct_maintains fun passed newSku new => passed _ ?_
  refine List.mem_append_left _ (List.mem_map_of_mem (List.mem_filterMap.mpr ⟨some newSku, ?_, rfl⟩))
  simp [new]

/-! ## Creating roots -/

/-- What every call maintains, a plan maintains. -/
theorem plan_maintains (each : ∀ call, Action.Maintains kept (answer call)) (plan : Plan α) :
    Action.Maintains kept (plan.run answer) := by
  induction plan with
  | done a => exact .still (.pure _)
  | refused refusal => exact .still (.throw _)
  | call call next inductionHypothesis => exact .bind (each call) inductionHypothesis

/-- A call that is answered has passed the SKU of its product, if it writes one. -/
theorem answer_passable (call : Call) :
    Action.Maintains (Tables.LiveSkus Passable) (answer call) := by
  have spared (spares : call.effects.all (·.kind? != some .product) = true) :
      Action.Maintains (Tables.LiveSkus Passable) (answer call) :=
    .spared (answer_within call) spares fun _ _ => .of_rows_eq
  cases call with
  | createProduct product =>
    refine .statement fun c p row q done holds => ?_
    rcases perform_insert_ok (k := .product) done with ⟨⟨id, made⟩, tables⟩
    rw [tables]
    refine Tables.LiveSkus.append_iff.mpr ⟨holds, .only ?_⟩
    rw [made]
    exact perform_passing_ok done _ (List.mem_append_right _ List.mem_cons_self)
  | setProductImage productId imageId =>
    refine .statement fun c p _ q done holds => ?_
    rcases perform_statement_ok done with ⟨tables, sequences, answered, session⟩
    unfold Store.setProductImage at answered
    rcases Statement.map_ok answered with ⟨rows, updated, _⟩
    rcases Statement.update_ok updated with ⟨_, rfl, _⟩
    rw [session]
    refine holds.change (fun row => ?_) fun row old => ?_
    · split <;> rfl
    · split <;> exact old
  | _ => exact spared rfl

theorem createRoot_passable (request : RootRequest) :
    (createRoot request).Maintains (Tables.LiveSkus Passable) := by
  refine .bind (.still (.ensure _)) fun _ => .bind (.still (.ensure _)) fun _ => ?_
  refine .bind (.still .context) fun found => .bind (.still (.statement (.passing (.select _) _)))
    fun taken => ?_
  refine .bind (.still (.ensureFree _ _)) fun _ => .bind (.still (resolveFrom_within _ _))
    fun images => ?_
  refine .bind (.transaction fun c p view q done holds => ?_) fun view =>
    .bind (.publish _ _) fun _ => .still (.pure _)
  have kept := plan_maintains answer_passable
    (Creation.createRoot (request.withDefaults found.clock) images found.clock) c p holds
  rwa [done] at kept

end Service

/-! ## Every reachable session -/

theorem passableLaw : Law (Tables.LiveSkus Passable) fun _ _ _ => True where
  starts := .empty
  said t t' same := .of_rows_eq (same .product (by decide))
  command := by
    intro s _ holds c command
    refine iff_of_true ?_ fun _ => trivial
    cases command with
    | createRoot request =>
      rw [Action.serve_snd]
      exact Service.createRoot_passable request.val c (.start s) holds
    | changeProduct sku patch =>
      rw [Action.serve_snd]
      exact Service.changeProduct_passable sku patch.val c (.start s) holds
    | _ =>
      exact fun p alive => holds p ((Command.live_sublist _ c s (by decide) rfl).subset alive)

theorem Reachable.reachedBy {sort : Context → Session → Command → Prop} {s : Session}
    (reachable : Reachable s) (all : ∀ c s command, sort c s command) : ReachableBy sort s := by
  induction reachable with
  | start queueCapacity => exact .start queueCapacity
  | serve _ c fresh r inductionHypothesis =>
    exact .serve inductionHypothesis c fresh r fun command _ _ => all c _ command
  | deliver _ c answered d event inductionHypothesis =>
    exact .deliver inductionHypothesis c answered d event

/-- The SKU of a live product can be passed to the store. -/
theorem Reachable.sku_passable {s : Session} (reachable : Reachable s) {product : Product}
    (alive : product ∈ s.tables.live .product) : Passable product.sku :=
  passableLaw.holds (reachable.reachedBy fun _ _ _ => trivial) product alive

end Shop
