import Shop.Proofs.Service.Changing
import Shop.Proofs.Service.Keeping
import Shop.Proofs.Store.Continuity

/-!
# The history of the tables

Whatever happens to a session, its tables continue: no row is lost, what made a row stays with it,
and an archived row stays as it was.  Insertions and archiving cannot break this, wherever they are
used.  A change of rows can, so what remains to be looked at are the commands that change rows: six
of them change a single live row, and creating a root changes only rows that it has just written.
-/

namespace Shop

def Effect.amends : Effect → Bool
  | .amend _ => true
  | _ => false

theorem Effect.not_amend_of_any {effects : List Effect} (amends : effects.any Effect.amends = false)
    (k : Kind) : ¬ Effect.amend k ∈ effects := by
  intro may
  simpa [Effect.amends] using List.any_eq_false.mp amends _ may

namespace Session

variable {allowed : Effect → Prop} {s s' : Session}

theorem Step.continues (step : Step allowed s s') (amends : ∀ k, ¬ allowed (.amend k)) :
    s.tables.Continues s'.tables := by
  cases step with
  | insert may new numbers live admitted => exact .insert s.tables _ new
  | amend may change keeps admitted => exact absurd may (amends _)
  | archive may chosen now => exact .archiveWhere s.tables _ chosen now
  | _ => exact .refl s.tables

/-- Where no rows are amended, the tables continue. -/
theorem Reach.continues (steps : Reach allowed s s') (amends : ∀ k, ¬ allowed (.amend k)) :
    s.tables.Continues s'.tables :=
  steps.preserves (fun x => s.tables.Continues x.tables)
    (fun _ _ step before => before.trans (step.continues amends)) (.refl s.tables)

end Session

namespace Service

open Shop.Action

variable {t : Tables}

/-- Changing one live row maintains that tables continue, if the changed row continues. -/
theorem updateLive_continues {k : Kind} {id : Int} {parameters : List Parameter}
    {change : Instant → k.Row → k.Row}
    (continues : ∀ now row, k.live row = true → k.Continues row (change now row)) :
    (statement (.passing parameters (.updateLive k id change))).Maintains t.Continues := by
  refine .statement fun c p found q done before => ?_
  rw [(perform_updateLive_ok done).1]
  refine before.trans (.change p.session.tables fun row => ?_)
  split
  · rename_i both
    exact continues c.now row (Bool.and_eq_true_iff.mp both).1
  · exact .refl row

/-- A new root adds rows, and changes only rows that it has added. -/
theorem createRoot_continues (request : RootRequest) {c : Context} {p : Progress}
    (numbered : p.session.tables.Numbered p.session.sequences) :
    p.session.tables.Continues ((createRoot request).perform c p).2.session.tables := by
  rcases ran : (createRoot request).perform c p with ⟨failure | reply, q⟩
  · change p.session.tables.Continues q.session.tables
    rw [(createRoot_atomic request c p failure q ran).1]
    exact .refl _
  · rcases createRoot_ok numbered ran with
      ⟨_, view, links, _, committed, _, _, ⟨gains, _⟩, _, _, ended⟩
    change p.session.tables.Continues q.session.tables
    rw [ended]
    change p.session.tables.Continues committed.session.tables
    rw [gains.eq_append]
    exact .append _ _

end Service

/-- Every command leaves tables that continue those it found. -/
theorem Command.continues (command : Command) {c : Context} {p : Progress}
    (numbered : p.session.tables.Numbered p.session.sequences) :
    p.session.tables.Continues (command.action.perform c p).2.session.tables := by
  have unamended (amends : command.effects.any Effect.amends = false) :
      p.session.tables.Continues (command.action.perform c p).2.session.tables :=
    (command.within c p).continues (Effect.not_amend_of_any amends)
  cases command with
  | createRoot request => exact Service.createRoot_continues request.val numbered
  | changeProduct sku patch =>
    refine Service.changeProduct_maintains_of_change (fun _ _ _ _ => ?_) c p (.refl _)
    exact Service.updateLive_continues (k := .product) fun _ _ alive =>
      .of_live alive rfl rfl rfl rfl
  | renameOption id input =>
    refine Service.renameOption_maintains_of_change ?_ c p (.refl _)
    exact Service.updateLive_continues (k := .option) fun _ _ alive =>
      .of_live alive rfl rfl rfl rfl
  | changeValue id input =>
    refine Service.changeValue_maintains_of_change ?_ c p (.refl _)
    exact Service.updateLive_continues (k := .value) fun _ _ alive =>
      .of_live alive rfl rfl rfl rfl
  | changeDiscount id patch =>
    refine Service.changeDiscount_maintains_of_change ?_ c p (.refl _)
    exact Service.updateLive_continues (k := .discount) fun _ _ alive =>
      .of_live alive rfl rfl rfl rfl
  | changeWebhook id patch =>
    refine Service.changeWebhook_maintains_of_change ?_ c p (.refl _)
    exact Service.updateLive_continues (k := .webhook) fun _ _ alive =>
      .of_live alive rfl rfl rfl rfl
  | changeUser id change =>
    refine Service.changeUser_maintains_of_change (fun hash => ?_) c p (.refl _)
    exact Service.updateLive_continues (k := .user) fun _ _ alive =>
      .of_live alive rfl rfl rfl rfl
  | _ => exact unamended rfl

/-! ## Histories -/

namespace Session

/-- Whatever happens, the tables continue. -/
theorem continues_after {s : Session} (reachable : Reachable s) (next : Happening) :
    s.tables.Continues (s.after next).tables := by
  cases next with
  | served c fresh r =>
    change s.tables.Continues (Http.serve c fresh s r).2.tables
    rcases Http.serve_session c fresh s r with same | ⟨command, _, served⟩
    · rw [same]
      exact .refl _
    · rw [served, Action.serve_snd]
      exact command.continues (p := .start s) reachable.numbered
  | delivered c answered d event =>
    exact (Service.dispatch_within answered d event c (.start s)).continues
      (Effect.not_amend_of_any rfl)

theorem continues_since (queueCapacity : Nat) (earlier later : List Happening) :
    (since queueCapacity earlier).tables.Continues
      (since queueCapacity (later ++ earlier)).tables := by
  induction later with
  | nil => exact .refl _
  | cons latest later inductionHypothesis =>
    exact inductionHypothesis.trans (continues_after (since_reachable queueCapacity _) latest)

/-- The history of the tables is append-only.  Whatever requests and deliveries follow, every row is
still there, as the only one with its number; it was made when it was made, refers to what it
referred to, and a product keeps its summary; and a row that was archived is the same in
everything. -/
theorem history_appendOnly (queueCapacity : Nat) (earlier later : List Happening) :
    let before := (since queueCapacity earlier).tables
    let after := (since queueCapacity (later ++ earlier)).tables
    ∀ k, ∀ row ∈ before.rows k, ∃ kept ∈ after.rows k, k.Continues row kept ∧
      ∀ other ∈ after.rows k, k.number other = k.number row → other = kept := by
  intro before after k row member
  rcases continues_since queueCapacity earlier later k row member with ⟨kept, keptMember, continued⟩
  refine ⟨kept, keptMember, continued, fun other otherMember same => ?_⟩
  have numbered := (since_reachable queueCapacity (later ++ earlier)).numbered
  exact numbered.eq_of_number otherMember keptMember (same.trans continued.number.symm)

/-- The shirt was created, and its root was archived. -/
def shirtHistory : List Happening :=
  [.served (.calm ⟨60, 0⟩) "gone" (Http.archiveRequest "/v1/product_root/1"),
    .served (.calm ⟨0, 0⟩) "shirt" Http.shirtRequest]

theorem shirtHistory_archived :
    (since 16 shirtHistory).tables.products.map (·.stamps.archivedOn) =
      [some ⟨60, 0⟩, some ⟨60, 0⟩] := by
  simp only [shirtHistory, since, after, Http.serve, Http.answer, Http.Request.command,
    Http.servedAt_eq]
  decide +kernel

/-- Both sizes of the shirt are still there after it was archived, and say what they said. -/
theorem history_appendOnly_shirt :
    let created := (since 16 (shirtHistory.drop 1)).tables
    let archived := (since 16 shirtHistory).tables
    (created.live .product).length = 2 ∧
      archived.products.map (·.stamps.archivedOn) = [some ⟨60, 0⟩, some ⟨60, 0⟩] ∧
      ∀ product ∈ created.live .product, ∃ kept ∈ archived.products,
        kept.id = product.id ∧ kept.optionSummary = product.optionSummary := by
  refine ⟨Http.shirtRequest_created.2, shirtHistory_archived, fun product alive => ?_⟩
  rcases history_appendOnly 16 (shirtHistory.drop 1) (shirtHistory.take 1) .product product
    (Tables.mem_live.mp alive).1 with ⟨kept, member, continued, _⟩
  exact ⟨kept, member, continued.number, Option.some.inj continued.summary⟩

end Session
end Shop
