import Shop.Proofs.Service.Consistency
import Shop.Proofs.Service.Passwords
import Shop.Proofs.Service.Reading
import Shop.Proofs.Service.Replies
import Shop.Proofs.Service.Values

/-!
# Requests that fail change nothing

As long as no statement is made to fail, a request that is not answered with success leaves every
row as it was and publishes nothing.  What writes several rows does so in one transaction.  A change
or an archiving that finds no live row has changed none; and where it has found one, only statements
that look something up come after it, which then cannot fail.
-/

namespace Shop

namespace Action

variable {c : Context}

/-- An action does not fail where it reads something from any tables. -/
theorem SureIn.of_reads {a : Action α} {read : Tables → α}
    (reads : ∀ t, a.Reads c t (.ok (read t))) : a.SureIn c := by
  intro p failure q failed
  have answered := (reads p.session.tables p rfl).1
  rw [failed] at answered
  cases answered

/-- Archiving one row leaves no trace if there is none to archive. -/
theorem AtomicIn.archiveOne {k : Kind} (id : Int) (refusal : Refusal) (shown : k.Row → Json) :
    (do
      let row ← require refusal (← statement (.archive k id))
      return Reply.ok (shown row)).AtomicIn c := by
  have within : (Statement.archive k id).Within (· ∈ [Effect.archive k]) :=
    .archive List.mem_cons_self id
  refine .requireOne within (by simp) (fun p q answered => ?_) fun _ => Sure.pure _ c
  -- An archiving is a change of a live row that passes no parameters.
  have changed :
      (statement (.passing [] (.updateLive k id fun now => k.archived now))).perform c p =
        (.ok none, q) := answered
  exact (perform_updateLive_ok changed).2 rfl

end Action

namespace Service

open Shop.Action

variable {c : Context}

theorem changeProduct_atomicIn (undisturbed : c.Undisturbed) (sku : String) (patch : ProductPatch) :
    (changeProduct sku patch).AtomicIn c := by
  refine .after (.statement (.passing (.select _) _)) fun found => .after (.require _ _)
    fun existing => ?_
  extract_lets next
  have rest : ∀ x, AtomicIn c (next x) := by
    intro _
    refine .change (k := .product) ?_ fun changed => ?_
    · exact fun _ _ => ⟨rfl, rfl, rfl⟩
    · exact .bind (.of_reads fun t => showOne_looksUp undisturbed changed) fun view =>
        .bind (Sure.publish _ _ c) fun _ => Sure.pure _ c
  split
  · exact rest ()
  · split
    · exact rest ()
    · exact .after (.statement (.passing (.select _) _)) fun _ => .after (.ensureFree _ _) rest

theorem renameOption_atomicIn (undisturbed : c.Undisturbed) (id : Int) (name : String) :
    (renameOption id name).AtomicIn c := by
  refine .after (.statement (.select _)) fun found => .after (.require _ _) fun existing => ?_
  extract_lets next
  have rest : ∀ x, AtomicIn c (next x) := by
    intro _
    refine .change (k := .option) ?_ fun option => ?_
    · exact fun _ _ => ⟨rfl, rfl, rfl⟩
    · exact .bind (.of_reads fun t => .map undisturbed _ _) fun view => Sure.pure _ c
  split
  · exact rest ()
  · exact .after (.statement (.passing (.select _) _)) fun _ => .after (.ensureFree _ _) rest

theorem archiveRoot_atomic (id : Int) : (archiveRoot id).Atomic :=
  .before (.transaction (rootArchiving_within id) (by simp [Command.effects])) fun _ => .pure _

/-- Archiving a row in one transaction with what belongs to it leaves no trace if it fails. -/
theorem archiveWith_atomic {j k : Kind} (chosen : Tables → k.Row → Bool) (id : Int)
    (refusal : Refusal) :
    (transaction (do
      statement (.archiveAll k chosen)
      require refusal (← statement (.archive j id)))).Atomic := by
  have within : (do
      statement (.archiveAll k chosen)
      require refusal (← statement (.archive j id))).Within
      (· ∈ [Effect.archive k, .archive j]) :=
    .bind (.statement (.archiveAll List.mem_cons_self _)) fun _ =>
      .bind (.statement (.archive (by simp) _)) fun _ => .require _ _
  exact .transaction within (by simp)

theorem archiveProduct_atomic (sku : String) : (archiveProduct sku).Atomic :=
  .after (loadProduct_within sku) fun _ =>
    .before (archiveWith_atomic (j := .product) (k := .link) _ _ _) fun _ =>
      .bind (.publish _ _) fun _ => .pure _

theorem archiveOption_atomic (id : Int) : (archiveOption id).Atomic :=
  .before (archiveWith_atomic (j := .option) (k := .value) _ _ _) fun _ => .pure _

theorem createWebhook_atomic (request : WebhookRequest) : (createWebhook request).Atomic :=
  .before (.insert (k := .webhook) (fun _ _ => rfl) fun _ _ => rfl) fun _ => .pure _

theorem changeWebhook_atomic (id : Int) (patch : WebhookPatch) :
    (changeWebhook id patch).Atomic := by
  refine .change (k := .webhook) ?_ fun _ => .pure _
  exact fun _ _ => ⟨rfl, rfl, rfl⟩

end Service

/-- As long as no statement is made to fail, a command that fails leaves rows and bus as they
were. -/
theorem Command.atomicIn {c : Context} (undisturbed : c.Undisturbed) (command : Command) :
    command.action.AtomicIn c := by
  have showing (none : command.effects = []) : command.action.AtomicIn c := by
    have within := command.within
    rw [none] at within
    exact Action.Atomic.of_within within c
  cases command with
  | createRoot request => exact Service.createRoot_atomic request.val c
  | archiveRoot id => exact Service.archiveRoot_atomic id c
  | changeProduct sku patch => exact Service.changeProduct_atomicIn undisturbed sku patch.val
  | archiveProduct sku => exact Service.archiveProduct_atomic sku c
  | addOption rootId input => exact Service.addOption_atomic rootId input.val c
  | renameOption id input => exact Service.renameOption_atomicIn undisturbed id input.val.name
  | archiveOption id => exact Service.archiveOption_atomic id c
  | addValue optionId input => exact Service.addValue_atomic optionId input.val.value c
  | changeValue id input => exact Service.changeValue_atomic id input.val.value c
  | archiveValue id => exact .archiveOne (k := .value) id _ _
  | createDiscount request => exact Service.createDiscount_atomic request.val c
  | changeDiscount id patch => exact Service.changeDiscount_atomic id patch.val c
  | archiveDiscount id => exact .archiveOne (k := .discount) id _ _
  | createWebhook request => exact Service.createWebhook_atomic request.val c
  | changeWebhook id patch => exact Service.changeWebhook_atomic id patch.val c
  | archiveWebhook id => exact .archiveOne (k := .webhook) id _ _
  | createUser request => exact Service.createUser_atomic request.val c
  | changeUser id change => exact Service.changeUser_atomic id change.val c
  | archiveUser id => exact .archiveOne (k := .user) id _ _
  | _ => exact showing rfl

theorem Command.untouched {command : Command} {c : Context} (undisturbed : c.Undisturbed)
    {s : Session}
    (refused : ¬ (200 ≤ (command.action.serve c s).1.status ∧
      (command.action.serve c s).1.status < 300)) :
    (command.action.serve c s).2.tables = s.tables ∧ (command.action.serve c s).2.bus = s.bus := by
  rcases command.unsuccessful refused with ⟨failure, q, ran, replied⟩ | ⟨sku, rfl⟩
  · rw [replied]
    exact command.atomicIn undisturbed _ failure q ran
  · have steps := (Command.probeProduct sku).within.serve c s
    exact ⟨steps.tables_eq, steps.bus_eq List.not_mem_nil⟩

/-- Whatever is requested of a session where no statement is made to fail: if the answer is not one
of success, every row of every table is as it was and no event was published.  Pictures may have
been kept, and numbers may have been drawn. -/
theorem Http.untouched_of_unsuccessful (c : Context) (undisturbed : c.Undisturbed) (fresh : String)
    (s : Session) (r : Http.Request) :
    let answered := Http.serve c fresh s r
    ¬ (200 ≤ answered.1.status ∧ answered.1.status < 300) →
      answered.2.tables = s.tables ∧ answered.2.bus = s.bus := by
  intro answered refused
  cases served : r.served? with
  | none =>
    have same : answered.2 = s := Http.serve_unserved c fresh s served
    rw [same]
    exact ⟨rfl, rfl⟩
  | some command =>
    rcases Http.serve_served c fresh s served with ⟨status, session⟩
    have untouched := command.untouched undisturbed (s := s) (by rwa [← status])
    rwa [← session] at untouched

/-- A request for a shirt two variants of which get one SKU, which the store finds out when it has
written the root, its options and some products. -/
def Http.twinsRequest : Http.Request :=
  jsonRequest .post "/v1/product"
    ("\x7b\"name\": \"Shirt\", \"sku\": \"shirt\", \"options\": [" ++
      "\x7b\"name\": \"cut\", \"values\": [\"x\", \"x_y\"]\x7d, " ++
      "\x7b\"name\": \"size\", \"values\": [\"y_z\", \"z\"]\x7d]\x7d")

/-- The twins are refused after numbers were drawn for their root and its four products. -/
theorem Http.twinsRequest_refused :
    let answered := serve (.calm ⟨0, 0⟩) "twins" (.start 16) twinsRequest
    answered.1.status = 400 ∧ answered.2.sequences.last .root = 1 ∧
      answered.2.sequences.last .product = 4 := by
  simp only [serve, answer, Request.command, servedAt_eq]
  decide +kernel

/-- Nothing is left of the twins. -/
theorem Http.untouched_of_unsuccessful_twins :
    let answered := serve (.calm ⟨0, 0⟩) "twins" (.start 16) twinsRequest
    answered.1.status = 400 ∧ answered.2.tables = .empty ∧ answered.2.bus = .new 16 := by
  intro answered
  have refused : answered.1.status = 400 := twinsRequest_refused.1
  refine ⟨refused, untouched_of_unsuccessful (.calm ⟨0, 0⟩) (fun _ => rfl) "twins" (.start 16)
    twinsRequest ?_⟩
  change ¬ (200 ≤ answered.1.status ∧ answered.1.status < 300)
  rw [refused]
  decide

end Shop
