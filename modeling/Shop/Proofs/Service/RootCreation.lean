import Shop.Proofs.Catalog.Composition
import Shop.Proofs.Http.Serving
import Shop.Proofs.Rule.Accepted
import Shop.Proofs.Service.Atomicity
import Shop.Proofs.Service.Reachable
import Shop.Proofs.Text.Splitting

/-!
# Creating roots

The plan of a new root is run against a writer.  What any writer has written afterwards is composed
from the request; the store is such a writer, so the same holds of what it has committed.  The
service runs the plan in a transaction, after all that can be refused beforehand and before it
publishes the event, so that a request either commits the whole root and publishes it or leaves no
trace.
-/

namespace Shop

/-- A context in which all clocks show one time, nothing can be fetched and nothing fails. -/
def Context.calm (now : Instant) : Context where
  now
  clock := now
  settings :=
    { host := "127.0.0.1"
      listenPort := 3000
      origins := []
      requestTimeout := 30
      storageProvider := .localFiles
      storageFolder := "product_images"
      queueCapacity := 16
      webhookTimeout := 10
      minPasswordLength := 12 }
  salt := .empty
  download := fun _ => .error .broken
  faults := .none

namespace Service

open Shop.Action

/-! ## The store as a writer -/

/-- A row that was inserted under the number drawn for it is gained. -/
theorem inserted {c : Context} {p q : Progress} {k : Kind} {parameters : List Parameter}
    {make : Instant → Int → k.Row} {row : k.Row}
    (numbered : p.session.tables.Numbered p.session.sequences)
    (number : ∀ now id, k.number (make now id) = id)
    (live : ∀ now id, k.live (make now id) = true)
    (done : (statement (.passing parameters (.insert k make))).perform c p = (.ok row, q)) :
    row = make c.now (k.number row) ∧ p.session.tables.Gains (.only k [row]) q.session.tables := by
  rcases perform_statement_ok done with ⟨tables, sequences, answered, session⟩
  rcases Statement.insert_ok (Statement.passing_ok answered) with ⟨rfl, rfl, rfl⟩
  rw [session, number]
  refine ⟨rfl, numbered.gains ?_ ?_⟩
  · rw [List.map_singleton, number]
    rfl
  · exact List.forall_mem_singleton.mpr (live _ _)

/-- Links that were inserted under the numbers drawn for them are gained. -/
theorem linked {c : Context} {p q : Progress} {productId : Int} {valueIds : List Int}
    (numbered : p.session.tables.Numbered p.session.sequences)
    (done : (statement (Store.linkValues productId valueIds)).perform c p = (.ok (), q)) :
    ∃ links : List VariantLink, (∀ link ∈ links, link.productId = productId) ∧
      links.map (·.valueId) = valueIds ∧
      p.session.tables.Gains (.only .link links) q.session.tables := by
  rcases perform_statement_ok done with ⟨tables, sequences, answered, session⟩
  unfold Store.linkValues at answered
  rcases Statement.map_ok answered with ⟨links, answered, _⟩
  rcases Statement.insertAll_ok answered with ⟨rfl, rfl, rfl⟩
  rw [session]
  have made (link : VariantLink) (member : link ∈ Statement.numbered (p.session.sequences.last .link)
      (valueIds.map fun valueId id =>
        ({ id, productId, valueId, createdOn := c.now, archivedOn := none } : VariantLink))) :
      link.productId = productId ∧ Kind.live .link link = true := by
    rcases Statement.mem_numbered member with ⟨make, inMakes, id, rfl⟩
    rcases List.mem_map.mp inMakes with ⟨valueId, _, rfl⟩
    exact ⟨rfl, rfl⟩
  refine ⟨_, fun link member => (made link member).1,
    Statement.map_numbered_map (fun _ _ => rfl) _ _,
    numbered.gains ?_ fun link member => (made link member).2⟩
  rw [Statement.length_numbered]
  refine Statement.map_numbered ?_ _
  intro make inMakes id
  rcases List.mem_map.mp inMakes with ⟨valueId, _, rfl⟩
  rfl

/-- Every call that the store answers in rows that stand in the order of their numbers stores what
it was given, with times as the store keeps them. -/
theorem answer_stores {c : Context} {p q : Progress} {call : Call} {reply : call.Reply}
    (numbered : p.session.tables.Numbered p.session.sequences)
    (done : Action.perform (answer call) c p = (.ok reply, q)) :
    call.Stored Listing.stored p.session.tables q.session.tables reply := by
  cases call with
  | createRoot root =>
    rcases inserted (k := .root) numbered (fun _ _ => rfl) (fun _ _ => rfl) done with ⟨row, gains⟩
    exact ⟨⟨c.now, row⟩, gains⟩
  | keepImage sku position renditions =>
    rcases perform_keepPicture_ok done with ⟨shelf, _, session⟩
    change q.session.tables = p.session.tables
    rw [session]
  | createImage image =>
    rcases inserted (k := .image) numbered (fun _ _ => rfl) (fun _ _ => rfl) done with ⟨row, gains⟩
    exact ⟨⟨c.now, row⟩, gains⟩
  | createOption rootId name =>
    rcases inserted (k := .option) numbered (fun _ _ => rfl) (fun _ _ => rfl) done with ⟨row, gains⟩
    exact ⟨⟨c.now, row⟩, gains⟩
  | createValue optionId value =>
    rcases inserted (k := .value) numbered (fun _ _ => rfl) (fun _ _ => rfl) done with ⟨row, gains⟩
    exact ⟨⟨c.now, row⟩, gains⟩
  | createProduct product =>
    rcases inserted (k := .product) numbered (fun _ _ => rfl) (fun _ _ => rfl) done with
      ⟨row, gains⟩
    exact ⟨⟨c.now, row⟩, gains⟩
  | linkValues productId valueIds =>
    change Action.perform (if valueIds.isEmpty then return ()
      else statement (Store.linkValues productId valueIds)) c p = (.ok (), q) at done
    split at done
    · rename_i empty
      cases done
      rcases List.isEmpty_iff.mp empty with rfl
      exact ⟨[], List.forall_mem_nil _, rfl, .none _⟩
    · exact linked numbered done
  | setRootImage rootId imageId =>
    rcases perform_statement_ok (s := Store.setRootImage rootId imageId) done with
      ⟨tables, sequences, answered, session⟩
    unfold Store.setRootImage at answered
    rcases Statement.map_ok answered with ⟨rows, updated, _⟩
    rcases Statement.update_ok updated with ⟨_, rfl, rfl⟩
    change q.session.tables = _
    rw [session]
    rfl
  | setProductImage productId imageId =>
    rcases perform_statement_ok (s := Store.setProductImage productId imageId) done with
      ⟨tables, sequences, answered, session⟩
    unfold Store.setProductImage at answered
    rcases Statement.map_ok answered with ⟨rows, updated, _⟩
    rcases Statement.update_ok updated with ⟨_, rfl, rfl⟩
    change q.session.tables = _
    rw [session]
    rfl

def storeWriter (c : Context) : Writer Progress where
  answer call := ExceptT.mk fun p => Action.perform (answer call) c p
  tables p := p.session.tables
  kept := Listing.stored
  valid p := p.session.tables.Numbered p.session.sequences
  stores {p q call reply} numbered done := by
    have steps := answer_within call c p
    have answered : Action.perform (answer call) c p = (.ok reply, q) := done
    rw [answered] at steps
    exact ⟨answer_stores numbered answered, steps.numbered numbered⟩

/-- The service runs a plan as the store does. -/
theorem perform_plan (plan : Plan α) (c : Context) (p : Progress) :
    Action.perform (plan.run answer) c p = (storeWriter c).run plan p := by
  induction plan generalizing p with
  | done a => rfl
  | refused refusal => rfl
  | call call next inductionHypothesis =>
    have answered : ((storeWriter c).answer call).run p = Action.perform (answer call) c p := rfl
    change Action.perform (answer call >>= fun reply => (next reply).run answer) c p = _
    rw [perform_bind, Writer.run_call, answered]
    rcases Action.perform (answer call) c p with ⟨failure | reply, q⟩
    · rfl
    · exact inductionHypothesis reply q

end Service

/-! ## What a writer has written -/

/-- Whoever writes a root, if it ends well then its rows are all new and composed from the request:
one product for each choice of one value from each option, made from the template and linked to the
values of its choice. -/
theorem Creation.createRoot_composed {σ : Type} (w : Writer σ) (request : RootRequest)
    (images : List ResolvedImage) (clock : Instant) {s s' : σ} {view : RootView}
    (starts : w.valid s)
    (created : w.run (createRoot request images clock) s = (.ok view, s')) :
    ∃ links, (w.tables s).Gains (view.tables links) (w.tables s') ∧
      view.ComposedFrom w.kept request clock links :=
  createRoot_writes (w.run_ok starts created).1

/-- The store writes the root of a shirt that comes in two sizes. -/
theorem Creation.createRoot_composed_shirt :
    let w := Service.storeWriter (.calm ⟨0, 0⟩)
    let request := RootRequest.ofOptions "Shirt" "shirt" [⟨"cut", ["slim"]⟩, ⟨"size", ["S", "M"]⟩]
    ∃ view after links,
      w.run (createRoot request [] ⟨0, 0⟩) (.start (.start 16)) = (.ok view, after) ∧
        Tables.empty.Gains (view.tables links) after.session.tables ∧
        view.ComposedFrom w.kept request ⟨0, 0⟩ links := by
  intro w request
  have ends : (w.run (createRoot request [] ⟨0, 0⟩) (.start (.start 16))).1.isOk = true := by
    decide +kernel
  rcases ran : w.run (createRoot request [] ⟨0, 0⟩) (.start (.start 16)) with
    ⟨failure | view, after⟩
  · rw [ran] at ends
    cases ends
  · have starts : w.valid (.start (.start 16)) := Tables.Numbered.start
    rcases createRoot_composed w request [] ⟨0, 0⟩ starts ran with ⟨links, gains, composed⟩
    exact ⟨view, after, links, rfl, gains, composed⟩

/-! ## All or nothing -/

namespace Service

open Shop.Action

/-- The request to create a root leaves no trace if it fails: what can fail outside of the
transaction has no effects, and nothing behind the transaction can fail. -/
theorem createRoot_atomic (request : RootRequest) : (createRoot request).Atomic := by
  refine .after (.ensure _) fun _ => .after (.ensure _) fun _ => .after .context fun c => ?_
  refine .after (.statement (.passing (.select _) _)) fun taken => .after (.ensureFree _ _) fun _ => ?_
  refine .after (resolveFrom_within _ _) fun images => .before ?_ fun view => ?_
  · exact .transaction (plan_within _) (by decide)
  · exact .bind (.publish _ _) fun _ => .pure _

abbrev creation (request : RootRequest) (images : List ResolvedImage) (clock : Instant) :
    Action RootView :=
  transaction ((Creation.createRoot (request.withDefaults clock) images clock).run answer)

variable {c : Context} {p q : Progress} {request : RootRequest}

/-- The transaction commits what the plan writes, and publishes nothing. -/
theorem creation_writes {images : List ResolvedImage} {clock : Instant} {view : RootView}
    (numbered : p.session.tables.Numbered p.session.sequences)
    (done : (creation request images clock).perform c p = (.ok view, q)) :
    (Creation.createRoot (request.withDefaults clock) images clock).Writes Listing.stored
      p.session.tables q.session.tables view ∧ q.session.bus = p.session.bus := by
  rcases perform_transaction_ok done with ⟨before, after, ran, began, ended⟩
  have steps := (plan_within _).reach_ok ran
  rw [perform_plan] at ran
  rw [← began] at numbered
  rw [ended, ← began]
  exact ⟨((storeWriter c).run_ok numbered ran).1, steps.bus_eq (by decide)⟩

/-- The transaction commits the rows of a root that is composed from the request, and publishes
nothing. -/
theorem creation_ok {images : List ResolvedImage} {clock : Instant} {view : RootView}
    (numbered : p.session.tables.Numbered p.session.sequences)
    (done : (creation request images clock).perform c p = (.ok view, q)) :
    (∃ links, p.session.tables.Gains (view.tables links) q.session.tables ∧
      view.ComposedFrom Listing.stored (request.withDefaults clock) clock links) ∧
      q.session.bus = p.session.bus :=
  (creation_writes numbered done).imp_left Creation.createRoot_writes

/-- A root is created by a transaction, for pictures that were made ready before it. -/
theorem createRoot_parts {reply : Reply}
    (done : (createRoot request).perform c p = (.ok reply, q)) :
    ∃ ready images view before committed,
      Action.perform (ImageInput.resolveAll downloader request.images) c ready =
        (.ok images, before) ∧
      Session.Reach (· ∈ ([] : List Effect)) p.session before.session ∧
      (creation request images c.clock).perform c before = (.ok view, committed) ∧
      reply = .created view.toJson ∧
      q.session = { committed.session with
        bus := committed.session.bus.publish (.of Rule.productCreated view.toJson c.clock) } := by
  rcases perform_bind_ok.mp done with ⟨_, first, named, rest⟩
  rcases perform_bind_ok.mp rest with ⟨_, second, limited, rest⟩
  rcases perform_bind_ok.mp rest with ⟨found, third, asked, rest⟩
  rcases perform_bind_ok.mp rest with ⟨taken, fourth, looked, rest⟩
  rcases perform_bind_ok.mp rest with ⟨_, fifth, free, rest⟩
  rcases perform_bind_ok.mp rest with ⟨images, before, resolved, rest⟩
  rcases perform_bind_ok.mp rest with ⟨view, committed, created, rest⟩
  rcases perform_bind_ok.mp rest with ⟨_, last, published, returned⟩
  cases asked
  cases published
  cases returned
  -- Nothing is written on the way to the transaction.
  have checked : Session.Reach (· ∈ ([] : List Effect)) p.session second.session :=
    ((Within.ensure _).reach_ok named).trans ((Within.ensure _).reach_ok limited)
  have lookup : (statement (Store.prefixTaken request.sku)).Within (· ∈ ([] : List Effect)) :=
    .statement (.passing (.select _) _)
  have steps : Session.Reach (· ∈ ([] : List Effect)) p.session before.session :=
    ((checked.trans (lookup.reach_ok looked)).trans
      ((Within.ensureFree _ _).reach_ok free)).trans ((resolveFrom_within _ _).reach_ok resolved)
  exact ⟨fifth, images, view, before, committed, resolved, steps, created, rfl, rfl⟩

/-- A root is created by a transaction, before which nothing is changed and behind which one event is
published. -/
theorem createRoot_ok (numbered : p.session.tables.Numbered p.session.sequences) {reply : Reply}
    (done : (createRoot request).perform c p = (.ok reply, q)) :
    ∃ images view links before committed,
      (creation request images c.clock).perform c before = (.ok view, committed) ∧
      (before.session.tables = p.session.tables ∧ before.session.bus = p.session.bus) ∧
      (p.session.tables.Gains (view.tables links) committed.session.tables ∧
        committed.session.bus = p.session.bus) ∧
      view.ComposedFrom Listing.stored (request.withDefaults c.clock) c.clock links ∧
      reply = .created view.toJson ∧
      q.session = { committed.session with
        bus := committed.session.bus.publish (.of Rule.productCreated view.toJson c.clock) } := by
  rcases createRoot_parts done with
    ⟨_, images, view, before, committed, _, steps, created, replied, ended⟩
  have tables : before.session.tables = p.session.tables := steps.tables_eq
  have bus : before.session.bus = p.session.bus := steps.bus_eq List.not_mem_nil
  rcases creation_ok (steps.numbered numbered) created with ⟨⟨links, gains, composed⟩, silent⟩
  exact ⟨images, view, links, before, committed, created, ⟨tables, bus⟩,
    ⟨tables ▸ gains, silent.trans bus⟩, composed, replied, ended⟩

end Service

/-- No failure is told as a success. -/
theorem Failure.status_ge (failure : Failure) : 400 ≤ failure.status := by
  unfold status answer
  split
  case h_7 => split <;> simp
  case h_8 => split <;> simp
  all_goals simp

theorem Failure.status_ne_created (failure : Failure) : failure.status ≠ 201 :=
  Nat.ne_of_gt (Nat.lt_of_lt_of_le (by decide) failure.status_ge)

namespace Http

theorem Rejection.status_ge (rejection : Rejection) : 400 ≤ rejection.response.status := by
  cases rejection with
  | unknown => decide
  | notAllowed methods => simp [Rejection.response, Response.notAllowed, Response.allowing, Response.of]
  | badAddress message => simp [Rejection.response, Response.of]
  | badBody failure => exact failure.status_ge

theorem Rejection.status_ne_created (rejection : Rejection) : rejection.response.status ≠ 201 :=
  Nat.ne_of_gt (Nat.lt_of_lt_of_le (by decide) rejection.status_ge)

/-- A request to create a root stands for a command if its body keeps the rules. -/
theorem command_postProduct {r : Request} (post : r.method = .post)
    (path : (Target.read r.target).path = "/v1/product") :
    r.command = Command.createRoot <$> r.accept RootRequest.reader RootRequest.problems := by
  have parts : "/v1/product".splitOn "/" = ["", "v1", "product"] := by
    rw [Text.splitOn_slash]
    decide +kernel
  have readings : servedAt "/v1/product" = served ["product"] := by
    unfold servedAt
    rw [parts]
    rfl
  unfold Request.command
  rw [path, readings, post]
  rfl

/-- A request to create a root is all or nothing.  If it is not answered as created, every row is as
it was and nothing was published.  If it is, a transaction has committed the rows of the root that
the answer shows, and only then one event was published. -/
theorem postProduct_allOrNothing {s : Session} (reachable : Reachable s) (c : Context)
    (fresh : String) {r : Request} (post : r.method = .post)
    (path : (Target.read r.target).path = "/v1/product") :
    let response := (serve c fresh s r).1
    let after := (serve c fresh s r).2
    (response.status ≠ 201 → after.tables = s.tables ∧ after.bus = s.bus) ∧
    (response.status = 201 → ∃ request images view links before committed,
      r.command = .ok (.createRoot request) ∧
      (Service.creation request.val images c.clock).perform c before = (.ok view, committed) ∧
      (before.session.tables = s.tables ∧ before.session.bus = s.bus) ∧
      (s.tables.Gains (view.tables links) committed.session.tables ∧
        committed.session.bus = s.bus) ∧
      view.ComposedFrom Listing.stored (request.val.withDefaults c.clock) c.clock links ∧
      after = { committed.session with
        bus := committed.session.bus.publish (.of Rule.productCreated view.toJson c.clock) } ∧
      after.bus.published = s.bus.published + 1 ∧
      response.body = .json view.toJson) := by
  intro response after
  have outside : filePath? (Target.read r.target).path = none := by
    rw [path]
    decide +kernel
  have other : r.method ≠ .options := by simp [post]
  have bodied : r.method ≠ .head := by simp [post]
  have asked := command_postProduct post path
  cases accepted : r.accept RootRequest.reader RootRequest.problems with
  | error rejection =>
    rw [accepted] at asked
    rcases serve_rejected (c := c) (s := s) fresh other outside asked with ⟨status, same⟩
    refine ⟨fun _ => ⟨congrArg _ same, congrArg _ same⟩, fun created => ?_⟩
    exact absurd (status.symm.trans created) rejection.status_ne_created
  | ok request =>
    rw [accepted] at asked
    rcases serve_command (c := c) (s := s) fresh other bodied outside asked with
      ⟨status, body, session⟩
    rcases ran : (Service.createRoot request.val).perform c (.start s) with ⟨failure | reply, q⟩
    · have served : (Command.createRoot request).action.serve c s =
          (.ofFailure failure, q.session) := by
        change Action.serve (Service.createRoot request.val) c s = _
        rw [Action.serve, ran]
      rw [served] at status session
      refine ⟨fun _ => ?_, fun created => ?_⟩
      · rw [show after = q.session from session]
        exact Service.createRoot_atomic request.val c (.start s) failure q ran
      · exact absurd (status.symm.trans created) failure.status_ne_created
    · have served : (Command.createRoot request).action.serve c s = (reply, q.session) := by
        change Action.serve (Service.createRoot request.val) c s = _
        rw [Action.serve, ran]
      rw [served] at status body session
      rcases Service.createRoot_ok reachable.numbered ran with
        ⟨images, view, links, before, committed, created, unchanged, ⟨gains, silent⟩, composed,
          rfl, ended⟩
      have published : after.bus.published = s.bus.published + 1 := by
        rw [show after = q.session from session, ended, silent]
        exact Bus.published_publish reachable.open _
      refine ⟨fun notCreated => absurd status notCreated, fun _ => ?_⟩
      exact ⟨request, images, view, links, before, committed, asked, created, unchanged,
        ⟨gains, silent⟩, composed, session.trans ended, published, body _ rfl⟩

/-- A request to create the root of a shirt that comes in two sizes. -/
def shirtRequest : Request :=
  jsonRequest .post "/v1/product"
    ("\x7b\"name\": \"Shirt\", \"sku\": \"shirt\", \"options\": [" ++
      "\x7b\"name\": \"size\", \"values\": [\"S\", \"M\"]\x7d]\x7d")

theorem shirtRequest_path : (Target.read shirtRequest.target).path = "/v1/product" := by
  decide +kernel

/-- Where nothing fails, the shirt is created in both sizes. -/
theorem shirtRequest_created :
    let served := serve (.calm ⟨0, 0⟩) "shirt" (.start 16) shirtRequest
    served.1.status = 201 ∧ (served.2.tables.live .product).length = 2 := by
  simp only [serve, answer, Request.command, servedAt_eq]
  decide +kernel

theorem shirtRequest_skus :
    ((serve (.calm ⟨0, 0⟩) "shirt" (.start 16) shirtRequest).2.tables.live .product).map (·.sku) =
      ["shirt_s", "shirt_m"] := by
  simp only [serve, answer, Request.command, servedAt_eq]
  decide +kernel

/-- A calm context but for one statement, which finds the store busy. -/
def busyAt (position : Nat) : Context :=
  { Context.calm ⟨0, 0⟩ with
    faults := { Faults.none with
      statement := fun n => if n = position then some .busy else none } }

/-- The shirt takes eleven statements, of which the last commits it.  By then its numbers are drawn,
and it fails with any of them. -/
theorem shirtRequest_busy :
    (∀ position < 11, (serve (busyAt position) "shirt" (.start 16) shirtRequest).1.status = 500) ∧
      (serve (busyAt 10) "shirt" (.start 16) shirtRequest).2.sequences.last .product = 2 := by
  simp only [serve, answer, Request.command, servedAt_eq]
  decide +kernel

/-- The rows of the shirt are committed, and one event tells of it.  If one of its statements fails,
be it the commit, there are no rows and no event. -/
theorem postProduct_allOrNothing_shirt :
    let served := serve (.calm ⟨0, 0⟩) "shirt" (.start 16) shirtRequest
    (served.1.status = 201 ∧ served.2.bus.published = 1 ∧
      ∃ (view : RootView) (links : List VariantLink),
        Tables.empty.Gains (view.tables links) served.2.tables) ∧
    ∀ position < 11,
      let failed := serve (busyAt position) "shirt" (.start 16) shirtRequest
      failed.1.status = 500 ∧ failed.2.tables = Tables.empty ∧ failed.2.bus.published = 0 := by
  intro served
  have created : served.1.status = 201 := shirtRequest_created.1
  rcases (postProduct_allOrNothing (.start 16) (.calm ⟨0, 0⟩) "shirt" (r := shirtRequest) rfl
      shirtRequest_path).2 created with
    ⟨_, _, view, links, _, committed, _, _, _, ⟨gains, _⟩, _, ended, published, _⟩
  refine ⟨⟨created, published, view, links, ?_⟩, fun position before => ?_⟩
  · change Tables.empty.Gains _ (serve (.calm ⟨0, 0⟩) "shirt" (.start 16) shirtRequest).2.tables
    rw [ended]
    exact gains
  · have status := shirtRequest_busy.1 position before
    rcases (postProduct_allOrNothing (.start 16) (busyAt position) "shirt" (r := shirtRequest) rfl
        shirtRequest_path).1 (by rw [status]; decide) with ⟨tables, bus⟩
    exact ⟨status, tables, congrArg Bus.published bus⟩

end Http
end Shop
