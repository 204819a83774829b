import Shop.Proofs.Service.Columns
import Shop.Proofs.Service.Creations
import Shop.Proofs.Service.Passwords

/-!
# Partial changes

A request that changes a product, a discount, a webhook or a user names some of its columns.  If it
succeeds, these have the values that it gives, and the others those that they had; no other row
changes, and the answer shows the row as it is then.
-/

namespace Shop

/-- The tables with another row in the place of one. -/
def Tables.replace (t : Tables) {k : Kind} (row later : k.Row) : Tables :=
  t.put k ((t.rows k).map fun other => if k.number other = k.number row then later else other)

theorem Tables.mem_replace {t : Tables} {k : Kind} {row : k.Row} (alive : row ∈ t.live k)
    (later : k.Row) : later ∈ (t.replace row later).rows k := by
  rw [replace, rows_put]
  exact List.mem_map.mpr ⟨row, (mem_live.mp alive).1, if_pos rfl⟩

/-- A change of the live row of a number replaces that row alone. -/
theorem Tables.Numbered.put_change {t : Tables} {drawn : Sequences} (numbered : t.Numbered drawn)
    {k : Kind} {row : k.Row} (alive : row ∈ t.live k) (change : k.Row → k.Row) :
    t.put k ((t.rows k).map fun other =>
      if k.live other && k.number other == k.number row then change other else other) =
      t.replace row (change row) := by
  refine congrArg (t.put k) (List.map_congr_left fun other inside => ?_)
  by_cases same : k.number other = k.number row
  · rcases numbered.eq_of_number inside (mem_live.mp alive).1 same with rfl
    simp [(mem_live.mp alive).2]
  · simp [same]

namespace Service

open Shop.Action

variable {c : Context} {s : Session} {q : Progress} {reply : Reply}

/-- A command changed the live row of a number, and nothing else, and shows it. -/
structure ChangedOne {k : Kind} (s : Session) (q : Progress) (reply : Reply)
    (shown : Tables → k.Row → Json) (row later : k.Row) : Prop where
  alive : row ∈ s.tables.live k
  tables : q.session.tables = s.tables.replace row later
  shows : reply = .ok (shown q.session.tables later)

theorem changeOne_ok (numbered : s.tables.Numbered s.sequences) {k : Kind} {id : Int}
    {parameters : List Parameter} {change : Instant → k.Row → k.Row} {refusal : Refusal}
    {shown : k.Row → Json}
    (done : (do
      let row ← require refusal (← statement (.passing parameters (.updateLive k id change)))
      return Reply.ok (shown row) : Action Reply).perform c (.start s) = (.ok reply, q)) :
    ∃ row : k.Row, k.number row = id ∧
      ChangedOne s q reply (fun _ => shown) row (change c.now row) := by
  rcases perform_requireChanged_ok done with ⟨row, there, middle, tables, returned⟩
  cases returned
  have alive : row ∈ s.tables.live k := List.mem_of_find?_eq_some there
  have number : k.number row = id := by simpa using List.find?_some there
  subst number
  exact ⟨row, rfl, alive, tables.trans (numbered.put_change alive _), rfl⟩

theorem changeUser_changes (numbered : s.tables.Numbered s.sequences) {id : Int}
    {change : UserChange} (done : (changeUser id change).perform c (.start s) = (.ok reply, q)) :
    ∃ user : User, user.id = id ∧ ChangedOne (k := .user) s q reply (fun _ => User.toJson) user
      ((change.patch (change.newPassword.map (Password.hash c.salt))).apply c.now user) := by
  rcases changeUser_ok done with ⟨_, ⟨user, alive, rfl, _, shows⟩, tables⟩
  exact ⟨user, rfl, alive, tables.trans (numbered.put_change (k := .user) alive _), shows⟩

/-- What is shown of a product is read off the tables. -/
theorem showOne_ok {product : Product} {view : ProductView} {p : Progress} {drawn : Sequences}
    (numbered : p.session.tables.Numbered drawn)
    (done : (showOne product).perform c p = (.ok view, q)) :
    view = p.session.tables.productView product ∧ q.session = p.session := by
  rcases perform_statement_ok done with ⟨_, _, answered, session⟩
  rcases Statement.map_ok answered with ⟨_, selected, rfl⟩
  cases selected
  refine ⟨?_, session⟩
  dsimp only
  rw [Tables.productViews_single numbered]
  rfl

theorem changeProduct_changes (numbered : s.tables.Numbered s.sequences) {sku : String}
    {patch : ProductPatch}
    (done : (changeProduct sku patch).perform c (.start s) = (.ok reply, q)) :
    ∃ product : Product, product.sku = sku ∧
      ChangedOne (k := .product) s q reply (fun t product => (t.productView product).toJson) product
        (patch.stored.apply c.now product) := by
  rcases perform_bind_ok.mp done with ⟨found, first, looked, rest⟩
  rcases perform_bind_ok.mp rest with ⟨existing, second, required, ended⟩
  rcases perform_require_ok.mp required with ⟨there, rfl⟩
  rcases perform_lookup_ok looked with ⟨rfl, still⟩
  have alive : existing ∈ s.tables.live .product := List.mem_of_find?_eq_some there
  have named : existing.sku = sku :=
    beq_iff_eq.mp (List.find?_some (p := fun product : Product => product.sku == sku) there)
  extract_lets afterSku at ended
  have changes {middle : Progress} (same : middle.session = s)
      (ran : (afterSku ()).perform c middle = (.ok reply, q)) :
      ChangedOne (k := .product) s q reply (fun t product => (t.productView product).toJson) existing
        (patch.stored.apply c.now existing) := by
    rcases perform_requireChanged_ok (k := .product) ran with
      ⟨product, found, changed, tables, shown⟩
    rw [same] at found tables
    cases (numbered.find?_live (k := .product) alive).symm.trans found
    rcases perform_bind_ok.mp shown with ⟨view, last, showing, rest⟩
    have afterwards : changed.session.tables.Numbered s.sequences := by
      rw [tables]
      refine numbered.change .product _ fun row => ?_
      split <;> rfl
    rcases showOne_ok afterwards showing with ⟨rfl, session⟩
    rcases perform_bind_ok.mp rest with ⟨_, told, publishing, returned⟩
    cases publishing
    cases returned
    have later : last.session.tables = _ :=
      ((congrArg (·.tables) session).trans tables).trans
        (numbered.put_change (k := .product) alive _)
    refine ⟨alive, later, ?_⟩
    change _ = Reply.ok (last.session.tables.productView _).toJson
    rw [session]
  refine ⟨existing, named, ?_⟩
  split at ended
  · exact changes still ended
  · split at ended
    · exact changes still ended
    · rcases perform_bind_ok.mp ended with ⟨taken, third, lookedUp, unTaken⟩
      rcases perform_bind_ok.mp unTaken with ⟨_, fourth, free, ran⟩
      rcases perform_ensureFree_ok.mp free with ⟨_, rfl⟩
      exact changes ((perform_lookup_ok lookedUp).2.trans still) ran

end Service

/-! ## Requests -/

namespace Http

/-- What the body of a request holds. -/
def Request.node (r : Request) : Json.Node := (Json.Document.read r.body).root

theorem Request.reader_of_readBody {r : Request} {reader : Json.Reader α} {a : α}
    (read : r.readBody reader = .ok a) : reader r.node = .ok a := by
  unfold readBody at read
  split at read
  · cases read
  split at read
  · cases read
  cases done : Json.readBytes reader r.body with
  | error e =>
    rw [done] at read
    cases read
  | ok b =>
    rw [done] at read
    cases read
    rcases Json.bind_eq_ok.mp done with ⟨b, read, returned⟩
    split at returned <;> cases returned
    exact read

variable {c : Context} {fresh : String} {s : Session} {r : Request}

/-- A request with a body that is answered with success names something and asks for something of it
in its body, and its command ends well. -/
theorem performed_of_ok {asked : Method} {segments : List String} (asks : r.Asks asked segments)
    (writes : asked ≠ .options ∧ asked ≠ .head) {named : Except Rejection α}
    {reader : Json.Reader β} {problems : β → Problems} {f : α → Accepted problems → Command}
    (stands : r.command = f <$> named <*> r.accept reader problems)
    (status : (serve c fresh s r).1.status = 200) :
    ∃ a, named = .ok a ∧ ∃ body : Accepted problems, reader r.node = .ok body.val ∧
      ∃ reply q, (f a body).action.perform c (.start s) = (.ok reply, q) ∧
        (∀ shown, reply.body = some shown → (serve c fresh s r).1.body = .json shown) ∧
        (serve c fresh s r).2 = q.session := by
  have other : r.method ≠ .options := asks.method ▸ writes.1
  have bodied : r.method ≠ .head := asks.method ▸ writes.2
  cases understood : r.command with
  | error rejection =>
    rw [(serve_rejected fresh other asks.outside understood).1] at status
    rcases r.status_of_rejected understood with failed | failed | failed <;> omega
  | ok command =>
    refine of_seq_ok (P := fun command => r.command = .ok command → _) ?_ command
      (stands.symm.trans understood) understood
    intro a body is accepted understood
    rcases serve_command (c := c) (s := s) fresh other bodied asks.outside understood with
      ⟨answered, shows, session⟩
    rw [answered] at status
    rcases Action.serve_cases (f a body).action c s with
      ⟨failure, q, _, replied⟩ | ⟨reply, q, done, replied⟩
    · rw [replied] at status
      exact absurd (failure.status_ge.trans_eq status) (by decide)
    · rw [replied] at shows session
      exact ⟨a, is, body, Request.reader_of_readBody (r.readBody_of_accept accepted), reply, q, done,
        shows, session⟩

/-- A request changed a live row of a kind by what the members of its body ask for, and nothing else,
and is answered with the row as it is then. -/
structure Changes (c : Context) (fresh : String) (s : Session) (r : Request) {k : Kind}
    (changeable : Changeable k.Row) (record : Json.Record α) (shown : Tables → k.Row → Json)
    (row later : k.Row) : Prop where
  alive : row ∈ s.tables.live k
  follows : changeable.Follows (record.member? r.node) c.now row later
  tables : (serve c fresh s r).2.tables = s.tables.replace row later
  shows : (serve c fresh s r).1.body = .json (shown (serve c fresh s r).2.tables later)

theorem Changes.of_changedOne {k : Kind} {changeable : Changeable k.Row} {record : Json.Record α}
    {shown : Tables → k.Row → Json} {row later : k.Row} {q : Progress} {reply : Reply}
    (changed : Service.ChangedOne s q reply shown row later)
    (follows : changeable.Follows (record.member? r.node) c.now row later)
    (shows : ∀ body, reply.body = some body → (serve c fresh s r).1.body = .json body)
    (session : (serve c fresh s r).2 = q.session) :
    Changes c fresh s r changeable record shown row later := by
  refine ⟨changed.alive, follows, ?_, ?_⟩
  · rw [session, changed.tables]
  · rw [session]
    exact shows _ (congrArg Reply.body changed.shows)

/-- A request that asks for a change of one row makes this change, with times kept in a certain
form. -/
structure PartialUpdate (time : Instant → Instant) (c : Context) (fresh : String) (s : Session)
    (r : Request) : Prop where
  product : ∀ part, r.Asks .patch ["product", part] → ∃ row later : Product,
    readText "sku" part = .ok row.sku ∧
    Changes (k := .product) c fresh s r (Product.changeable time) ProductPatch.record
      (fun t product => (t.productView product).toJson) row later
  discount : ∀ part, r.Asks .patch ["discount", part] → ∃ row later : Discount,
    readNumber part = .ok row.id ∧
    Changes (k := .discount) c fresh s r (Discount.changeable time) DiscountPatch.record
      (fun _ => Discount.toJson) row later
  webhook : ∀ part, r.Asks .patch ["webhook", part] → ∃ row later : Webhook,
    readNumber part = .ok row.id ∧
    Changes (k := .webhook) c fresh s r Webhook.changeable WebhookPatch.record
      (fun _ => Webhook.toJson) row later
  user : ∀ part, r.Asks .patch ["user", part] → ∃ row later : User,
    readNumber part = .ok row.id ∧
    Changes (k := .user) c fresh s r (User.changeable c.salt c.now) UserChange.record
      (fun _ => User.toJson) row later

end Http

/-- A request that asks for a change of a product, a discount, a webhook or a user and is answered
with success changes one live row, which its path names.  Every column whose member stands in the
body takes its value, and keeps its own where it is absent or null; an address is trimmed, the name
of a type of content is put in lower case, and of a password the hash is kept, along with the time of
the change.  Times are kept as the store does.  The time of the update is set, all that the body
cannot name stays as it was, as does every other row of every table, and the answer shows the row as
it is kept. -/
theorem Reachable.partialUpdates {s : Session} (reachable : Reachable s) (c : Context)
    (fresh : String) (r : Http.Request) (success : (Http.serve c fresh s r).1.status = 200) :
    Http.PartialUpdate Instant.stored c fresh s r := by
  have numbered := reachable.numbered
  refine ⟨fun part asks => ?_, fun part asks => ?_, fun part asks => ?_, fun part asks => ?_⟩
  · rcases Http.performed_of_ok asks (by decide) (asks.command rfl) success with
      ⟨sku, named, patch, read, reply, q, done, shows, session⟩
    rcases Service.changeProduct_changes numbered done with ⟨row, rfl, changed⟩
    exact ⟨row, _, named, .of_changedOne changed (ProductPatch.follows read c.now row) shows session⟩
  · rcases Http.performed_of_ok asks (by decide) (asks.command rfl) success with
      ⟨id, named, patch, read, reply, q, done, shows, session⟩
    rcases Service.changeOne_ok (k := .discount) numbered done with ⟨row, rfl, changed⟩
    exact ⟨row, _, named, .of_changedOne changed (DiscountPatch.follows read c.now row) shows session⟩
  · rcases Http.performed_of_ok asks (by decide) (asks.command rfl) success with
      ⟨id, named, patch, read, reply, q, done, shows, session⟩
    rcases Service.changeOne_ok (k := .webhook) numbered done with ⟨row, rfl, changed⟩
    exact ⟨row, _, named, .of_changedOne changed (WebhookPatch.follows read c.now row) shows session⟩
  · rcases Http.performed_of_ok asks (by decide) (asks.command rfl) success with
      ⟨id, named, change, read, reply, q, done, shows, session⟩
    rcases Service.changeUser_changes numbered done with ⟨row, rfl, changed⟩
    exact ⟨row, _, named,
      .of_changedOne changed (UserChange.follows read c.salt c.now row) shows session⟩

namespace Http

/-- A request that the small shirt be for sale from a nanosecond after the start of a year. -/
def saleRequest : Request :=
  jsonRequest .patch "/v1/product/shirt_s"
    ("\x7b\"subtitle\": \"Linen\", \"upc\": null, " ++
      "\"available_on\": \"2030-01-01T00:00:00.000000001Z\"\x7d")

theorem saleRequest_asks : saleRequest.Asks .patch ["product", "shirt_s"] := by
  refine ⟨rfl, ?_, by decide⟩
  rw [Text.splitOn_slash]
  decide +kernel

/-- The small shirt is changed, and for sale from the start of the year. -/
theorem saleRequest_changes :
    let s := (serve (.calm ⟨0, 0⟩) "shirt" (.start 16) shirtRequest).2
    let served := serve (.calm ⟨60, 0⟩) "sale" s saleRequest
    served.1.status = 200 ∧
      (served.2.tables.rows .product).map (fun p => (p.sku, p.listing.subtitle, p.offer.upc,
        p.listing.availableOn)) =
        [("shirt_s", "Linen", "", ⟨1893456000, 0⟩), ("shirt_m", "", "", ⟨0, 0⟩)] := by
  simp only [serve, answer, Request.command, servedAt_eq]
  decide +kernel

end Http

/-- The small shirt is changed as its request says, but for the nanosecond. -/
theorem Reachable.partialUpdates_sale :
    let s := (Http.serve (.calm ⟨0, 0⟩) "shirt" (.start 16) Http.shirtRequest).2
    (Http.serve (.calm ⟨60, 0⟩) "sale" s Http.saleRequest).1.status = 200 ∧
      Http.PartialUpdate Instant.stored (.calm ⟨60, 0⟩) "sale" s Http.saleRequest := by
  intro s
  have reachable : Reachable s := .serve (.start 16) _ _ _
  have success := Http.saleRequest_changes.1
  exact ⟨success, reachable.partialUpdates _ _ _ success⟩

/-- The store does not keep the nanosecond for which the small shirt was to wait. -/
theorem Reachable.partialUpdates_inexact :
    ¬ ∀ s, Reachable s → ∀ c fresh r, (Http.serve c fresh s r).1.status = 200 →
      Http.PartialUpdate id c fresh s r := by
  intro exact
  let s := (Http.serve (.calm ⟨0, 0⟩) "shirt" (.start 16) Http.shirtRequest).2
  rcases Http.saleRequest_changes with ⟨success, rows⟩
  rcases (exact s (.serve (.start 16) _ _ _) (.calm ⟨60, 0⟩) "sale" _ success).product "shirt_s"
    Http.saleRequest_asks with ⟨row, later, _, changes⟩
  have asked : (ProductPatch.record.member? Http.saleRequest.node "available_on").bind
      (fun node => (Json.Reader.timestamp node).toOption) = some ⟨1893456000, 1⟩ := by
    decide +kernel
  rcases Option.bind_eq_some_iff.mp asked with ⟨node, stands, read⟩
  have kept : later.listing.availableOn = ⟨1893456000, 1⟩ := by
    have follows := changes.follows
    -- From here on the body is a variable, so that no step evaluates it.
    generalize Http.saleRequest.node = body at follows stands
    refine (follows.named (.kept "available_on" Json.Reader.timestamp id (·.listing.availableOn))
      ?_).value stands ?_ ?_
    · simp [Product.changeable]
    · rintro rfl
      cases read
    · cases done : Json.Reader.timestamp node with
      | error _ =>
        rw [done] at read
        cases read
      | ok instant =>
        rw [done] at read
        exact done.trans (congrArg Except.ok (Option.some.inj read))
  have stored := Tables.mem_replace changes.alive later
  rw [← changes.tables] at stored
  have listed := List.mem_map_of_mem
    (f := fun p : Product => (p.sku, p.listing.subtitle, p.offer.upc, p.listing.availableOn)) stored
  rw [rows] at listed
  simp [kept] at listed

end Shop
