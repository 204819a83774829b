import Shop.Proofs.Catalog.Viewing
import Shop.Proofs.Http.Asking
import Shop.Proofs.Json.Sameness
import Shop.Proofs.Service.Closure

/-!
# Reading back a root

A root that was created is told three times: in the answer to the request, in the payload of the
event that is published, and whenever the root is read afterwards.  The answer is put together from
the rows as they were written, the payload is its members in the order of their keys, and a reading
looks the rows up again in several tables.  All three are the same value.
-/

namespace Shop

/-! ## No key twice -/

@[simp]
theorem Instant.toJson_keyed (t : Instant) : t.toJson.Keyed := .text _

theorem OptionValue.toJson_keyed (v : OptionValue) : v.toJson.Keyed := by
  simp [OptionValue.toJson, Stamps.members]

theorem ProductImage.toJson_keyed (i : ProductImage) : i.toJson.Keyed := by
  simp [ProductImage.toJson, Stamps.members]

theorem OptionView.toJson_keyed (v : OptionView) : v.toJson.Keyed := by
  simp [OptionView.toJson, Stamps.members, OptionValue.toJson_keyed]

theorem ProductView.toJson_keyed (v : ProductView) : v.toJson.Keyed := by
  simp [ProductView.toJson, Stamps.members, Listing.members, Offer.members, Dimensions.members,
    Extent.members, OptionValue.toJson_keyed]

theorem RootView.toJson_keyed (v : RootView) : v.toJson.Keyed := by
  simp [RootView.toJson, ProductRoot.members, Stamps.members, Listing.members, Dimensions.members,
    Extent.members, OptionView.toJson_keyed, ProductImage.toJson_keyed, ProductView.toJson_keyed]

/-! ## Creating and reading -/

/-- In a reachable session the root that a request has created is viewed as the request was
answered, and one event tells of it. -/
theorem Service.createRoot_viewed {s : Session} (reachable : Reachable s) {c : Context}
    {request : RootRequest} {reply : Reply} {q : Progress}
    (done : (createRoot request).perform c (.start s) = (.ok reply, q))
    (next : Reachable q.session) :
    ∃ view : RootView, reply = .created view.toJson ∧
      view.root ∈ q.session.tables.live .root ∧ q.session.tables.rootView view.root = view ∧
      q.session.bus = s.bus.publish (.of Rule.productCreated view.toJson c.clock) := by
  rcases createRoot_ok reachable.numbered done with
    ⟨_, view, links, _, committed, _, _, ⟨gains, silent⟩, composed, rfl, ended⟩
  have tables : q.session.tables = committed.session.tables := by
    rw [ended]
  have viewed := composed.rootView_eq gains reachable.owned (tables ▸ next.numbered)
  refine ⟨view, rfl, ?_, ?_, ?_⟩
  · rw [tables, gains.live_eq]
    exact List.mem_append_right _ (List.mem_singleton_self _)
  · rw [tables]
    exact viewed
  · rw [ended]
    exact congrArg (Bus.publish · _) silent

namespace Http

/-- Behind a request that was answered as created stands a creation that ended well. -/
theorem postProduct_created {c : Context} {fresh : String} {s : Session} {r : Request}
    (post : r.method = .post) (path : (Target.read r.target).path = "/v1/product")
    (created : (serve c fresh s r).1.status = 201) :
    ∃ request reply q, (Service.createRoot request).perform c (.start s) = (.ok reply, q) ∧
      (∀ body, reply.body = some body → (serve c fresh s r).1.body = .json body) ∧
      (serve c fresh s r).2 = q.session := by
  have outside : filePath? (Target.read r.target).path = none := by
    rw [path]
    decide +kernel
  have other : r.method ≠ .options := by simp [post]
  have bodied : r.method ≠ .head := by simp [post]
  have asked := command_postProduct post path
  cases accepted : r.accept RootRequest.reader RootRequest.problems with
  | error rejection =>
    rw [accepted] at asked
    have status := (serve_rejected (c := c) (s := s) fresh other outside asked).1
    exact absurd (status.symm.trans created) rejection.status_ne_created
  | ok request =>
    rw [accepted] at asked
    rcases serve_command (c := c) (s := s) fresh other bodied outside asked with
      ⟨status, body, session⟩
    change _ = (Action.serve (Service.createRoot request.val) c s).1.status at status
    change ∀ shown, (Action.serve (Service.createRoot request.val) c s).1.body = _ → _ at body
    change _ = (Action.serve (Service.createRoot request.val) c s).2 at session
    unfold Action.serve at status body session
    rcases ran : (Service.createRoot request.val).perform c (.start s) with ⟨failure | reply, q⟩
    · rw [ran] at status
      exact absurd (status.symm.trans created) failure.status_ne_created
    · rw [ran] at body session
      exact ⟨request.val, reply, q, ran, body, session⟩

/-- A root that was created is shown in the answer as it is read from then on, and the one event that
tells of it carries the same value. -/
theorem postProduct_readBack {s : Session} (reachable : Reachable s) (c : Context) (fresh : String)
    {r : Request} (post : r.method = .post)
    (path : (Target.read r.target).path = "/v1/product")
    (created : (serve c fresh s r).1.status = 201) :
    let after := (serve c fresh s r).2
    ∃ (view : RootView) (event : Event),
      (serve c fresh s r).1.body = .json view.toJson ∧ view.root ∈ after.tables.live .root ∧
      (after.bus = s.bus.publish event ∧ event.eventType = Rule.productCreated ∧
        event.payload.Same view.toJson) ∧
      ∀ part r', r'.Asks .get ["product_root", part] → readNumber part = .ok view.root.id →
        ∀ c' fresh', c'.Undisturbed →
          (serve c' fresh' after r').1.status = 200 ∧
          (serve c' fresh' after r').1.body = .json view.toJson := by
  intro after
  have next : Reachable after := .serve reachable c fresh r
  rcases postProduct_created post path created with ⟨request, reply, q, ran, body, session⟩
  have same : after = q.session := session
  rcases Service.createRoot_viewed reachable ran (same ▸ next) with
    ⟨view, rfl, alive, viewed, published⟩
  rw [← same] at alive viewed published
  refine ⟨view, .of Rule.productCreated view.toJson c.clock, body _ rfl, alive,
    ⟨published, rfl, view.toJson_keyed.sorted_same⟩, ?_⟩
  intro part r' asks named c' fresh' undisturbed
  have stands : r'.command = .ok (.showRoot view.root.id) := by
    rw [asks.command rfl, named]
    rfl
  have found : (after.tables.live .root).find? (·.id == view.root.id) = some view.root :=
    next.numbered.find?_live (k := .root) alive
  have shown := asks.shows stands (Service.showRoot_reads undisturbed next.numbered found) fresh'
  rwa [viewed] at shown

theorem shirtRequest_roots :
    ((serve (.calm ⟨0, 0⟩) "shirt" (.start 16) shirtRequest).2.tables.live .root).map (·.id) =
      [1] := by
  simp only [serve, answer, Request.command, servedAt_eq]
  decide +kernel

/-- The shirt is read as it was shown when it was created. -/
theorem postProduct_readBack_shirt :
    let served := serve (.calm ⟨0, 0⟩) "shirt" (.start 16) shirtRequest
    let look := serve (.calm ⟨0, 0⟩) "look" served.2 (lookRequest "/v1/product_root/1")
    served.1.status = 201 ∧ look.1.status = 200 ∧ look.1.body = served.1.body := by
  intro served look
  have created : served.1.status = 201 := shirtRequest_created.1
  rcases postProduct_readBack (.start 16) (.calm ⟨0, 0⟩) "shirt" (r := shirtRequest) rfl
      shirtRequest_path created with ⟨view, _, body, alive, _, back⟩
  have number : view.root.id ∈ (served.2.tables.live .root).map (·.id) :=
    List.mem_map_of_mem (f := ProductRoot.id) alive
  rw [shirtRequest_roots, List.mem_singleton] at number
  have asks : (lookRequest "/v1/product_root/1").Asks .get ["product_root", "1"] := by
    refine ⟨rfl, ?_, by decide⟩
    rw [Text.splitOn_slash]
    decide +kernel
  have named : readNumber "1" = .ok view.root.id := by
    rw [number]
    rfl
  rcases back "1" (lookRequest "/v1/product_root/1") asks named (.calm ⟨0, 0⟩) "look"
    fun _ => rfl with ⟨status, same⟩
  exact ⟨created, status, same.trans body.symm⟩

end Http
end Shop
