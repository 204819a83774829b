import Shop.Proofs.Catalog.Viewing
import Shop.Proofs.Service.Explained

/-!
# Which roots are created

The request for a root passes through many hands: its body is read, keeps the rules, has options that
can be told apart and are not too many; its prefix is looked up, and the store compares the SKUs of
its products when these are written.  Here it is said of the request and the tables that it finds
when it is accepted.  Whatever else the store demands of the rows follows from this.
-/

namespace Shop
namespace RootRequest

/-- A request for a root that can be created beside the rows of some tables. -/
structure Admissible (request : RootRequest) (t : Tables) : Prop where
  valid : request.problems.isEmpty = true
  named : (request.options.map (·.name)).Nodup
  limited : ∃ n, Variant.ensureLimit request.optionSizes = .ok n
  free : ∀ root ∈ t.live .root, root.skuPrefix ≠ request.sku
  /-- The SKUs of its variants differ, and no live product has one of them. -/
  apart : ∃ variants, Variant.build id request.sku request.axes = .ok variants ∧
    (variants.map (·.sku)).Nodup ∧
    ∀ product ∈ t.live .product, product.sku ∉ variants.map (·.sku)

/-- The variants of a request within the limit have the SKUs for which the request stands. -/
theorem build_skus {request : RootRequest} {n : Nat}
    (limited : Variant.ensureLimit request.optionSizes = .ok n) :
    ∃ variants, Variant.build id request.sku request.axes = .ok variants ∧
      variants.map (·.sku) = request.skus := by
  have sizes : request.axes.map (·.2.length) = request.optionSizes := by
    simp only [axes, optionSizes, List.map_map, Function.comp_def]
  refine ⟨_, by rw [Variant.build_eq, sizes, limited]; rfl, ?_⟩
  exact Variant.map_sku_ofChoice request

theorem apart_iff_build {request : RootRequest} {t : Tables} {n : Nat}
    (limited : Variant.ensureLimit request.optionSizes = .ok n) :
    request.Apart t ↔ ∃ variants, Variant.build id request.sku request.axes = .ok variants ∧
      (variants.map (·.sku)).Nodup ∧
      ∀ product ∈ t.live .product, product.sku ∉ variants.map (·.sku) := by
  rcases build_skus limited with ⟨variants, built, skus⟩
  constructor
  · intro apart
    refine ⟨variants, built, ?_⟩
    rw [skus]
    exact apart
  · rintro ⟨others, builtToo, apart⟩
    cases built.symm.trans builtToo
    rw [skus] at apart
    exact apart

end RootRequest

/-- In a sound session, the SKUs of live products differ. -/
theorem Session.Sound.skus_nodup {s : Session} (sound : s.Sound) :
    ((s.tables.live .product).map (·.sku)).Nodup := by
  refine (List.nodup_map_iff_inj_on (sound.numbered.live_nodup .product)).mpr ?_
  intro product alive other otherAlive same
  exact sound.numbered.eq_of_number (k := .product) (Tables.mem_live.mp alive).1
    (Tables.mem_live.mp otherAlive).1
    (sound.unclashed.number_eq (k := .product) alive otherAlive (beq_iff_eq.mpr same))

namespace Service

open Shop.Action

variable {c : Context} {s : Session}

/-- A root that was created passed the checks that come before the transaction. -/
theorem createRoot_checked {p q : Progress} {request : RootRequest} {reply : Reply}
    (done : (createRoot request).perform c p = (.ok reply, q)) :
    (request.options.map (·.name)).Nodup ∧
      (∃ n, Variant.ensureLimit request.optionSizes = .ok n) ∧
      ∀ root ∈ p.session.tables.live .root, root.skuPrefix ≠ request.sku := by
  rcases perform_bind_ok.mp done with ⟨_, _, named, rest⟩
  rcases perform_bind_ok.mp rest with ⟨n, _, limited, rest⟩
  rcases perform_bind_ok.mp rest with ⟨found, _, asked, rest⟩
  rcases perform_bind_ok.mp rest with ⟨taken, _, looked, rest⟩
  rcases perform_bind_ok.mp rest with ⟨_, _, free, _⟩
  rcases perform_ensure_ok.mp named with ⟨unique, rfl⟩
  rcases perform_ensure_ok.mp limited with ⟨few, rfl⟩
  cases asked
  rcases perform_ensureFree_ok.mp free with ⟨rfl, _⟩
  have untaken := (perform_lookup_ok looked).1.symm
  refine ⟨Rule.uniqueNames_eq_ok_iff.mp unique, ⟨n, few⟩, fun root alive same => ?_⟩
  exact absurd (beq_iff_eq.mpr same) (List.any_eq_false.mp untaken root alive)

/-- The SKUs of a root that was created differ, and no product that was live had one of them. -/
theorem apart_of_created {request : RootRequest} {p q : Progress} {reply : Reply}
    (sound : p.session.Sound) (done : (createRoot request).perform c p = (.ok reply, q)) :
    request.Apart p.session.tables := by
  rcases createRoot_ok sound.numbered done with
    ⟨_, view, links, _, committed, _, _, ⟨gains, _⟩, composed, _, ended⟩
  have later : q.session.Sound := ((createRoot_within request).reach_ok done).sound sound
  have distinct := later.skus_nodup
  have shown : q.session.tables.live .product =
      p.session.tables.live .product ++ view.products.map (·.product) := by
    rw [ended]
    exact gains.live_eq .product
  have skus : view.products.map ((·.sku) ∘ (·.product)) = request.skus := composed.skus_eq
  rw [shown, List.map_append, List.map_map, List.nodup_append, skus] at distinct
  rcases distinct with ⟨_, apart, disjoint⟩
  refine ⟨apart, fun product alive inside => ?_⟩
  exact disjoint product.sku (List.mem_map_of_mem alive) product.sku inside rfl

/-- Where the store fails by itself only, a root without pictures whose texts and times can be passed
is created if it can be created beside the rows that are there, and else refused as a bad request. -/
theorem createRoot_accepted_iff (sound : s.Sound) (undisturbed : c.Undisturbed)
    (request : Accepted RootRequest.problems) (unpictured : request.val.images = [])
    (passable : ∀ parameter ∈ request.val.parameters c.clock, parameter.fault? = none) :
    (((createRoot request.val).serve c s).1.status = 201 ↔ request.val.Admissible s.tables) ∧
      (((createRoot request.val).serve c s).1.status ≠ 201 →
        ((createRoot request.val).serve c s).1.status = 400) := by
  unfold Action.serve
  rcases ran : (createRoot request.val).perform c (.start s) with ⟨failure | reply, q⟩
  · have reason := Command.fails sound (.createRoot request) (.start s) failure q rfl ran
    -- What a failure shows is that the request cannot be created, and it is told so.
    have refused : failure.status = 400 ∧ ¬ request.val.Admissible s.tables := by
      cases reason with
      | disturbed made =>
        rw [undisturbed] at made
        cases made
      | unpassable passed stopped =>
        rw [passable _ passed] at stopped
        cases stopped
      | missing sought => cases sought
      | invalid checked broken =>
        refine ⟨?_, fun admissible => ?_⟩
        · rcases Command.invalid_of_checks checked broken with ⟨message, rfl⟩
          rfl
        · rcases List.mem_cons.mp checked with names | limit
          · rw [names, Rule.uniqueNames_eq_ok_iff.mpr admissible.named] at broken
            cases broken
          · rcases admissible.limited with ⟨n, limited⟩
            rw [List.mem_singleton.mp limit, limited] at broken
            cases broken
      | @held k row wanted message =>
        refine ⟨rfl, fun admissible => ?_⟩
        cases k with
        | root => exact admissible.free row wanted.1 wanted.2
        | _ => exact wanted
      | colliding creates collide =>
        cases creates
        refine ⟨by decide +kernel, fun admissible => collide ?_⟩
        rcases admissible.limited with ⟨n, limited⟩
        exact (RootRequest.apart_iff_build limited).mpr admissible.apart
      | pictured creates pictures of =>
        cases creates
        exact absurd unpictured pictures
      | unproven changes | unreadable changes => cases changes
    rcases refused with ⟨status, inadmissible⟩
    exact ⟨iff_of_false failure.status_ne_created inadmissible, fun _ => status⟩
  · rcases createRoot_ok sound.numbered ran with ⟨_, _, _, _, _, _, _, _, _, rfl, _⟩
    rcases createRoot_checked ran with ⟨named, ⟨n, limited⟩, free⟩
    have apart := apart_of_created (p := .start s) sound ran
    exact ⟨iff_of_true rfl ⟨request.property, named, ⟨n, limited⟩, free,
      (RootRequest.apart_iff_build limited).mp apart⟩, fun other => absurd rfl other⟩

end Service
namespace Http

/-- A body that is not read is a bad request. -/
theorem Request.readBody_error {r : Request} {reader : Json.Reader α} {failure : Failure}
    (unread : r.readBody reader = .error failure) : failure.status = 400 := by
  unfold readBody at unread
  split at unread
  · cases unread
    rfl
  · split at unread
    · cases unread
      rfl
    · cases read : Json.readBytes reader r.body with
      | ok a =>
        rw [read] at unread
        cases unread
      | error e =>
        rw [read] at unread
        cases unread
        rfl

/-- Where the store refuses rows for its conditions only, a request to create a root without pictures
is answered as created exactly if its body is read as one that can be created beside the rows that are
there, and else as a bad request. -/
theorem postProduct_created_iff {s : Session} (reachable : Reachable s) {c : Context}
    (undisturbed : c.Undisturbed) (fresh : String) {r : Request} (post : r.method = .post)
    (path : (Target.read r.target).path = "/v1/product")
    (plain : ∀ request, r.readBody RootRequest.reader = .ok request → request.images = [] ∧
      ∀ parameter ∈ request.parameters c.clock, parameter.fault? = none) :
    ((serve c fresh s r).1.status = 201 ↔
      ∃ request, r.readBody RootRequest.reader = .ok request ∧ request.Admissible s.tables) ∧
    ((serve c fresh s r).1.status ≠ 201 → (serve c fresh s r).1.status = 400) := by
  have outside : filePath? (Target.read r.target).path = none := by
    rw [path]
    decide +kernel
  have other : r.method ≠ .options := by simp [post]
  have bodied : r.method ≠ .head := by simp [post]
  have asked := command_postProduct post path
  -- What is rejected before it is a command is a bad request.
  have rejected (failure : Failure)
      (refused : r.accept RootRequest.reader RootRequest.problems = .error (.badBody failure))
      (bad : failure.status = 400)
      (inadmissible : ∀ request, r.readBody RootRequest.reader = .ok request →
        ¬ request.Admissible s.tables) :
      ((serve c fresh s r).1.status = 201 ↔
        ∃ request, r.readBody RootRequest.reader = .ok request ∧ request.Admissible s.tables) ∧
      ((serve c fresh s r).1.status ≠ 201 → (serve c fresh s r).1.status = 400) := by
    rw [refused] at asked
    have status : (serve c fresh s r).1.status = 400 :=
      (serve_rejected fresh other outside asked).1.trans bad
    refine ⟨iff_of_false ?_ ?_, fun _ => status⟩
    · rw [status]
      decide
    · rintro ⟨request, read, admissible⟩
      exact inadmissible request read admissible
  cases read : r.readBody RootRequest.reader with
  | error failure =>
    rw [read] at rejected
    refine rejected failure ?_ (Request.readBody_error read) fun request readToo => by cases readToo
    rw [Request.accept, read]
  | ok request =>
    rcases plain request read with ⟨unpictured, passable⟩
    rw [read] at rejected
    by_cases valid : request.problems.isEmpty = true
    · have accepted : r.accept RootRequest.reader RootRequest.problems = .ok ⟨request, valid⟩ := by
        rw [Request.accept, read]
        exact dif_pos valid
      rw [accepted] at asked
      rcases serve_command (c := c) (s := s) fresh other bodied outside asked with ⟨status, _, _⟩
      rcases Service.createRoot_accepted_iff reachable.sound undisturbed ⟨request, valid⟩ unpictured
        passable with ⟨created, refused⟩
      rw [status]
      refine ⟨created.trans ⟨fun admissible => ⟨request, rfl, admissible⟩, ?_⟩, refused⟩
      rintro ⟨_, same, admissible⟩
      cases same
      exact admissible
    · refine rejected (.refused (.ofProblems request.problems)) ?_ rfl ?_
      · rw [Request.accept, read]
        exact dif_neg valid
      · intro _ same admissible
        cases same
        exact valid admissible.valid

/-- The shirt has no pictures, and its texts and times can be passed. -/
theorem shirtRequest_plain : ∀ request, shirtRequest.readBody RootRequest.reader = .ok request →
    request.images = [] ∧ ∀ parameter ∈ request.parameters ⟨0, 0⟩, parameter.fault? = none := by
  have plain : (shirtRequest.readBody RootRequest.reader).toOption.all (fun request =>
      request.images.isEmpty &&
        (request.parameters ⟨0, 0⟩).all fun parameter => parameter.fault?.isNone) = true := by
    decide +kernel
  intro request read
  rw [read] at plain
  rcases Bool.and_eq_true_iff.mp plain with ⟨unpictured, passable⟩
  refine ⟨List.isEmpty_iff.mp unpictured, fun parameter member => ?_⟩
  exact Option.isNone_iff_eq_none.mp (List.all_eq_true.mp passable parameter member)

/-- The shirt is created where there is nothing yet, so its body is read as one that can be. -/
theorem postProduct_created_iff_shirt :
    (serve (.calm ⟨0, 0⟩) "shirt" (.start 16) shirtRequest).1.status = 201 ∧
      ∃ request, shirtRequest.readBody RootRequest.reader = .ok request ∧
        request.Admissible Tables.empty := by
  have created := shirtRequest_created.1
  exact ⟨created, (postProduct_created_iff (.start 16) (fun _ => rfl) "shirt" rfl
    shirtRequest_path shirtRequest_plain).1.mp created⟩

end Http
end Shop
