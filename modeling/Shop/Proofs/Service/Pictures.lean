import Shop.Proofs.Catalog.Pictures
import Shop.Proofs.Catalog.Resolving
import Shop.Proofs.Picture.Files
import Shop.Proofs.Service.Creations
import Shop.Proofs.Service.RootReasons
import Shop.Proofs.Service.Untouched

/-!
# The pictures of live roots

Pictures are kept by the prefix of their root and their position, not by a number of their own, and
are not taken back where a transaction fails.  They last because a request for a new root looks for
its prefix among the live roots before it keeps anything: it stops if there is one, and else the
files it writes are of another prefix than those of all live roots, whether it ends well or not.
-/

namespace Shop

/-! ## Rows of pictures -/

/-- The live images of a root. -/
def Tables.imagesOf (t : Tables) (rootId : Int) : List ProductImage :=
  (t.live .image).filter (·.rootId == rootId)

/-- The addresses of the renditions of an image. -/
def ProductImage.urls (row : ProductImage) : List String :=
  [row.thumbnailUrl, row.mainUrl, row.fullUrl]

/-- Whether a row is of a picture that was kept at a position of a root: the files of the position
hold the renditions, and the addresses of the row lead to these files. -/
structure ResolvedImage.KeptAs (image : ResolvedImage) (shelf : Shelf) (sku : String)
    (position : Nat) (row : ProductImage) : Prop where
  files : shelf.Holds sku position image.renditions
  urls : row.urls = Shelf.fileNames.map (Http.address sku position)
  pictures : row.urls.map (Http.pictureAt? shelf) =
    [some image.renditions.thumbnail, some image.renditions.main, some image.renditions.full]

/-- Whether rows are of the pictures of a root, in their order, from a position on. -/
def Shelf.KeptFrom (shelf : Shelf) (sku : String) (position : Nat) (images : List ResolvedImage)
    (rows : List ProductImage) : Prop :=
  List.Forall₂ (fun indexed row => indexed.1.KeptAs shelf sku indexed.2 row)
    (images.zipIdx position) rows

section

variable {touched : String → Nat → Prop} {shelf shelf' : Shelf} {sku : String} {position : Nat}

theorem ResolvedImage.KeptAs.of_holds {image : ResolvedImage} {row : ProductImage}
    (restricted : Rule.isSku sku = true)
    (urls : row.urls = Shelf.fileNames.map (Http.address sku position))
    (holds : shelf.Holds sku position image.renditions) :
    image.KeptAs shelf sku position row := by
  have found {file : String} (member : file ∈ Shelf.fileNames) :=
    Http.pictureAt?_address restricted position member shelf
  refine ⟨holds, urls, ?_⟩
  rw [urls, Shelf.fileNames]
  simp only [List.map_cons, List.map_nil]
  rw [found (by decide), found (by decide), found (by decide), holds.thumbnail, holds.main,
    holds.full]

/-- Addresses lead to the same pictures on a shelf whose files there were spared. -/
theorem Shelf.Spares.pictureAt?_eq (spares : shelf.Spares touched shelf')
    (restricted : Rule.isSku sku = true) (untouched : ¬ touched sku position)
    {urls : List String} (shown : urls = Shelf.fileNames.map (Http.address sku position)) :
    ∀ url ∈ urls, Http.pictureAt? shelf' url = Http.pictureAt? shelf url := by
  rw [shown]
  refine List.forall_mem_map.mpr fun file member => ?_
  rw [Http.pictureAt?_address restricted position member,
    Http.pictureAt?_address restricted position member]
  exact spares sku position untouched file

theorem ResolvedImage.KeptAs.spared {image : ResolvedImage} {row : ProductImage}
    (kept : image.KeptAs shelf sku position row) (spares : shelf.Spares touched shelf')
    (restricted : Rule.isSku sku = true) (untouched : ¬ touched sku position) :
    image.KeptAs shelf' sku position row where
  files := spares.holds untouched kept.files
  urls := kept.urls
  pictures := (List.map_congr_left (spares.pictureAt?_eq restricted untouched kept.urls)).trans
    kept.pictures

theorem Shelf.KeptFrom.spared {images : List ResolvedImage} {rows : List ProductImage}
    (kept : shelf.KeptFrom sku position images rows) (spares : shelf.Spares touched shelf')
    (restricted : Rule.isSku sku = true) (untouched : ∀ n, ¬ touched sku n) :
    shelf'.KeptFrom sku position images rows :=
  kept.imp fun indexed _ keptAs => keptAs.spared spares restricted (untouched indexed.2)

/-- The rows of a root show the addresses of their positions. -/
theorem Shelf.KeptFrom.urls {images : List ResolvedImage} {rows : List ProductImage}
    (kept : shelf.KeptFrom sku position images rows) {n : Nat} {row : ProductImage}
    (found : rows[n]? = some row) :
    row.urls = Shelf.fileNames.map (Http.address sku (position + n)) := by
  induction images generalizing position n rows with
  | nil =>
    cases kept
    cases found
  | cons image images inductionHypothesis =>
    cases kept with
    | cons first later =>
      cases n with
      | zero =>
        cases found
        exact first.urls
      | succ n =>
        rw [← Nat.succ_add_eq_add_succ]
        exact inductionHypothesis later found

end

/-! ## What actions do to the shelf -/

namespace Action

variable {touched : String → Nat → Prop} {c : Context} {p : Progress}

/-- An action that spares the files of all pictures but some, from where it starts, whether it ends
well or fails. -/
def SparesAt (touched : String → Nat → Prop) (c : Context) (p : Progress) (a : Action α) : Prop :=
  p.session.shelf.Spares touched (a.perform c p).2.session.shelf

namespace SparesAt

theorem of_within {allowed : Effect → Prop} {a : Action α} (within : a.Within allowed)
    (none : ¬ allowed .picture) : a.SparesAt touched c p := fun sku position _ file => by
  rw [(within c p).shelf_eq none]

theorem bind {a : Action α} {next : α → Action β} (first : a.SparesAt touched c p)
    (rest : ∀ x q, a.perform c p = (.ok x, q) → (next x).SparesAt touched c q) :
    (a >>= next).SparesAt touched c p := by
  unfold SparesAt at first rest ⊢
  rw [perform_bind]
  rcases ran : a.perform c p with ⟨failure | x, q⟩
  · rw [ran] at first
    exact first
  · rw [ran] at first
    exact first.trans (rest x q ran)

theorem spares_ok {a : Action α} {x : α} {q : Progress} (spares : a.SparesAt touched c p)
    (done : a.perform c p = (.ok x, q)) : p.session.shelf.Spares touched q.session.shelf := by
  unfold SparesAt at spares
  rwa [done] at spares

/-- What a transaction that fails takes back are rows, not files. -/
theorem transaction {a : Action α} (spares : ∀ p, a.SparesAt touched c p) :
    (Action.transaction a).SparesAt touched c p := by
  have marks : mark.Within (· ∈ ([] : List Effect)) := .statement (.select _)
  have begins {p : Progress} : mark.SparesAt touched c p := of_within marks List.not_mem_nil
  have whole : (marked a).SparesAt touched c p :=
    bind begins fun _ _ _ => bind (spares _) fun _ _ _ => bind begins fun _ _ _ => .refl _
  unfold SparesAt at whole ⊢
  rw [perform_transaction]
  rcases ran : (marked a).perform c p with ⟨failure | x, after⟩
  · rw [ran] at whole
    exact whole
  · rw [ran] at whole
    exact whole

end SparesAt
end Action

/-! ## Running the plan of a root -/

namespace Service

open Shop.Action

variable {touched : String → Nat → Prop} {c : Context} {p q : Progress}

theorem answer_honest {call : Call} {reply : call.Reply}
    (done : Action.perform (answer call) c p = (.ok reply, q)) : call.Honest reply := by
  cases call with
  | createRoot root =>
    rcases perform_insert_ok (k := .root) done with ⟨⟨id, rfl⟩, _⟩
    rfl
  | _ => trivial

/-- A call spares the files of all pictures but the one that it keeps. -/
theorem answer_spares (restricted : ∀ sku n, touched sku n → Rule.isSku sku = true) {call : Call}
    (keeps : call.KeepsOnly touched) : Action.SparesAt touched c p (answer call) := by
  cases call with
  | keepImage sku position renditions =>
    change p.session.shelf.Spares touched
      ((keepPicture sku position renditions).perform c p).2.session.shelf
    have own : ∀ sku' n, sku' = sku ∧ n = position → touched sku' n := by
      rintro _ _ ⟨rfl, rfl⟩
      exact keeps
    rw [perform_keepPicture]
    cases c.faults.picture p.pictures with
    | some mishap =>
      exact (Shelf.spares_keepPart (restricted _ _ keeps) _ renditions mishap.steps).mono own
    | none => exact (Shelf.spares_keep (restricted _ _ keeps) _ _ renditions).mono own
  | _ => exact .of_within (answer_within _) (by simp [Call.effects])

/-- A plan spares the files of all pictures but those that its calls may keep. -/
theorem plan_spares {plan : Plan α} {results : α → Prop}
    (restricted : ∀ sku n, touched sku n → Rule.isSku sku = true)
    (all : plan.All (·.KeepsOnly touched) results) :
    Action.SparesAt touched c p (plan.run answer) := by
  induction plan generalizing p with
  | done a => exact .refl _
  | refused refusal => exact .refl _
  | call call next inductionHypothesis =>
    exact .bind (answer_spares restricted all.1) fun reply q answered =>
      inductionHypothesis reply (all.2 reply (answer_honest answered))

theorem plan_results {plan : Plan α} {calls : Call → Prop} {results : α → Prop} {x : α}
    (all : plan.All calls results) (done : Action.perform (plan.run answer) c p = (.ok x, q)) :
    results x := by
  induction plan generalizing p with
  | done a =>
    cases done
    exact all
  | refused refusal => cases done
  | call call next inductionHypothesis =>
    rcases perform_bind_ok.mp done with ⟨reply, middle, answered, rest⟩
    exact inductionHypothesis reply (all.2 reply (answer_honest answered)) rest

theorem plan_bind_ok {plan : Plan α} {next : α → Plan β} {y : β}
    (done : Action.perform ((plan >>= next).run answer) c p = (.ok y, q)) :
    ∃ x middle, Action.perform (plan.run answer) c p = (.ok x, middle) ∧
      Action.perform ((next x).run answer) c middle = (.ok y, q) := by
  rw [run_bind] at done
  exact perform_bind_ok.mp done

theorem plan_perform_ok {call : Call} {reply : call.Reply}
    (done : Action.perform ((Plan.perform call).run answer) c p = (.ok reply, q)) :
    Action.perform (answer call) c p = (.ok reply, q) := by
  rwa [run_perform] at done

theorem createImage_kept {root : ProductRoot} (restricted : Rule.isSku root.skuPrefix = true)
    {position : Nat} {image : ResolvedImage} {row : ProductImage}
    (done : Action.perform ((Creation.createImage root position image).run answer) c p =
      (.ok row, q)) :
    image.KeptAs q.session.shelf root.skuPrefix position row := by
  rcases plan_bind_ok done with ⟨(found : Locations), middle, kept, stored⟩
  have kept := plan_perform_ok kept
  have stored := plan_perform_ok stored
  have same : q.session.shelf = middle.session.shelf :=
    ((answer_within _).reach_ok stored).shelf_eq (by simp [Call.effects])
  rcases perform_insert_ok (k := .image) stored with ⟨⟨id, rfl⟩, _⟩
  rcases perform_keepPicture_ok kept with ⟨shelf, placed, session⟩
  rcases Shelf.keep_ok restricted placed with ⟨rfl, holds⟩
  rw [same, session]
  exact .of_holds restricted rfl holds

/-- The images of a root that were written are of its pictures, in their order: what is kept for a
later position leaves those before it. -/
theorem createImages_kept {root : ProductRoot} (restricted : Rule.isSku root.skuPrefix = true)
    {position : Nat} {images : List ResolvedImage} {rows : List ProductImage}
    (done : Action.perform ((Creation.createImages root position images).run answer) c p =
      (.ok rows, q)) :
    q.session.shelf.KeptFrom root.skuPrefix position images rows := by
  induction images generalizing position p rows with
  | nil =>
    cases done
    exact .nil
  | cons image images inductionHypothesis =>
    rcases plan_bind_ok done with ⟨row, middle, first, done⟩
    rcases plan_bind_ok done with ⟨rest, last, later, returned⟩
    cases returned
    have spares : Action.SparesAt (fun sku n => sku = root.skuPrefix ∧ position + 1 ≤ n) c middle
        ((Creation.createImages root (position + 1) images).run answer) :=
      plan_spares (fun sku n own => own.1 ▸ restricted) (Creation.createImages_all _ _ _)
    refine .cons ?_ (inductionHypothesis later)
    exact (createImage_kept restricted first).spared (spares.spares_ok later) restricted fun own =>
      Nat.not_succ_le_self position own.2

/-- The root that a transaction has committed shows the images of its pictures. -/
theorem creation_kept {request : RootRequest} (restricted : Rule.isSku request.sku = true)
    {images : List ResolvedImage} {clock : Instant} {view : RootView}
    (done : (creation request images clock).perform c p = (.ok view, q)) :
    q.session.shelf.KeptFrom request.sku 0 images view.images := by
  rcases perform_transaction_ok done with ⟨before, after, ran, _, ended⟩
  rw [Creation.createRoot_eq] at ran
  rcases plan_bind_ok ran with ⟨_, _, _, ran⟩
  rcases plan_bind_ok ran with ⟨(root : ProductRoot), _, written, ran⟩
  rcases plan_bind_ok ran with ⟨rows, middle, kept, ran⟩
  have own : root.skuPrefix = request.sku := answer_honest (plan_perform_ok written)
  have rest : (Creation.completed (request.withDefaults clock) images
      ((request.withDefaults clock).availableOn.getD clock) root rows).All
        (·.KeepsOnly fun _ _ => False) fun view => view.images = rows :=
    Creation.completed_all _ _ _ _ _
  have spares := plan_spares (c := c) (p := middle) (fun _ _ nowhere => nowhere.elim) rest
  rw [ended, plan_results rest ran, ← own]
  rw [← own] at restricted
  exact (createImages_kept restricted kept).spared (spares.spares_ok ran) restricted fun _ => id

end Service

/-! ## Making pictures ready -/

/-- The pictures of a request, made ready with what a context fetches. -/
def Context.resolved (c : Context) (inputs : List ImageInput) :
    Except Failure (List ResolvedImage) :=
  (ImageInput.resolveAll (m := Id) c.download inputs).run

/-- Whether an action does nothing in a context but end as a computation says. -/
def Action.Computes (c : Context) (a : Action α) (computed : ExceptT Failure Id α) : Prop :=
  ∀ p, a.perform c p = (computed.run, p)

theorem Action.Computes.bind {c : Context} {a : Action α} {computed : ExceptT Failure Id α}
    {next : α → Action β} {computedNext : α → ExceptT Failure Id β} (first : a.Computes c computed)
    (rest : ∀ x, (next x).Computes c (computedNext x)) :
    (a >>= next).Computes c (computed >>= computedNext) := by
  intro p
  rw [perform_bind, first]
  change _ = (Id.run (ExceptT.bindCont computedNext computed.run), p)
  cases computed.run with
  | error failure => rfl
  | ok x => exact rest x p

namespace Service

variable {c : Context}

theorem orFail_computes (result : Except PictureFault α) :
    Action.Computes c (ImageInput.orFail (m := Work) result) (ImageInput.orFail result) := by
  cases result <;> exact fun _ => rfl

theorem fetch_computes (position : Nat) (address : String) :
    Action.Computes c (ImageInput.fetch Action.downloader position address)
      (ImageInput.fetch (m := Id) c.download position address) := by
  have lifted : Action.Computes c (ExceptT.lift (Action.downloader address))
      (ExceptT.lift (m := Id) (c.download address)) := fun _ => rfl
  refine .bind lifted fun answered => ?_
  cases answered <;> exact fun _ => rfl

theorem resolve_computes (position : Nat) (input : ImageInput) :
    Action.Computes c (input.resolve Action.downloader position)
      (input.resolve (m := Id) c.download position) := by
  refine .bind (orFail_computes _) fun kind => ?_
  cases kind with
  | base64 => exact .bind (orFail_computes _) fun raster _ => rfl
  | url =>
    exact .bind (fetch_computes _ _) fun bytes => .bind (orFail_computes _) fun raster _ => rfl

/-- Making pictures ready depends on the context alone. -/
theorem resolveFrom_computes (position : Nat) (inputs : List ImageInput) :
    Action.Computes c (ImageInput.resolveFrom Action.downloader position inputs)
      (ImageInput.resolveFrom (m := Id) c.download position inputs) := by
  induction inputs generalizing position with
  | nil => exact fun _ => rfl
  | cons input inputs inductionHypothesis =>
    exact .bind (resolve_computes _ _) fun image =>
      .bind (inductionHypothesis _) fun images _ => rfl

/-! ## Creating roots -/

open Shop.Action

variable {p q : Progress}

/-- Create a root for a request whose pictures are ready. -/
def createRootWith (images : List ResolvedImage) (request : RootRequest) : Action Reply := do
  ensure (Rule.uniqueNames (request.options.map (·.name)))
  let _ ← ensure (Variant.ensureLimit request.optionSizes)
  let clock := (← context).clock
  let request := request.withDefaults clock
  ensureFree (← statement (Store.prefixTaken request.sku))
    ("product with sku '" ++ request.sku ++ "' already exists")
  let view ← transaction ((Creation.createRoot request images clock).run answer)
  publish Rule.productCreated view.toJson
  return .created view.toJson

/-- Where the pictures of a request can be made ready, that is all that making them ready does. -/
theorem createRoot_of_resolved {request : RootRequest} {images : List ResolvedImage}
    (resolved : c.resolved request.images = .ok images) :
    (createRoot request).perform c p = (createRootWith images request).perform c p := by
  unfold createRoot createRootWith
  refine perform_bind_congr fun _ _ _ => perform_bind_congr fun _ _ _ =>
    perform_bind_congr fun found q asked => perform_bind_congr fun _ _ _ =>
      perform_bind_congr fun _ q' _ => ?_
  have made : Action.perform (ImageInput.resolveAll downloader request.images) c q' =
      (.ok images, q') := by
    rw [← resolved]
    exact resolveFrom_computes 0 (ImageInput.dedupe request.images) q'
  cases asked
  exact perform_bind_of_ok made

/-- A request whose pictures can be made ready is answered as with these. -/
theorem serve_resolved {r : Http.Request} {request : Accepted RootRequest.problems}
    (served : r.served? = some (.createRoot request)) {images : List ResolvedImage}
    (resolved : c.resolved request.val.images = .ok images) (fresh : String) (s : Session) :
    (Http.serve c fresh s r).1.status = ((createRootWith images request.val).serve c s).1.status ∧
      (Http.serve c fresh s r).2 = ((createRootWith images request.val).serve c s).2 := by
  have same : (createRoot request.val).serve c s =
      (createRootWith images request.val).serve c s := by
    rw [Action.serve, Action.serve, createRoot_of_resolved resolved]
  rw [← same]
  exact Http.serve_served c fresh s served

/-- The request to create a root spares the pictures of all prefixes but its own, and those of its
own too where a live root has it. -/
theorem createRoot_spares {request : RootRequest} (restricted : Rule.isSku request.sku = true) :
    (createRoot request).SparesAt (fun sku _ => sku = request.sku ∧
      ∀ root ∈ p.session.tables.live .root, root.skuPrefix ≠ request.sku) c p := by
  have still {α : Type} {touched : String → Nat → Prop} {p : Progress} {a : Action α}
      (within : a.Within (· ∈ ([] : List Effect))) : a.SparesAt touched c p :=
    .of_within within List.not_mem_nil
  refine .bind (still (.ensure _)) fun _ p named => ?_
  rcases perform_ensure_ok.mp named with ⟨_, rfl⟩
  refine .bind (still (.ensure _)) fun _ p limited => ?_
  rcases perform_ensure_ok.mp limited with ⟨_, rfl⟩
  refine .bind (still .context) fun found _ asked => ?_
  cases asked
  refine .bind (still (.statement (.passing (.select _) _))) fun taken looked answered => ?_
  refine .bind (still (.ensureFree _ _)) fun _ _ free => ?_
  -- The request goes on only where the prefix was free, so what it keeps from here on may be kept.
  rcases perform_ensureFree_ok.mp free with ⟨rfl, _⟩
  have untaken : ∀ root ∈ p.session.tables.live .root, root.skuPrefix ≠ request.sku :=
    fun root alive same => absurd (beq_iff_eq.mpr same)
      (List.any_eq_false.mp (perform_lookup_ok answered).1.symm root alive)
  refine .bind (still (resolveFrom_within _ _)) fun images _ _ => ?_
  refine .bind (.transaction fun _ => ?_) fun view _ _ => .bind (.refl _) fun _ _ _ => .refl _
  have own := (Creation.createRoot_all (request.withDefaults c.clock) images c.clock).mono
    (fun _ keeps => keeps.mono fun sku n same => And.intro same untaken) fun _ holds => holds
  exact plan_spares (fun sku n own => own.1 ▸ restricted) own

/-- The root that a request has created shows the images of its pictures, and is what the plan for
these pictures writes. -/
theorem createRoot_kept {request : RootRequest} (restricted : Rule.isSku request.sku = true)
    (numbered : p.session.tables.Numbered p.session.sequences) {reply : Reply}
    (done : (createRoot request).perform c p = (.ok reply, q)) :
    ∃ images, ∃ view : RootView, ∃ links, c.resolved request.images = .ok images ∧
      reply = .created view.toJson ∧
      p.session.tables.Gains (view.tables links) q.session.tables ∧
      view.ComposedFrom Listing.stored (request.withDefaults c.clock) c.clock links ∧
      q.session.shelf.KeptFrom request.sku 0 images view.images ∧
      (Creation.createRoot (request.withDefaults c.clock) images c.clock).Writes Listing.stored
        p.session.tables q.session.tables view := by
  rcases createRoot_parts done with
    ⟨ready, images, view, before, committed, made, steps, created, replied, ended⟩
  have written := (creation_writes (steps.numbered numbered) created).1
  rw [steps.tables_eq] at written
  rcases Creation.createRoot_writes written with ⟨links, gains, composed⟩
  have resolved := resolveFrom_computes (c := c) 0 (ImageInput.dedupe request.images) ready
  rw [ended]
  exact ⟨images, view, links, congrArg Prod.fst (resolved.symm.trans made), replied, gains, composed,
    creation_kept restricted created, written⟩

end Service

/-! ## What commands do to pictures -/

/-- Only a new root brings new pictures. -/
theorem Command.shelf_eq {command : Command} (other : ∀ request, command ≠ .createRoot request)
    (c : Context) (s : Session) : (command.action.serve c s).2.shelf = s.shelf := by
  refine (command.within.serve c s).shelf_eq ?_
  cases command with
  | createRoot request => exact absurd rfl (other request)
  | _ => simp [effects]

section

variable {t t' : Tables} {kept : Listing → Listing} {request : RootRequest} {now : Instant}
  {view : RootView} {links : List VariantLink}

/-- The roots that were there before a root was created keep their images. -/
theorem Tables.Gains.imagesOf_eq (gains : t.Gains (view.tables links) t')
    (composed : view.ComposedFrom kept request now links) {root : ProductRoot}
    (alive : root ∈ t.live .root) : t'.imagesOf root.id = t.imagesOf root.id := by
  have others : view.images.filter (·.rootId == root.id) = [] := by
    refine List.filter_eq_nil_iff.mpr fun image member own => ?_
    refine gains.unused .root view.root List.mem_cons_self root (Tables.mem_live.mp alive).1 ?_
    exact (composed.images image member).symm.trans (beq_iff_eq.mp own)
  rw [imagesOf, gains.live_eq, List.filter_append]
  change _ ++ view.images.filter _ = _
  rw [others, List.append_nil]
  rfl

theorem RootView.ComposedFrom.imagesOf_root (composed : view.ComposedFrom kept request now links)
    (gains : t.Gains (view.tables links) t') (owned : t.Owned) :
    t'.imagesOf view.root.id = view.images := by
  have whole : view.images.filter (·.rootId == view.root.id) = view.images :=
    List.filter_eq_self.mpr fun image member => beq_iff_eq.mpr (composed.images image member)
  have own : view.root ∈ (view.tables links).rows .root := List.mem_cons_self
  exact (gains.filter_owner owned (k := .image) (j := .root) (fun _ => rfl) own).trans whole

end

/-- A root that is left when another one was archived with its images keeps its own. -/
theorem Tables.imagesOf_archiveEach {t : Tables} {id : Int} {now : Instant} {root : ProductRoot}
    (left : root ∈ (t.archiveEach [.link, .value, .option, .product, .image, .root]
      (t.goesWithRoot id) now).live .root) :
    (t.archiveEach [.link, .value, .option, .product, .image, .root] (t.goesWithRoot id)
      now).imagesOf root.id = t.imagesOf root.id := by
  rw [live_archiveEach _ (by decide), if_pos (by decide), List.mem_filter,
    Bool.not_eq_true'] at left
  have different : (root.id == id) = false := left.2
  unfold imagesOf
  rw [live_archiveEach _ (by decide), if_pos (by decide), List.filter_filter]
  refine List.filter_congr fun image _ => ?_
  cases own : image.rootId == root.id with
  | false => rfl
  | true =>
    change (true && !(image.rootId == id)) = true
    rw [beq_iff_eq.mp own, different]
    rfl

/-- Only a new root brings new roots and images, and roots that are left keep their images. -/
theorem Command.imagesOf_eq {command : Command} (other : ∀ request, command ≠ .createRoot request)
    (c : Context) (s : Session) :
    ∀ root ∈ (command.action.serve c s).2.tables.live .root, root ∈ s.tables.live .root ∧
      (command.action.serve c s).2.tables.imagesOf root.id = s.tables.imagesOf root.id := by
  intro root left
  have old : root ∈ s.tables.live .root := by
    refine ((command.within.serve c s).live_sublist (k := .root) (by decide) ?_ ?_).subset left
    all_goals
      cases command with
      | createRoot request => exact absurd rfl (other request)
      | _ => simp [effects]
  refine ⟨old, ?_⟩
  have spared (spares : command.effects.all (·.kind? != some .image) = true) :
      (command.action.serve c s).2.tables.imagesOf root.id = s.tables.imagesOf root.id := by
    have same : (command.action.serve c s).2.tables.rows .image = s.tables.rows .image :=
      (command.within.serve c s).rows_eq fun e may => by
        simpa using List.all_eq_true.mp spares e may
    rw [Tables.imagesOf, Tables.live, same]
    rfl
  cases command with
  | createRoot request => exact absurd rfl (other request)
  | archiveRoot id =>
    rcases Action.serve_cases (Command.archiveRoot id).action c s with
      ⟨failure, q, failed, replied⟩ | ⟨reply, q, ran, replied⟩
    · rw [replied]
      exact congrArg (Tables.imagesOf · root.id)
        (Service.archiveRoot_atomic id c _ failure q failed).1
    · rw [replied] at left ⊢
      have tables := Service.archiveRoot_ok ran
      change root ∈ q.session.tables.live .root at left
      rw [tables] at left ⊢
      exact Tables.imagesOf_archiveEach left
  | _ => exact spared rfl

/-! ## Histories -/

namespace Session

/-- Whatever happens next, whether it ends well or not, the files of live roots stay as they are. -/
theorem spares_after (s : Session) (next : Happening) {root : ProductRoot}
    (alive : root ∈ s.tables.live .root) :
    s.shelf.Spares (fun sku _ => sku ≠ root.skuPrefix) (s.after next).shelf := by
  rcases s.after_cases next with
    ⟨_, same⟩ | ⟨c, fresh, r, request, rfl, served⟩ | ⟨c, command, other, ended⟩
  · exact same ▸ .refl _
  · have spares := Service.createRoot_spares (c := c) (p := .start s)
      (RootRequest.accepted_sku request.property)
    have shelf : (s.after (.served c fresh r)).shelf =
        ((Service.createRoot request.val).perform c (.start s)).2.session.shelf :=
      congrArg Session.shelf ((Http.serve_served c fresh s served).2.trans (Action.serve_snd _ c s))
    rw [shelf]
    refine Shelf.Spares.mono spares fun sku _ own same => ?_
    exact own.2 root alive (same.symm.trans own.1)
  · rw [ended, command.shelf_eq other]
    exact .refl _

/-- After anything that happens, a live root was so before and has the images that it had, or was
just created and shows those of the pictures of its request. -/
theorem images_after {s : Session} (reachable : Reachable s) (next : Happening) :
    ∀ root ∈ (s.after next).tables.live .root,
      (root ∈ s.tables.live .root ∧
        (s.after next).tables.imagesOf root.id = s.tables.imagesOf root.id) ∨
      ∃ c fresh r request view images, next = .served c fresh r ∧
        Http.Creates c fresh s r request view ∧ view.root = root ∧
        c.resolved request.images = .ok images ∧
        (s.after next).tables.imagesOf root.id = view.images ∧
        (s.after next).shelf.KeptFrom root.skuPrefix 0 images view.images := by
  intro root alive
  rcases s.after_cases next with
    ⟨live, _⟩ | ⟨c, fresh, r, request, rfl, served⟩ | ⟨c, command, other, ended⟩
  · refine .inl ⟨live .root (by decide) ▸ alive, ?_⟩
    rw [Tables.imagesOf, live .image (by decide)]
    rfl
  · rcases ran : (Service.createRoot request.val).perform c (.start s) with ⟨failure | reply, q⟩
    · have same : (s.after (.served c fresh r)).tables = s.tables :=
        Http.tables_of_error c fresh served ran
      rw [same] at alive ⊢
      exact .inl ⟨alive, rfl⟩
    · rcases Service.createRoot_kept (RootRequest.accepted_sku request.property)
        reachable.numbered ran with ⟨images, view, links, resolved, rfl, gains, composed, kept, _⟩
      rcases Http.creates_of_ok c fresh served ran with ⟨creates, session⟩
      have ended : s.after (.served c fresh r) = q.session := session
      rw [ended] at alive ⊢
      rw [gains.live_eq] at alive
      rcases List.mem_append.mp alive with old | new
      · exact .inl ⟨old, gains.imagesOf_eq composed old⟩
      · rcases List.mem_singleton.mp new with rfl
        refine .inr ⟨c, fresh, r, request.val, view, images, rfl, creates, rfl, resolved, ?_, ?_⟩
        · exact composed.imagesOf_root gains reachable.owned
        · rw [composed.skuPrefix]
          exact kept
  · rw [ended] at alive ⊢
    exact .inl (command.imagesOf_eq other c s root alive)

/-- A live root goes back to the request that created it: it has the images shown then, and their
files hold the renditions made from that request. -/
theorem images_of_created (queueCapacity : Nat) (history : List Happening) :
    ∀ root ∈ (since queueCapacity history).tables.live .root, ∃ c request view images,
      Created queueCapacity history c request view ∧ view.root = root ∧
      c.resolved request.images = .ok images ∧
      (since queueCapacity history).tables.imagesOf root.id = view.images ∧
      (since queueCapacity history).shelf.KeptFrom root.skuPrefix 0 images view.images := by
  induction history with
  | nil => exact List.forall_mem_nil _
  | cons latest earlier inductionHypothesis =>
    intro root alive
    have reachable : Reachable (since queueCapacity earlier) :=
      since_reachable queueCapacity earlier
    rcases images_after reachable latest root alive with
      ⟨old, same⟩ | ⟨c, fresh, r, request, view, images, rfl, creates, rest⟩
    · rcases inductionHypothesis root old with
        ⟨c, request, view, images, created, shown, resolved, own, kept⟩
      refine ⟨c, request, view, images, created.before latest, shown, resolved, same.trans own, ?_⟩
      refine kept.spared (spares_after _ latest old) (reachable.prefixes_restricted root old) ?_
      exact fun _ other => other rfl
    · exact ⟨c, request, view, images, .now creates, rest⟩

/-- A live image is that of a position of a live root, and has the addresses of the position. -/
theorem placed_of_live (queueCapacity : Nat) (history : List Happening) :
    ∀ image ∈ (since queueCapacity history).tables.live .image,
      ∃ root ∈ (since queueCapacity history).tables.live .root, ∃ position,
        ((since queueCapacity history).tables.imagesOf root.id)[position]? = some image ∧
        image.urls = Shelf.fileNames.map (Http.address root.skuPrefix position) := by
  intro image alive
  have reachable : Reachable (since queueCapacity history) := since_reachable queueCapacity history
  rcases reachable.owned .image image alive .root image.rootId rfl with ⟨root, rootAlive, owner⟩
  rcases images_of_created queueCapacity history root rootAlive with
    ⟨_, _, view, images, _, _, _, own, kept⟩
  have member : image ∈ (since queueCapacity history).tables.imagesOf root.id :=
    List.mem_filter.mpr ⟨alive, beq_iff_eq.mpr owner.symm⟩
  rcases List.mem_iff_getElem?.mp member with ⟨position, found⟩
  refine ⟨root, rootAlive, position, found, ?_⟩
  rw [own] at found
  rw [kept.urls found, Nat.zero_add]

/-- No address is shown twice by live images. -/
theorem urls_nodup (queueCapacity : Nat) (history : List Happening) :
    (((since queueCapacity history).tables.live .image).flatMap (·.urls)).Nodup := by
  have reachable : Reachable (since queueCapacity history) := since_reachable queueCapacity history
  have placed := placed_of_live queueCapacity history
  refine List.nodup_flatMap.mpr ⟨fun image alive => ?_, ?_⟩
  · rcases placed image alive with ⟨root, rootAlive, position, _, urls⟩
    have restricted := reachable.prefixes_restricted root rootAlive
    rw [urls]
    refine List.Nodup.map_on (fun file member file' member' same => ?_) (by decide)
    exact (Http.address_inj restricted restricted member member' same).2.2
  · refine (reachable.numbered.live_nodup .image).pairwise_of_forall_ne ?_
    intro image alive image' alive' different url shown shown'
    rcases placed image alive with ⟨root, rootAlive, position, found, urls⟩
    rcases placed image' alive' with ⟨root', rootAlive', position', found', urls'⟩
    change url ∈ ProductImage.urls image at shown
    change url ∈ ProductImage.urls image' at shown'
    rw [urls] at shown
    rw [urls'] at shown'
    rcases List.mem_map.mp shown with ⟨file, member, rfl⟩
    rcases List.mem_map.mp shown' with ⟨file', member', same⟩
    -- One address is that of one prefix and one position, and live roots differ in their prefixes.
    rcases Http.address_inj (reachable.prefixes_restricted root' rootAlive')
      (reachable.prefixes_restricted root rootAlive) member' member same with ⟨prefixes, rfl, _⟩
    have number : root'.id = root.id := reachable.unclashed.number_eq (k := .root) rootAlive'
      rootAlive (beq_iff_eq.mpr prefixes)
    rw [number] at found'
    exact different (Option.some.inj (found.symm.trans found'))

/-- In every session that has a history, each live root goes back to the request that created it: it
has the images shown then, and the files behind their addresses hold the renditions made from that
request.  No address is shown twice by live images, and whatever happens next, whether it ends well
or not, leaves the files behind these addresses as they are. -/
theorem since_pictures (queueCapacity : Nat) (history : List Happening) :
    let s := since queueCapacity history
    (∀ root ∈ s.tables.live .root, ∃ c request view images,
      Created queueCapacity history c request view ∧ view.root = root ∧
      c.resolved request.images = .ok images ∧
      (s.tables.live .image).filter (·.rootId == root.id) = view.images ∧
      s.shelf.KeptFrom root.skuPrefix 0 images view.images) ∧
    ((s.tables.live .image).flatMap (·.urls)).Nodup ∧
    ∀ next, ∀ image ∈ s.tables.live .image, ∀ url ∈ image.urls,
      Http.pictureAt? (s.after next).shelf url = Http.pictureAt? s.shelf url := by
  intro s
  refine ⟨images_of_created queueCapacity history, urls_nodup queueCapacity history, ?_⟩
  intro next image alive
  rcases placed_of_live queueCapacity history image alive with
    ⟨root, rootAlive, position, _, urls⟩
  have restricted := (since_reachable queueCapacity history).prefixes_restricted root rootAlive
  exact (spares_after s next rootAlive).pictureAt?_eq restricted (fun other => other rfl) urls

end Session

/-! ## Posters -/

theorem exists_ok_of_any {result : Except ε α} {p : α → Bool}
    (holds : result.toOption.any p = true) : ∃ a, result = .ok a ∧ p a = true := by
  cases result with
  | error _ => cases holds
  | ok a => exact ⟨a, rfl, holds⟩

/-- A request to create the root of a poster in two sizes, with the dot in three entries. -/
def Http.posterRequest (sku : String) : Http.Request :=
  let dot := "\x7b\"type\": \"base64\", \"data\": \"" ++ ImageInput.dot.data ++ "\""
  jsonRequest .post "/v1/product"
    ("\x7b\"name\": \"Poster\", \"sku\": \"" ++ sku ++ "\", \"options\": [" ++
      "\x7b\"name\": \"size\", \"values\": [\"S\", \"M\"]\x7d], \"images\": [" ++
      "\x7b\"type\": \"base64\", \"data\": \" " ++ ImageInput.dot.data ++ "\"\x7d, " ++
      dot ++ "\x7d, " ++ dot ++ ", \"is_primary\": true\x7d]\x7d")

theorem Http.posterRequest_asks (sku : String) : (posterRequest sku).Asks .post ["product"] :=
  ⟨rfl, shirtRequest_asks.path, by decide⟩

/-- The pictures of a poster, ready to be kept. -/
def posterImages : List ResolvedImage :=
  [⟨.of ImageInput.dotRaster, none, false⟩, ⟨.of ImageInput.dotRaster, none, true⟩]

theorem Context.resolved_repeatedDots {c : Context}
    (offline : c.download = Downloader.unreachable (m := Id)) :
    c.resolved ImageInput.repeatedDots = .ok posterImages := by
  rw [resolved, offline]
  exact ImageInput.resolveAll_repeatedDots

/-- A calm context but for the second picture, of which one file is written before the disk is
full. -/
def Context.crowded : Context :=
  { Context.calm ⟨60, 0⟩ with
    faults := { Faults.none with
      picture := fun n => if n = 1 then some ⟨2, .files "No space left on device"⟩ else none } }

namespace Session

/-- The history of a poster that was just created. -/
def posterHistory : List Happening :=
  [.served (.calm ⟨0, 0⟩) "poster" (Http.posterRequest "poster")]

/-- A print is to be created, but its pictures cannot all be kept. -/
def printing : Happening := .served .crowded "print" (Http.posterRequest "print")

/-- The poster is created with two pictures.  The print is not, and four of its files stay. -/
theorem posterHistory_created :
    (∃ poster, (Http.posterRequest "poster").served? = some (.createRoot poster) ∧
      poster.val.sku = "poster" ∧ poster.val.images = ImageInput.repeatedDots) ∧
    let s := since 16 posterHistory
    ((Http.serve (.calm ⟨0, 0⟩) "poster" (.start 16) (Http.posterRequest "poster")).1.status = 201 ∧
      (s.tables.live .root).map (·.skuPrefix) = ["poster"] ∧
      s.tables.products.length = 2 ∧ (s.tables.live .image).length = 2 ∧
      s.shelf.files.length = 6) ∧
    (Http.serve .crowded "print" s (Http.posterRequest "print")).1.status = 500 ∧
      (s.after printing).shelf.files.length = 10 := by
  let accept (sku : String) :=
    (Http.posterRequest sku).accept RootRequest.reader RootRequest.problems
  -- The pictures are ready here, since to evaluate how they are made so takes too long.
  have ends : (accept "poster").toOption.any (fun poster =>
      (accept "print").toOption.any fun print =>
        let created := (Service.createRootWith posterImages poster.val).serve (.calm ⟨0, 0⟩)
          (.start 16)
        let failed := (Service.createRootWith posterImages print.val).serve .crowded created.2
        decide ((poster.val.sku = "poster" ∧ poster.val.images = ImageInput.repeatedDots ∧
            print.val.images = ImageInput.repeatedDots) ∧
          (created.1.status = 201 ∧
            (created.2.tables.live .root).map (·.skuPrefix) = ["poster"] ∧
            created.2.tables.products.length = 2 ∧ (created.2.tables.live .image).length = 2 ∧
            created.2.shelf.files.length = 6) ∧
          failed.1.status = 500 ∧ failed.2.shelf.files.length = 10)) = true := by
    decide +kernel
  rcases exists_ok_of_any ends with ⟨poster, accepted, ends⟩
  rcases exists_ok_of_any ends with ⟨print, accepted', ends⟩
  rcases of_decide_eq_true ends with ⟨⟨named, dots, dots'⟩, created, failed⟩
  have served := Http.served_of_accept (Http.posterRequest_asks "poster") accepted
  have served' := Http.served_of_accept (Http.posterRequest_asks "print") accepted'
  rcases Service.serve_resolved (c := .calm ⟨0, 0⟩) served
    (dots ▸ Context.resolved_repeatedDots rfl) "poster" (.start 16) with ⟨status, session⟩
  rcases Service.serve_resolved (c := .crowded) served'
    (dots' ▸ Context.resolved_repeatedDots rfl) "print" (since 16 posterHistory) with
    ⟨status', session'⟩
  change since 16 posterHistory = _ at session
  change (since 16 posterHistory).after printing = _ at session'
  refine ⟨⟨poster, served, named, dots⟩, ?_⟩
  dsimp only
  rw [session', status, status', session]
  exact ⟨created, failed⟩

/-- The poster is live with its two pictures, and no address is shown twice.  The print fails when it
has written four files.  They stay, and the addresses of the poster lead where they led. -/
theorem since_pictures_poster :
    let s := since 16 posterHistory
    (∃ root, s.tables.live .root = [root] ∧ (s.tables.live .image).length = 2 ∧
      s.shelf.KeptFrom "poster" 0 posterImages
        ((s.tables.live .image).filter (·.rootId == root.id))) ∧
    ((s.tables.live .image).flatMap (·.urls)).Nodup ∧
    (Http.serve .crowded "print" s (Http.posterRequest "print")).1.status = 500 ∧
    (s.after printing).shelf.files.length = s.shelf.files.length + 4 ∧
    ∀ image ∈ s.tables.live .image, ∀ url ∈ image.urls,
      Http.pictureAt? (s.after printing).shelf url = Http.pictureAt? s.shelf url := by
  rcases since_pictures 16 posterHistory with ⟨pictures, distinct, stay⟩
  rcases posterHistory_created with
    ⟨⟨poster, served, _, dots⟩, ⟨_, roots, _, images, files⟩, failed⟩
  rcases List.map_eq_singleton_iff.mp roots with ⟨root, single, named⟩
  refine ⟨⟨root, single, images, ?_⟩, distinct, failed.1, by rw [failed.2, files], stay printing⟩
  rcases pictures root (single ▸ List.mem_singleton_self root) with
    ⟨c, request, view, ready, created, _, resolved, own, kept⟩
  rcases created.single with ⟨rfl, creates⟩
  cases creates.body.symm.trans (Http.Request.asks_of_createRoot served).2
  rw [dots, Context.resolved_repeatedDots rfl] at resolved
  cases resolved
  rw [own, ← named]
  exact kept

end Session

end Shop
