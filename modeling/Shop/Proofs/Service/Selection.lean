import Shop.Proofs.Catalog.PrimaryImages
import Shop.Proofs.Catalog.Resolving
import Shop.Proofs.Service.Pictures

/-!
# The images of a new root

A root that was created has one image for each data that its request names, in the order in which the
data was named first.  The first of them that the request asks for anywhere is primary, or else the
first of all, for the root and for its first product.
-/

namespace Shop

/-- An image is that of an entry of a request: behind its addresses, which are those of a position,
lie the renditions of the picture that the entry brings, and it tells where the entry was fetched. -/
structure ProductImage.IsOf (row : ProductImage) (download : Downloader Id) (shelf : Shelf)
    (sku : String) (position : Nat) (input : ImageInput) : Prop where
  urls : row.urls = Shelf.fileNames.map (Http.address sku position)
  pictures : ∃ raster, input.picture? download = some raster ∧
    let renditions := Renditions.of raster
    row.urls.map (Http.pictureAt? shelf) =
      [some renditions.thumbnail, some renditions.main, some renditions.full]
  source : row.sourceUrl = input.sourceUrl?.getD ""

namespace ImageInput

variable {download : Downloader Id} {inputs entries : List ImageInput}
  {images : List ResolvedImage}

/-- The place, among the first entries, of the first whose data is asked to be primary by any
entry. -/
def flagged? (inputs : List ImageInput) : Option Nat :=
  (firsts inputs).findIdx? fun first =>
    inputs.any fun other => other.data == first.data && other.isPrimary

/-- The pictures of a request ask to be primary where its entries do. -/
theorem findIdx?_isPrimary
    (ready : List.Forall₂ (fun first => (marked inputs first).ReadyAs download) (firsts inputs)
      images) : images.findIdx? (·.isPrimary) = flagged? inputs := by
  have flags : (firsts inputs).map (fun first => (marked inputs first).isPrimary) =
      images.map (·.isPrimary) := by
    rw [← List.forall₂_eq_eq_eq, List.forall₂_map_left_iff, List.forall₂_map_right_iff]
    refine ready.imp fun first image made => ?_
    rcases made with ⟨_, _, rfl⟩
    rfl
  have places := congrArg (List.findIdx? id) flags
  rw [List.findIdx?_map, List.findIdx?_map] at places
  exact places.symm

/-- Images of pictures that were made ready of entries are those of the entries. -/
theorem isOf_of_kept {shelf : Shelf} {sku : String} {position : Nat} {rows : List ProductImage}
    (ready : List.Forall₂ (fun entry => (marked inputs entry).ReadyAs download) entries images)
    (kept : shelf.KeptFrom sku position images rows)
    (sources : rows.map (·.sourceUrl) = images.map (·.sourceUrl.getD "")) :
    List.Forall₂ (fun entry row => row.IsOf download shelf sku entry.2 entry.1)
      (entries.zipIdx position) rows := by
  induction ready generalizing position rows with
  | nil =>
    cases kept
    exact .nil
  | cons made _ inductionHypothesis =>
    cases kept with
    | cons keptFirst keptRest =>
      rcases made with ⟨raster, valid, rfl⟩
      rcases List.cons.inj sources with ⟨source, sources⟩
      refine .cons ⟨keptFirst.urls, ⟨raster, valid, keptFirst.pictures⟩, source⟩ ?_
      exact inductionHypothesis keptRest sources

end ImageInput

/-- A request for a new root that is answered as created adds the rows that the answer shows, among
them one image for each data that the request names, in the order of the first entries that name it.
The primary image of the root is that of the first data that any entry asks to be primary, or the
first image if there is none, or none if there are no images.  The first product has the same, and all
others have none. -/
theorem Reachable.imageSelection {s : Session} (reachable : Reachable s) (c : Context)
    (fresh : String) {r : Http.Request} (asks : r.Asks .post ["product"])
    (created : (Http.serve c fresh s r).1.status = 201) :
    ∃ (request : RootRequest) (view : RootView) (links : List VariantLink),
      let after := (Http.serve c fresh s r).2
      r.readBody RootRequest.reader = .ok request ∧
      (Http.serve c fresh s r).1.body = .json view.toJson ∧
      after.tables = s.tables ++ view.tables links ∧
      List.Forall₂ (fun entry row => row.IsOf c.download after.shelf request.sku entry.2 entry.1)
        (ImageInput.firsts request.images).zipIdx view.images ∧
      view.PrimaryIs
        (view.images[(ImageInput.flagged? request.images).getD 0]?.map (·.id)) := by
  rcases Http.served_of_created asks created with ⟨request, reply, q, served, done⟩
  rcases Service.createRoot_kept (RootRequest.accepted_sku request.property) reachable.numbered done
    with ⟨images, view, links, resolved, rfl, gains, _, kept, written⟩
  rcases Http.creates_of_ok c fresh served done with ⟨creates, session⟩
  rcases Creation.createRoot_primary written with ⟨primary, sources⟩
  rcases ImageInput.resolveAll_cases c.download request.val.images with
    ⟨made, all, ready⟩ | ⟨_, _, failure, failed, _⟩
  · cases resolved.symm.trans all
    rw [ImageInput.findIdx?_isPrimary ready] at primary
    refine ⟨request.val, view, links, creates.body, creates.shown, ?_, ?_, primary⟩
    · rw [session]
      exact gains.eq_append
    · rw [session]
      exact ImageInput.isOf_of_kept ready kept sources
  · cases resolved.symm.trans failed

theorem ImageInput.flagged?_repeatedDots : flagged? repeatedDots = some 1 := by
  decide +kernel

/-- Of the three entries of the poster two become images, in this order.  The later one is primary,
since an entry with its data asks for it, for the poster and for the first of its two sizes. -/
theorem Reachable.imageSelection_poster :
    let served := Http.serve (.calm ⟨0, 0⟩) "poster" (.start 16) (Http.posterRequest "poster")
    served.1.status = 201 ∧ ∃ (view : RootView) (first second : ProductImage)
      (small medium : ProductView), served.1.body = .json view.toJson ∧
      view.images = [first, second] ∧
      first.IsOf .unreachable served.2.shelf "poster" 0 ImageInput.blankDot ∧
      second.IsOf .unreachable served.2.shelf "poster" 1 ImageInput.dot ∧
      view.products = [small, medium] ∧ view.root.primaryImageId = some second.id ∧
      small.product.primaryImageId = some second.id ∧ medium.product.primaryImageId = none := by
  intro served
  rcases Session.posterHistory_created with
    ⟨⟨poster, commanded, named, dots⟩, ⟨created, _, sizes, _⟩, _⟩
  rcases (Reachable.start 16).imageSelection (.calm ⟨0, 0⟩) "poster"
    (Http.posterRequest_asks "poster") created with
    ⟨request, ⟨root, options, rows, views⟩, links, body, shown, tables, images, primary⟩
  cases body.symm.trans (Http.Request.asks_of_createRoot commanded).2
  rw [named, dots, ImageInput.firsts_repeatedDots] at images
  rw [dots, ImageInput.flagged?_repeatedDots] at primary
  rcases images with _ | ⟨blank, _ | ⟨plain, _ | _⟩⟩
  have two : views.length = 2 := by
    change served.2.tables.products.length = 2 at sizes
    rw [tables] at sizes
    rwa [← List.length_map (·.product)]
  rcases List.length_eq_two.mp two with ⟨small, medium, rfl⟩
  exact ⟨created, _, _, _, small, medium, shown, rfl, blank, plain, rfl, primary.root,
    primary.first small rfl, primary.others medium (List.mem_singleton_self medium)⟩

end Shop
