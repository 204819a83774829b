import Shop.Proofs.Service.Creations
import Shop.Proofs.Service.Explained
import Shop.Proofs.Service.History
import Shop.Proofs.Service.ReadBack
import Shop.Proofs.Service.Untouched
import Shop.Proofs.Store.Belonging

/-!
# Archiving a root

A root is archived by six statements, which choose rows in different ways: some by their root, some
by an option or product that is looked up.  Together they archive what is live and belongs to the
root, and leave every other row as it is.  So a root that has just been created is undone by
archiving it, as far as live rows tell.
-/

namespace Shop
namespace Tables

variable {t : Tables}

/-- What goes with a root that is there is what belongs to it. -/
theorem goesWithRoot_iff {root : ProductRoot} (member : root ∈ t.rows .root) {k : Kind}
    {row : k.Row} : t.goesWithRoot root.id k row = true ↔ t.BelongsTo root.id k row := by
  have ofRoot : t.BelongsTo root.id .root root := .root rfl
  constructor
  · intro gone
    cases k with
    | root => exact .root (beq_iff_eq.mp gone)
    | image | option | product => exact .of_owner member rfl (beq_iff_eq.mp gone) ofRoot
    | value =>
      rcases List.any_eq_true.mp gone with ⟨option, inside, both⟩
      simp only [Bool.and_eq_true, beq_iff_eq] at both
      exact .of_owner (j := .option) inside rfl both.1.symm (.of_owner member rfl both.2 ofRoot)
    | link =>
      rcases List.any_eq_true.mp gone with ⟨product, inside, both⟩
      simp only [Bool.and_eq_true, beq_iff_eq] at both
      exact .of_owner (j := .product) inside rfl both.1.symm (.of_owner member rfl both.2 ofRoot)
    | _ => cases gone
  · intro belongs
    induction belongs with
    | root own => exact beq_iff_eq.mpr own
    | owned inside belongs _ inductionHypothesis =>
      exact goesWithRoot_owned inside belongs inductionHypothesis

/-- The rows after those of several kinds were archived that go, of which there are no others. -/
theorem rows_archiveEach (t : Tables) {kinds : List Kind} (distinct : kinds.Nodup)
    {gone : (k : Kind) → k.Row → Bool} (stay : ∀ k, k ∉ kinds → ∀ row, gone k row = false)
    (now : Instant) (k : Kind) :
    (t.archiveEach kinds gone now).rows k =
      (t.rows k).map fun row => if k.live row && gone k row then k.archived now row else row := by
  have all : (t.archiveEach kinds gone now).rows k = if k ∈ kinds then
      (t.rows k).map fun row => if k.live row && gone k row then k.archived now row else row
      else t.rows k := by
    clear stay
    induction kinds generalizing t with
    | nil => rfl
    | cons first kinds inductionHypothesis =>
      rcases List.nodup_cons.mp distinct with ⟨fresh, distinct⟩
      rw [archiveEach, List.foldl_cons, ← archiveEach, inductionHypothesis _ distinct]
      by_cases same : k = first
      · subst same
        rw [if_neg fresh, if_pos List.mem_cons_self, archiveWhere, rows_put]
      · have other : (t.archiveWhere first (gone first) now).rows k = t.rows k :=
          rows_put_of_ne t _ same
        rw [other]
        simp only [List.mem_cons, same, false_or]
  rw [all]
  split
  · rfl
  · rename_i missing
    simp only [stay k missing, Bool.and_false, Bool.false_eq_true, if_false, List.map_id']

/-- The tables after a root was archived with all that goes with it. -/
def afterArchiving (t : Tables) (rootId : Int) (now : Instant) : Tables :=
  t.archiveEach [.link, .value, .option, .product, .image, .root] (t.goesWithRoot rootId) now

theorem goesWithRoot_of_not_mem (rootId : Int) (k : Kind)
    (missing : k ∉ [Kind.link, .value, .option, .product, .image, .root]) (row : k.Row) :
    t.goesWithRoot rootId k row = false := by
  cases k with
  | discount | webhook | execution | user => rfl
  | _ => exact absurd (by decide) missing

theorem rows_afterArchiving (t : Tables) (rootId : Int) (now : Instant) (k : Kind) :
    (t.afterArchiving rootId now).rows k = (t.rows k).map fun row =>
      if k.live row && t.goesWithRoot rootId k row then k.archived now row else row :=
  t.rows_archiveEach (by decide) (goesWithRoot_of_not_mem rootId) now k

theorem live_afterArchiving (t : Tables) (rootId : Int) (now : Instant) (k : Kind) :
    (t.afterArchiving rootId now).live k =
      (t.live k).filter fun row => !t.goesWithRoot rootId k row := by
  rw [afterArchiving, live_archiveEach t (by decide)]
  split
  · rfl
  · rename_i missing
    simp only [goesWithRoot_of_not_mem rootId k missing, Bool.not_false, List.filter_true]

/-- Whatever has become of rows by archiving, what belongs to a root now did so before. -/
theorem BelongsTo.before_archiving {rootId otherId : Int} {now : Instant} {k : Kind} {row : k.Row}
    (belongs : (t.afterArchiving rootId now).BelongsTo otherId k row) :
    t.BelongsTo otherId k row := by
  apply belongs.before
  intro j later member
  rw [rows_afterArchiving] at member
  rcases List.mem_map.mp member with ⟨old, inside, rfl⟩
  refine ⟨old, inside, ?_⟩
  split
  · exact ⟨Kind.number_archived now j old, by cases j <;> rfl⟩
  · exact ⟨rfl, rfl⟩

/-- After a root was archived, no live row belongs to it. -/
theorem not_belongsTo_of_live {root : ProductRoot} (member : root ∈ t.rows .root) {now : Instant}
    {k : Kind} {row : k.Row} (alive : row ∈ (t.afterArchiving root.id now).live k) :
    ¬ (t.afterArchiving root.id now).BelongsTo root.id k row := by
  intro belongs
  rw [live_afterArchiving, List.mem_filter] at alive
  have gone := (goesWithRoot_iff member).mpr belongs.before_archiving
  rw [gone] at alive
  cases alive.2

/-- What becomes of a row when a root is archived. -/
structure ArchivedWith (t : Tables) (rootId : Int) (now : Instant) (k : Kind) (row later : k.Row) :
    Prop where
  archived : k.live row = true → t.BelongsTo rootId k row → later = k.archived now row
  kept : k.live row = false ∨ ¬ t.BelongsTo rootId k row → later = row

/-- Archiving a root archives the live rows that belong to it and no others. -/
theorem afterArchiving_forall₂ {root : ProductRoot} (member : root ∈ t.rows .root) (now : Instant)
    (k : Kind) : List.Forall₂ (t.ArchivedWith root.id now k) (t.rows k)
      ((t.afterArchiving root.id now).rows k) := by
  rw [rows_afterArchiving, List.forall₂_map_right_iff, List.forall₂_same]
  intro row _
  constructor
  · intro alive belongs
    rw [alive, (goesWithRoot_iff member).mpr belongs]
    rfl
  · intro stays
    apply if_neg
    rintro both
    rcases Bool.and_eq_true_iff.mp both with ⟨alive, gone⟩
    rcases stays with archived | apart
    · rw [archived] at alive
      cases alive
    · exact apart ((goesWithRoot_iff member).mp gone)

/-- Where rows were gained that all belong to a new root, archiving it leaves alive what was alive
before. -/
theorem Gains.live_afterArchiving {new t' : Tables} {drawn : Sequences} (gains : t.Gains new t')
    (conforms : t.Conforms) (numbered : t'.Numbered drawn) {root : ProductRoot}
    (gained : root ∈ new.rows .root)
    (belong : ∀ k, ∀ row ∈ new.rows k, t'.BelongsTo root.id k row) (now : Instant) (k : Kind) :
    (t'.afterArchiving root.id now).live k = t.live k := by
  have member : root ∈ t'.rows .root := by
    rw [gains.eq_append, rows_append]
    exact List.mem_append_right _ gained
  rw [Tables.live_afterArchiving, gains.live_eq, List.filter_append]
  have stay : (t.live k).filter (fun row => !t'.goesWithRoot root.id k row) = t.live k := by
    apply List.filter_eq_self.mpr
    intro row alive
    rw [Bool.not_eq_true', Bool.eq_false_iff]
    intro gone
    exact ((goesWithRoot_iff member).mp gone).not_mem gains conforms numbered gained
      (mem_live.mp alive).1
  have go : (new.rows k).filter (fun row => !t'.goesWithRoot root.id k row) = [] := by
    apply List.filter_eq_nil_iff.mpr
    intro row inside
    rw [(goesWithRoot_iff member).mpr (belong k row inside)]
    exact Bool.false_ne_true
  rw [stay, go, List.append_nil]

end Tables

/-- The rows of a root that was composed from a request belong to it. -/
theorem RootView.ComposedFrom.belongsTo {kept : Listing → Listing} {request : RootRequest}
    {now : Instant} {view : RootView} {links : List VariantLink} {t t' : Tables}
    (composed : view.ComposedFrom kept request now links) (gains : t.Gains (view.tables links) t') :
    ∀ k, ∀ row ∈ (view.tables links).rows k, t'.BelongsTo view.root.id k row := by
  have inside {j : Kind} {row : j.Row} (member : row ∈ (view.tables links).rows j) :
      row ∈ t'.rows j := by
    rw [gains.eq_append, Tables.rows_append]
    exact List.mem_append_right _ member
  have ofRoot {k : Kind} {row : k.Row} {n : Int} (belongs : k.owner? row = some (.root, n))
      (same : n = view.root.id) : t'.BelongsTo view.root.id k row :=
    .of_owner (j := .root) (inside List.mem_cons_self) belongs same (.root rfl)
  have options := OptionView.owned_of_madeFrom composed.options
  intro k row member
  cases k with
  | root => exact .root (congrArg ProductRoot.id (List.mem_singleton.mp member))
  | image => exact ofRoot rfl (composed.images row member)
  | option =>
    rcases List.mem_map.mp member with ⟨option, shown, rfl⟩
    exact ofRoot rfl (options option shown).1
  | value =>
    rcases List.mem_flatMap.mp member with ⟨option, shown, inOption⟩
    exact .of_owner (j := .option) (inside (List.mem_map_of_mem shown)) rfl
      ((options option shown).2 row inOption) (ofRoot rfl (options option shown).1)
  | product =>
    rcases List.mem_map.mp member with ⟨product, shown, rfl⟩
    exact ofRoot rfl (composed.products product shown).owner
  | link =>
    rcases composed.linksOwned row member with ⟨product, shown, same⟩
    exact .of_owner (j := .product) (inside (List.mem_map_of_mem shown)) rfl same
      (ofRoot rfl (composed.products product shown).owner)
  | _ => cases member

namespace Service

open Shop.Action

variable {c : Context} {s : Session} {root : ProductRoot}

/-- The archiving of a live root that ends well answers with the root as it is then. -/
theorem archiveRoot_answer (numbered : s.tables.Numbered s.sequences)
    (alive : root ∈ s.tables.live .root) {reply : Reply} {q : Progress}
    (done : (archiveRoot root.id).perform c (.start s) = (.ok reply, q)) :
    reply = .ok (Kind.archived c.now .root root).toJson ∧
      q.session.tables = s.tables.afterArchiving root.id c.now := by
  refine ⟨?_, archiveRoot_ok done⟩
  rcases perform_bind_ok.mp done with ⟨archived, middle, ended, returned⟩
  cases returned
  rcases perform_transaction_ok ended with ⟨before, after, ran, began, _⟩
  have answer := (rootArchiving_ok ran).2
  have found : (s.tables.live .root).find? (·.id == root.id) = some root :=
    numbered.find?_live (k := .root) alive
  rw [began, show (Progress.start s).session = s from rfl, found] at answer
  rw [← Option.some.inj answer]

/-- A live root can be archived wherever nothing is made to fail. -/
theorem archiveRoot_accepted (sound : s.Sound) (undisturbed : c.Undisturbed)
    (alive : root ∈ s.tables.live .root) : Fails c s (archiveRoot root.id) fun _ => False :=
  archiveRoot_fails sound (never_disturbed undisturbed) fun missing => missing root alive rfl

end Service

namespace Http

variable {s : Session} {r : Request} {part : String} {root : ProductRoot}

/-- A request to archive a live root does so, unless it fails and leaves the tables as they are. -/
theorem serve_archiveRoot (reachable : Reachable s) (c : Context) (fresh : String)
    (asks : r.Asks .delete ["product_root", part]) (named : readNumber part = .ok root.id)
    (alive : root ∈ s.tables.live .root) :
    let served := serve c fresh s r
    (served.1.status = 200 ∧ served.1.body = .json (Kind.archived c.now .root root).toJson ∧
      served.2.tables = s.tables.afterArchiving root.id c.now) ∨
    (¬ c.Undisturbed ∧ 400 ≤ served.1.status ∧ served.2.tables = s.tables) := by
  intro served
  have stands : r.command = .ok (.archiveRoot root.id) := by
    rw [asks.command rfl, named]
    rfl
  have other : r.method ≠ .options := by simp [asks.method]
  have bodied : r.method ≠ .head := by simp [asks.method]
  rcases serve_command (c := c) (s := s) fresh other bodied asks.outside stands with
    ⟨status, body, session⟩
  change _ = (Action.serve (Service.archiveRoot root.id) c s).1.status at status
  change ∀ shown, (Action.serve (Service.archiveRoot root.id) c s).1.body = _ → _ at body
  change _ = (Action.serve (Service.archiveRoot root.id) c s).2 at session
  rcases Action.serve_cases (Service.archiveRoot root.id) c s with
    ⟨failure, q, failed, replied⟩ | ⟨reply, q, done, replied⟩
  · rw [replied] at status session
    refine .inr ⟨fun undisturbed => ?_, ?_, ?_⟩
    · exact Service.archiveRoot_accepted reachable.sound undisturbed alive (.start s) failure q rfl
        failed
    · rw [status]
      exact failure.status_ge
    · rw [session]
      exact (Service.archiveRoot_atomic root.id c (.start s) failure q failed).1
  · rw [replied] at status body session
    rcases Service.archiveRoot_answer reachable.numbered alive done with ⟨rfl, tables⟩
    exact .inl ⟨status, body _ rfl, (congrArg _ session).trans tables⟩

end Http

/-- A request to archive a live root is answered with success wherever nothing is made to fail, and
otherwise leaves the tables as they are.  If it succeeds, it shows the root as archived, and what was
live and belonged to the root is archived, of whatever kind, while every other row is as it was, in
particular what was archived before and what belongs to another root.  So no live row belongs to the
root.  And where the request that created a root is followed by one that archives it, the live rows
are those that were there before. -/
theorem Reachable.rootArchiving_exact {s : Session} (reachable : Reachable s) :
    (∀ root ∈ s.tables.live .root, ∀ part r, r.Asks .delete ["product_root", part] →
      Http.readNumber part = .ok root.id → ∀ c fresh,
      let served := Http.serve c fresh s r
      let after := served.2.tables
      (c.Undisturbed → served.1.status = 200) ∧ (served.1.status ≠ 200 → after = s.tables) ∧
      (served.1.status = 200 →
        served.1.body = .json (Kind.archived c.now .root root).toJson ∧
        (∀ k, List.Forall₂ (s.tables.ArchivedWith root.id c.now k) (s.tables.rows k)
          (after.rows k)) ∧
        (∀ otherId, otherId ≠ root.id → ∀ k, ∀ row ∈ s.tables.rows k,
          s.tables.BelongsTo otherId k row → row ∈ after.rows k) ∧
        ∀ k, ∀ row ∈ after.live k, ¬ after.BelongsTo root.id k row)) ∧
    ∀ c fresh r, r.Asks .post ["product"] → (Http.serve c fresh s r).1.status = 201 →
      let created := (Http.serve c fresh s r).2
      ∃ view : RootView, (Http.serve c fresh s r).1.body = .json view.toJson ∧
        view.root ∈ created.tables.live .root ∧ ∀ part r', r'.Asks .delete ["product_root", part] →
          Http.readNumber part = .ok view.root.id → ∀ c' fresh',
          let served := Http.serve c' fresh' created r'
          (c'.Undisturbed → served.1.status = 200) ∧
          (served.1.status = 200 → ∀ k, served.2.tables.live k = s.tables.live k) := by
  constructor
  · intro root alive part r asks named c fresh served after
    rcases Http.serve_archiveRoot reachable c fresh asks named alive with
      ⟨status, body, tables⟩ | ⟨disturbed, status, tables⟩
    · have member := (Tables.mem_live.mp alive).1
      refine ⟨fun _ => status, fun failed => absurd status failed, fun _ => ⟨body, ?_, ?_, ?_⟩⟩
      · intro k
        rw [show after = _ from tables]
        exact Tables.afterArchiving_forall₂ member c.now k
      · intro otherId different k row inside belongs
        rw [show after = _ from tables, Tables.rows_afterArchiving]
        refine List.mem_map.mpr ⟨row, inside, if_neg fun both => different ?_⟩
        have gone := (Tables.goesWithRoot_iff member).mp (Bool.and_eq_true_iff.mp both).2
        exact belongs.unique reachable.numbered gone
      · intro k row
        rw [show after = _ from tables]
        exact Tables.not_belongsTo_of_live member
    · have failed : served.1.status ≠ 200 :=
        Nat.ne_of_gt (Nat.lt_of_lt_of_le (by decide) status)
      exact ⟨fun undisturbed => absurd undisturbed disturbed, fun _ => tables,
        fun status => absurd status failed⟩
  · intro c fresh r asks status created
    rcases Http.served_of_created asks status with ⟨request, reply, q, served, done⟩
    rcases Service.createRoot_ok reachable.numbered done with
      ⟨_, view, links, _, committed, _, _, ⟨gains, _⟩, composed, rfl, ended⟩
    rcases Http.creates_of_ok c fresh served done with ⟨creates, session⟩
    have tables : created.tables = committed.session.tables := by
      rw [show created = q.session from session, ended]
    rw [← tables] at gains
    have next : Reachable created := .serve reachable c fresh r
    have gained : view.root ∈ (view.tables links).rows .root := List.mem_singleton_self _
    have alive : view.root ∈ created.tables.live .root := by
      rw [gains.live_eq]
      exact List.mem_append_right _ gained
    refine ⟨view, creates.shown, alive, fun part r' asks' named c' fresh' => ?_⟩
    rcases Http.serve_archiveRoot next c' fresh' asks' named alive with
      ⟨status', _, tables'⟩ | ⟨disturbed, status', _⟩
    · refine ⟨fun _ => status', fun _ k => ?_⟩
      rw [show (Http.serve c' fresh' created r').2.tables = _ from tables']
      exact gains.live_afterArchiving reachable.sound.conforms next.numbered gained
        (composed.belongsTo gains) c'.now k
    · have failed : (Http.serve c' fresh' created r').1.status ≠ 200 :=
        Nat.ne_of_gt (Nat.lt_of_lt_of_le (by decide) status')
      exact ⟨fun undisturbed => absurd undisturbed disturbed,
        fun success => absurd success failed⟩

/-- The shirt is created and then archived: its root with both of its sizes is there no more. -/
theorem Reachable.rootArchiving_exact_shirt :
    let s := (Http.serve (.calm ⟨0, 0⟩) "shirt" (.start 16) Http.shirtRequest).2
    let served := Http.serve (.calm ⟨60, 0⟩) "gone" s (Http.archiveRequest "/v1/product_root/1")
    ∃ root ∈ s.tables.live .root, (s.tables.live .product).length = 2 ∧
      served.1.status = 200 ∧ (∀ k, served.2.tables.live k = []) ∧
      served.1.body = .json (Kind.archived ⟨60, 0⟩ .root root).toJson ∧
      ∀ product ∈ served.2.tables.live .product,
        ¬ served.2.tables.BelongsTo root.id .product product := by
  intro s served
  have reachable : Reachable s := .serve (.start 16) _ _ _
  have asks : (Http.archiveRequest "/v1/product_root/1").Asks .delete ["product_root", "1"] := by
    refine ⟨rfl, ?_, by decide⟩
    rw [Text.splitOn_slash]
    decide +kernel
  have numbered {root : ProductRoot} (alive : root ∈ s.tables.live .root) :
      Http.readNumber "1" = .ok root.id := by
    have number : root.id ∈ (s.tables.live .root).map (·.id) := List.mem_map_of_mem alive
    rw [Http.shirtRequest_roots, List.mem_singleton] at number
    rw [number]
    rfl
  rcases (Reachable.start 16).rootArchiving_exact.2 (.calm ⟨0, 0⟩) "shirt" Http.shirtRequest
    Http.shirtRequest_asks Http.shirtRequest_created.1 with ⟨view, _, alive, undone⟩
  rcases undone "1" _ asks (numbered alive) (.calm ⟨60, 0⟩) "gone" with ⟨succeeds, empties⟩
  have status : served.1.status = 200 := succeeds fun _ => rfl
  rcases reachable.rootArchiving_exact.1 view.root alive "1" _ asks (numbered alive)
    (.calm ⟨60, 0⟩) "gone" with ⟨_, _, archives⟩
  refine ⟨view.root, alive, Http.shirtRequest_created.2, status, fun k => ?_,
    (archives status).1, (archives status).2.2.2 .product⟩
  have none := empties status k
  rwa [show (Session.start 16).tables.live k = [] by cases k <;> rfl] at none

end Shop
