import Shop.Proofs.Http.Addresses
import Shop.Proofs.Http.Asking
import Shop.Proofs.Paging
import Shop.Proofs.Service.Closure
import Shop.Service.Command

/-!
# Lists, page by page

Every list that is served counts the rows of which it shows a page, so its pages can be put together
again.  They give each row once, in an order that does not depend on the pages: by number, and for
executions from the newest to the oldest.  For the webhooks of a type the order is the one in which
the dispatcher finds them.

The store draws its numbers from sequences of 64 bits, and so does a client count pages.  As long as
the sequences have not run out, no list is longer than what a page can count before it.
-/

namespace Shop

/-! ## What is listed -/

/-- Whether a row is listed before another: executions by when they were, the newest first, and all
other rows by their numbers. -/
def Kind.Precedes : (k : Kind) → k.Row → k.Row → Prop
  | .execution, e, f =>
    f.executedOn.before e.executedOn = true ∨ e.executedOn = f.executedOn ∧ f.id < e.id
  | k, row, other => k.number row < k.number other

/-- The live rows of a kind that a condition chooses, as a list shows them. -/
def Tables.listed (t : Tables) : (k : Kind) → (k.Row → Bool) → List k.Row
  | .execution, chosen => ((t.live .execution).filter chosen).mergeSort Store.newerFirst
  | k, chosen => (t.live k).filter chosen

namespace Tables

variable {t : Tables} {drawn : Sequences}

/-- A list shows the chosen rows and no others. -/
theorem listed_perm (t : Tables) (k : Kind) (chosen : k.Row → Bool) :
    (t.listed k chosen).Perm ((t.live k).filter chosen) := by
  cases k with
  | execution => exact List.mergeSort_perm _ _
  | _ => exact .refl _

theorem newerFirst_trans (e f g : Execution) (first : Store.newerFirst e f = true)
    (second : Store.newerFirst f g = true) : Store.newerFirst e g = true := by
  obtain ⟨_, _, _, _, ⟨_, _⟩⟩ := e
  obtain ⟨_, _, _, _, ⟨_, _⟩⟩ := f
  obtain ⟨_, _, _, _, ⟨_, _⟩⟩ := g
  simp only [Store.newerFirst, Instant.before, Bool.or_eq_true, Bool.and_eq_true,
    decide_eq_true_eq, beq_iff_eq, Instant.mk.injEq] at *
  omega

theorem newerFirst_total (e f : Execution) :
    (Store.newerFirst e f || Store.newerFirst f e) = true := by
  obtain ⟨_, _, _, _, ⟨_, _⟩⟩ := e
  obtain ⟨_, _, _, _, ⟨_, _⟩⟩ := f
  simp only [Store.newerFirst, Instant.before, Bool.or_eq_true, Bool.and_eq_true,
    decide_eq_true_eq, beq_iff_eq, Instant.mk.injEq]
  omega

/-- Live rows stand in the order of their numbers. -/
theorem Numbered.live_rising (numbered : t.Numbered drawn) (k : Kind) :
    (t.live k).Pairwise (k.number · < k.number ·) :=
  (List.pairwise_map.mp (numbered.rising k)).filter _

theorem Numbered.listed_nodup (numbered : t.Numbered drawn) (k : Kind) (chosen : k.Row → Bool) :
    (t.listed k chosen).Nodup :=
  (t.listed_perm k chosen).nodup_iff.mpr ((numbered.live_nodup k).filter _)

/-- The order of a list leaves nothing open. -/
theorem Numbered.listed_pairwise (numbered : t.Numbered drawn) (k : Kind) (chosen : k.Row → Bool) :
    (t.listed k chosen).Pairwise k.Precedes := by
  cases k with
  | execution =>
    have sorted : (t.listed .execution chosen).Pairwise fun e f => Store.newerFirst e f = true :=
      List.pairwise_mergeSort newerFirst_trans newerFirst_total _
    have apart : (t.listed .execution chosen).Pairwise fun e f : Execution => e.id ≠ f.id := by
      have distinct : ((t.live .execution).filter chosen).Pairwise fun e f : Execution =>
          e.id ≠ f.id := ((numbered.live_rising .execution).filter _).imp Int.ne_of_lt
      exact (t.listed_perm .execution chosen).pairwise_iff (fun different => different.symm)
        |>.mpr distinct
    refine (sorted.and apart).imp fun {e f} ⟨ordered, different⟩ => ?_
    have : Store.newerFirst e f = true := ordered
    simp only [Store.newerFirst, Bool.or_eq_true, Bool.and_eq_true, decide_eq_true_eq,
      beq_iff_eq] at this
    rcases this with newer | ⟨same, below⟩
    · exact .inl newer
    · exact .inr ⟨same, by omega⟩
  | _ => exact (numbered.live_rising _).filter _

end Tables

/-! ## How many rows there can be -/

/-- Sequences that have not run out: no number beyond 64 bits was drawn. -/
def Sequences.Lasting (drawn : Sequences) : Prop := ∀ k, (drawn.last k : Int) ≤ Number.int64.high

theorem Session.Step.length_le {allowed : Effect → Prop} {s s' : Session}
    (step : Session.Step allowed s s')
    (before : ∀ k, (s.tables.rows k).length ≤ s.sequences.last k) :
    ∀ k, (s'.tables.rows k).length ≤ s'.sequences.last k := by
  intro j
  have bounded := before j
  cases step with
  | spend k count =>
    by_cases same : j = k
    · subst same
      rw [Sequences.last_draw]
      exact Nat.le_add_right_of_le bounded
    · rwa [Sequences.last_draw_of_ne _ _ same]
  | @insert k may new numbers live admitted =>
    by_cases same : j = k
    · subst same
      rw [Tables.rows_put, Sequences.last_draw, List.length_append]
      omega
    · rwa [Tables.rows_put_of_ne _ _ same, Sequences.last_draw_of_ne _ _ same]
  | @amend k may change keeps admitted =>
    by_cases same : j = k
    · subst same
      rwa [Tables.rows_put, List.length_map]
    · rwa [Tables.rows_put_of_ne _ _ same]
  | @archive k may chosen now =>
    unfold Tables.archiveWhere
    by_cases same : j = k
    · subst same
      rwa [Tables.rows_put, List.length_map]
    · rwa [Tables.rows_put_of_ne _ _ same]
  | picture may shelf => exact bounded
  | publish may event => exact bounded

/-- There are no more rows of a kind than numbers were drawn for them. -/
theorem Reachable.length_le {s : Session} (reachable : Reachable s) (k : Kind) :
    (s.tables.rows k).length ≤ s.sequences.last k :=
  reachable.preserves (fun x => ∀ k, (x.tables.rows k).length ≤ x.sequences.last k)
    (fun _ k => by simp [Session.start]) (fun _ _ step => step.length_le) k

/-- As long as the sequences last, what stands before any page of a list can be counted. -/
theorem Reachable.listed_fits {s : Session} (reachable : Reachable s)
    (lasting : s.sequences.Lasting) (k : Kind) (chosen : k.Row → Bool) :
    ((s.tables.listed k chosen).length : Int) ≤ Page.maxOffset := by
  have shown : (s.tables.listed k chosen).length ≤ (s.tables.rows k).length := by
    rw [(s.tables.listed_perm k chosen).length_eq]
    exact (List.length_filter_le _ _).trans (List.length_filter_le _ _)
  have drawn := reachable.length_le k
  have last : (s.sequences.last k : Int) ≤ Page.maxOffset := lasting k
  omega

/-! ## Reading lists -/

namespace Service

open Shop.Action

variable {c : Context} {t : Tables} {drawn : Sequences}

/-- What is shown on a page of a list. -/
def pageReply (page : Page) (rows : List α) (shown : α → Json) : Reply :=
  .ok (page.envelope rows.length ((page.slice rows).map shown))

theorem listOptions_reads (undisturbed : c.Undisturbed) (numbered : t.Numbered drawn)
    {rootId : Int} {root : ProductRoot}
    (found : (t.live .root).find? (·.id == rootId) = some root) (page : Page) :
    (listOptions rootId page).Reads c t
      (.ok (pageReply page (t.listed .option (·.rootId == rootId)) fun option =>
        (t.optionView option).toJson)) := by
  have lookup : (statement (.find .root rootId)).Reads c t (.ok (some root)) := by
    rw [← found]
    exact .select undisturbed _
  unfold listOptions
  rw [requireRoot_bind]
  have paged : (page.slice (t.listed .option (·.rootId == rootId))).Sublist (t.live .option) :=
    (page.slice_sublist _).trans List.filter_sublist
  refine .bind lookup (.bind (.require_some _ root) (.bind (.select undisturbed _)
    (.bind (.select undisturbed _) (.bind (showOptions_reads undisturbed numbered paged) ?_))))
  rw [List.map_map]
  exact .pure _

/-- A list of all live rows of a kind that shows each row by itself. -/
theorem listAll_reads (undisturbed : c.Undisturbed) (k : Kind) (page : Page)
    (shown : k.Row → Json) :
    Action.Reads c t (do
      let rows ← statement (.page k page fun _ => true)
      let count ← statement (.count k fun _ => true)
      return Reply.ok (page.envelope count (rows.map shown)))
      (.ok (.ok (page.envelope (t.live k).length ((page.slice (t.live k)).map shown)))) :=
  .bind (.page undisturbed k page) (.bind (.count undisturbed k) (.pure _))

theorem listWebhooksFor_reads (undisturbed : c.Undisturbed) {eventType : String}
    (passable : Parameter.fault? (.text eventType) = none) (page : Page) :
    (listWebhooksFor eventType page).Reads c t
      (.ok (pageReply page (t.listed .webhook (·.eventType == eventType)) Webhook.toJson)) := by
  have passed : [Parameter.text eventType].findSome? Parameter.fault? = none := by simp [passable]
  exact .bind (.passing undisturbed passed _) (.bind (.passing undisturbed passed _) (.pure _))

/-- The executions of a webhook are what is listed of them. -/
theorem executionsOf_eq (t : Tables) (webhookId : Int) :
    Store.executionsOf t webhookId = t.listed .execution (·.webhookId == webhookId) := by
  have live : t.live .execution = t.executions := List.filter_eq_self.mpr fun _ _ => rfl
  rw [Tables.listed, live]
  rfl

theorem listExecutions_reads (undisturbed : c.Undisturbed) {id : Int} {webhook : Webhook}
    (found : (t.live .webhook).find? (·.id == id) = some webhook) (page : Page) :
    (listExecutions id page).Reads c t
      (.ok (pageReply page (t.listed .execution (·.webhookId == id)) Execution.toJson)) := by
  have lookup : (statement (.find .webhook id)).Reads c t (.ok (some webhook)) := by
    rw [← found]
    exact .select undisturbed _
  rw [← executionsOf_eq]
  exact .bind lookup (.bind (.require_some _ webhook) (.bind (.select undisturbed _)
    (.bind (.select undisturbed _) (.pure _))))

/-- The dispatcher finds the webhooks of a type as they are listed, all at once. -/
theorem courier_webhooksFor (undisturbed : c.Undisturbed) {eventType : String}
    (passable : Parameter.fault? (.text eventType) = none)
    (deliver : Webhook → Json → Work (Except DeliveryFault Nat)) {p : Progress}
    (found : p.session.tables = t) :
    ((((courier deliver).webhooksFor eventType).run c).run p).1 =
      .ok (t.listed .webhook (·.eventType == eventType)) := by
  have passed : [Parameter.text eventType].findSome? Parameter.fault? = none := by simp [passable]
  have reads : (statement (Store.webhooksFor eventType)).Reads c t
      (.ok (t.listed .webhook (·.eventType == eventType))) := .passing undisturbed passed _
  rcases reads p found with ⟨answered, _⟩
  rcases ran : (statement (Store.webhooksFor eventType)).perform c p with ⟨result, q⟩
  rw [ran] at answered
  subst answered
  have ended : ((statement (Store.webhooksFor eventType)).run.run c).run p =
    (.ok (t.listed .webhook (·.eventType == eventType)), q) := ran
  simp only [courier, attempt, liftM, monadLift, ReaderT.run_bind, StateT.run_bind, ended]
  rfl

end Service

/-! ## The lists that are served -/

namespace Http

/-- The lists that are served, by the segments of their paths: of which kind the rows are, which of
them are listed and how one is shown.  The options of a root and the executions of a webhook are
listed as long as it is live. -/
inductive Lists (t : Tables) : List String → (k : Kind) → (k.Row → Bool) → (k.Row → Json) → Prop
  | products :
    Lists t ["products"] .product (fun _ => true) fun product => (t.productView product).toJson
  | roots :
    Lists t ["product_roots"] .root (fun _ => true) fun root => (t.rootSummary root).toJson
  | options {part : String} {root : ProductRoot} (alive : root ∈ t.live .root)
    (named : readNumber part = .ok root.id) :
    Lists t ["product_root", part, "options"] .option (·.rootId == root.id) fun option =>
      (t.optionView option).toJson
  | discounts : Lists t ["discounts"] .discount (fun _ => true) Discount.toJson
  | webhooks : Lists t ["webhooks"] .webhook (fun _ => true) Webhook.toJson
  | webhooksFor {part eventType : String} (named : readText "event_type" part = .ok eventType)
    (passable : Parameter.fault? (.text eventType) = none) :
    Lists t ["webhooks", part] .webhook (·.eventType == eventType) Webhook.toJson
  | executions {part : String} {webhook : Webhook} (alive : webhook ∈ t.live .webhook)
    (named : readNumber part = .ok webhook.id) :
    Lists t ["webhook", part, "executions"] .execution (·.webhookId == webhook.id) Execution.toJson

variable {s : Session} {segments : List String} {k : Kind} {chosen : k.Row → Bool}
  {shown : k.Row → Json}

/-- A list of all live rows is what stands in the table. -/
theorem listed_all (t : Tables) {k : Kind} (stays : k ≠ .execution) :
    t.listed k (fun _ => true) = t.live k := by
  have all : (t.live k).filter (fun _ => true) = t.live k := List.filter_eq_self.mpr fun _ _ => rfl
  cases k with
  | execution => exact absurd rfl stays
  | _ => exact all

/-- A request for a page of a list is answered with the number of all rows and those of the page. -/
theorem Lists.shows (lists : Lists s.tables segments k chosen shown)
    (numbered : s.tables.Numbered s.sequences) {c : Context} (undisturbed : c.Undisturbed)
    {r : Request} (asks : r.Asks .get segments) {page : Page} (paged : r.page = .ok page)
    (fresh : String) :
    let rows := s.tables.listed k chosen
    (serve c fresh s r).1.status = 200 ∧
      (serve c fresh s r).1.body =
        .json (page.envelope rows.length ((page.slice rows).map shown)) := by
  intro rows
  cases lists with
  | products =>
    have stands : r.command = .ok (.listProducts page) := by
      rw [asks.command rfl, paged]
      rfl
    have all : rows = s.tables.live .product := listed_all s.tables (by decide)
    rw [all]
    exact asks.shows stands (Service.listProducts_reads undisturbed numbered page) fresh
  | roots =>
    have stands : r.command = .ok (.listRoots page) := by
      rw [asks.command rfl, paged]
      rfl
    have all : rows = s.tables.live .root := listed_all s.tables (by decide)
    rw [all]
    exact asks.shows stands (Service.listRoots_reads undisturbed numbered page) fresh
  | @options part root alive named =>
    have stands : r.command = .ok (.listOptions root.id page) := by
      rw [asks.command rfl, paged, named]
      rfl
    have found := numbered.find?_live (k := .root) alive
    exact asks.shows stands (Service.listOptions_reads undisturbed numbered found page) fresh
  | discounts =>
    have stands : r.command = .ok (.listDiscounts page) := by
      rw [asks.command rfl, paged]
      rfl
    have all : rows = s.tables.live .discount := listed_all s.tables (by decide)
    rw [all]
    exact asks.shows stands (Service.listAll_reads undisturbed .discount page _) fresh
  | webhooks =>
    have stands : r.command = .ok (.listWebhooks page) := by
      rw [asks.command rfl, paged]
      rfl
    have all : rows = s.tables.live .webhook := listed_all s.tables (by decide)
    rw [all]
    exact asks.shows stands (Service.listAll_reads undisturbed .webhook page _) fresh
  | @webhooksFor part eventType named passable =>
    have stands : r.command = .ok (.listWebhooksFor eventType page) := by
      rw [asks.command rfl, paged, named]
      rfl
    exact asks.shows stands (Service.listWebhooksFor_reads undisturbed passable page) fresh
  | @executions part webhook alive named =>
    have stands : r.command = .ok (.listExecutions webhook.id page) := by
      rw [asks.command rfl, paged, named]
      rfl
    have found := numbered.find?_live (k := .webhook) alive
    exact asks.shows stands (Service.listExecutions_reads undisturbed found page) fresh

end Http

/-- The pages of a list part it.  Whatever size a client asks for, the pages it gets from the first
to the last one that is not empty are, one behind the other, all live rows that the list is of, each
once and in one order; every page counts these rows; and further pages are empty.  Whatever page and
size a client asks for, the rows before it are counted without leaving 64 bits.  The webhooks of a
type are listed as the dispatcher finds them. -/
theorem Reachable.pages_part {s : Session} (reachable : Reachable s)
    (lasting : s.sequences.Lasting) {segments : List String} {k : Kind} {chosen : k.Row → Bool}
    {shown : k.Row → Json} (lists : Http.Lists s.tables segments k chosen shown)
    (limit : Option Int) :
    let rows := s.tables.listed k chosen
    let data (number : Option Int) := ((Page.of number limit).slice rows).map shown
    let last := rows.length ⌈/⌉ Page.size limit
    (rows.Perm ((s.tables.live k).filter chosen) ∧ rows.Nodup ∧ rows.Pairwise k.Precedes) ∧
    (∀ c : Context, c.Undisturbed → ∀ fresh r number, r.Asks .get segments →
      r.page = .ok (.of number limit) →
        (Http.serve c fresh s r).1.status = 200 ∧
        (Http.serve c fresh s r).1.body =
          .json ((Page.of number limit).envelope rows.length (data number))) ∧
    ((List.range last).flatMap fun n : Nat => data (some (n + 1))) = rows.map shown ∧
    (∀ number : Int, last < number → data (some number) = []) ∧
    (∀ number, (Page.of number limit).limit = Page.size limit ∧
      0 ≤ (Page.of number limit).offset ∧ (Page.of number limit).offset ≤ Number.int64.high) ∧
    ∀ eventType, Parameter.fault? (.text eventType) = none → ∀ c : Context, c.Undisturbed →
      ∀ deliver, ((((Service.courier (m := Work) deliver).webhooksFor eventType).run c).run
        (.start s)).1 = .ok (s.tables.listed .webhook (·.eventType == eventType)) := by
  intro rows data last
  have numbered := reachable.numbered
  have fits : (rows.length : Int) ≤ Page.maxOffset := reachable.listed_fits lasting k chosen
  refine ⟨⟨s.tables.listed_perm k chosen, numbered.listed_nodup k chosen,
    numbered.listed_pairwise k chosen⟩, ?_, ?_, ?_, ?_, ?_⟩
  · intro c undisturbed fresh r number asks paged
    exact lists.shows numbered undisturbed asks paged fresh
  · calc
      (List.range last).flatMap (fun n : Nat => data (some (n + 1))) =
          ((List.range last).flatMap fun n : Nat =>
            (Page.of (some (n + 1)) limit).slice rows).map shown := List.map_flatMap.symm
      _ = rows.map shown := by rw [Page.flatMap_slice fits limit]
  · intro number beyond
    change ((Page.of (some number) limit).slice rows).map shown = []
    rw [Page.slice_eq_nil fits beyond, List.map_nil]
  · intro number
    exact ⟨Page.limit_of number limit, Page.offset_bounds number limit⟩
  · intro eventType passable c undisturbed deliver
    exact Service.courier_webhooksFor undisturbed passable deliver rfl

/-- The two sizes of the shirt are listed on one page; pages of one row each show them one by one, and
a client that asks for the second of these gets it. -/
theorem Reachable.pages_part_shirt :
    let s := (Http.serve (.calm ⟨0, 0⟩) "shirt" (.start 16) Http.shirtRequest).2
    let rows := s.tables.listed .product fun _ => true
    let shown (product : Product) := (s.tables.productView product).toJson
    let page (number : Int) := ((Page.of (some number) (some 1)).slice rows).map shown
    s.sequences.Lasting ∧
      (Http.serve (.calm ⟨0, 0⟩) "look" s (Http.lookRequest "/v1/products")).1.body =
        .json ((Page.of none none).envelope 2 (rows.map shown)) ∧
      (Http.serve (.calm ⟨0, 0⟩) "next" s
        (Http.lookRequest "/v1/products?page=2&limit=1")).1.body =
          .json ((Page.of (some 2) (some 1)).envelope 2 (page 2)) ∧
      page 1 ++ page 2 = rows.map shown ∧ page 3 = [] := by
  intro s rows shown page
  have reachable : Reachable s := .serve (.start 16) _ _ _
  have lasting : s.sequences.Lasting := by
    have drawn : s.sequences = ⟨1, 0, 1, 2, 2, 2, 0, 0, 0, 0⟩ := by
      simp only [s, Http.serve, Http.answer, Http.Request.command, Http.servedAt_eq]
      decide +kernel
    intro k
    rw [drawn]
    cases k <;> decide
  have two : rows.length = 2 := by
    have all : rows = s.tables.live .product := Http.listed_all s.tables (by decide)
    rw [all]
    exact Http.shirtRequest_created.2
  have asks : (Http.lookRequest "/v1/products").Asks .get ["products"] := by
    refine ⟨rfl, ?_, by decide⟩
    rw [Text.splitOn_slash]
    decide +kernel
  have paged : (Http.lookRequest "/v1/products").page = .ok (.of none none) :=
    Http.Request.page_of_noQuery (by decide +kernel)
  have asksNext : (Http.lookRequest "/v1/products?page=2&limit=1").Asks .get ["products"] := by
    refine ⟨rfl, ?_, by decide⟩
    rw [Text.splitOn_slash]
    decide +kernel
  have pagedNext : (Http.lookRequest "/v1/products?page=2&limit=1").page =
      .ok (.of (some 2) (some 1)) := by
    have written : "/v1/products?page=2&limit=1" =
        "/v1/products" ++ "?" ++ Http.queryText (Http.pagePairs (some 2) (some 1)) := by
      decide +kernel
    exact Http.Request.page_of_query (by decide) (by decide) written (by decide) (by decide)
  rcases reachable.pages_part lasting .products (some 1) with ⟨_, servedOne, parted, beyond, _⟩
  rcases reachable.pages_part lasting .products none with ⟨_, served, whole, _⟩
  have last : rows.length ⌈/⌉ Page.size (some 1) = 2 := by
    rw [two]
    decide
  have only : rows.length ⌈/⌉ Page.size none = 1 := by
    rw [two]
    decide
  refine ⟨lasting, ?_, ?_, ?_, ?_⟩
  · have shownAll : (Http.serve (.calm ⟨0, 0⟩) "look" s (Http.lookRequest "/v1/products")).1.body =
        .json ((Page.of none none).envelope rows.length
          (((Page.of none none).slice rows).map shown)) :=
      (served (.calm ⟨0, 0⟩) (fun _ => rfl) "look" _ none asks paged).2
    have first : ((Page.of none none).slice rows).map shown = rows.map shown := by
      change (List.range (rows.length ⌈/⌉ Page.size none)).flatMap _ = _ at whole
      rw [only, List.range_one, List.flatMap_singleton] at whole
      exact whole
    rw [two, first] at shownAll
    exact shownAll
  · have shownNext :=
      (servedOne (.calm ⟨0, 0⟩) (fun _ => rfl) "next" _ (some 2) asksNext pagedNext).2
    change _ = Http.Body.json
      ((Page.of (some 2) (some 1)).envelope rows.length (page 2)) at shownNext
    rw [two] at shownNext
    exact shownNext
  · change (List.range (rows.length ⌈/⌉ Page.size (some 1))).flatMap _ = _ at parted
    have ranged : List.range 2 = [0, 1] := rfl
    rw [last, ranged, List.flatMap_cons, List.flatMap_singleton] at parted
    exact parted
  · refine beyond 3 ?_
    change ((rows.length ⌈/⌉ Page.size (some 1) : Nat) : Int) < 3
    rw [last]
    decide

end Shop
