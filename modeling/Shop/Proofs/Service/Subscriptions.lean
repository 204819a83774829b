import Mathlib.Data.List.DropRight
import Shop.Proofs.Rule.Accepted
import Shop.Proofs.Service.History
import Shop.Proofs.Service.LiveSkus

/-!
# Webhooks in their normal form

Clients may write blanks around the address of a webhook and the content type in any case.  The
rules look through both and the store keeps neither.  So the rules and the store have to agree on what
remains of a text without its blanks, and on what it is in lower case.  They do, and every webhook
that is ever stored has one normal form, whether it was changed since or archived.
-/

namespace Shop

/-! ## Texts without blanks at their ends -/

namespace Text

/-- A text neither begins nor ends with a blank. -/
structure Trimmed (s : String) : Prop where
  first : ∀ c ∈ s.toList.head?, isBlankChar c = false
  last : ∀ c ∈ s.toList.getLast?, isBlankChar c = false

theorem trimmed_trim (s : String) : Trimmed (trim s) := by
  rcases List.rdropWhile_prefix isBlankChar (trimFront s.toList) with ⟨cut, whole⟩
  have left : (trim s).toList = (trimFront s.toList).rdropWhile isBlankChar := String.toList_ofList
  constructor
  · -- What is cut off the end leaves the first character as it was, if any character remains.
    intro c first
    rw [left] at first
    have front : (trimFront s.toList).head? = some c := by
      rw [← whole, List.head?_append, Option.mem_def.mp first, Option.some_or]
    have unblank := List.head?_dropWhile_not isBlankChar s.toList
    rwa [← trimFront, front] at unblank
  · intro c last
    rw [left, List.rdropWhile, List.getLast?_reverse] at last
    have unblank := List.head?_dropWhile_not isBlankChar (trimFront s.toList).reverse
    rwa [Option.mem_def.mp last] at unblank

end Text

/-! ## What the rules let pass -/

namespace Rule

theorem isWebUrl_iff {s : String} :
    isWebUrl s = true ↔
      "http://".toList <+: s.toList ∨ "https://".toList <+: s.toList := by
  rw [isWebUrl, Bool.or_eq_true, List.isPrefixOf_iff_prefix, List.isPrefixOf_iff_prefix]

/-- An address passes if what is stored of it lies in the web. -/
theorem webhookUrl_eq_none_iff {s : String} :
    webhookUrl s = none ↔ isWebUrl (Text.trim s) = true := by
  unfold webhookUrl
  split <;> simp_all

theorem eventType_eq_none_iff {s : String} : eventType s = none ↔ s ∈ eventTypes := by
  unfold eventType isEventType
  split <;> simp_all

/-- A content type passes if what is stored of it is that of JSON. -/
theorem contentType_eq_none_iff {s : String} :
    contentType s = none ↔ Text.asciiLowercase s = jsonContentType := by
  have lower : Text.asciiLowercase jsonContentType = jsonContentType := by decide
  unfold contentType Text.eqIgnoreAsciiCase
  rw [lower]
  split <;> simp_all

end Rule

/-! ## Webhooks -/

/-- A webhook is in normal form: its address lies in the web and has no blanks around it, its event
is one of the catalogue, and its content type is that of JSON to the letter. -/
structure Webhook.Normal (w : Webhook) : Prop where
  trimmed : Text.Trimmed w.url
  web : "http://".toList <+: w.url.toList ∨ "https://".toList <+: w.url.toList
  known : w.eventType ∈ Rule.eventTypes
  json : w.contentType = "application/json"

/-- What is stored of an accepted request is in normal form. -/
theorem WebhookRequest.row_normal {request : WebhookRequest}
    (accepted : request.problems.isEmpty = true) (now : Instant) (id : Int) :
    (request.row now id).Normal := by
  have entries := List.isEmpty_iff.mp accepted
  simp only [problems, Problems.entries, List.append_eq_nil_iff,
    Problems.check_eq_nil_iff] at entries
  rcases entries with ⟨⟨url, event⟩, content⟩
  exact {
    trimmed := Text.trimmed_trim request.url
    web := Rule.isWebUrl_iff.mp (Rule.webhookUrl_eq_none_iff.mp url)
    known := Rule.eventType_eq_none_iff.mp event
    json := Rule.contentType_eq_none_iff.mp content }

/-- An accepted change leaves a webhook in normal form, whatever it changes. -/
theorem WebhookPatch.apply_normal {patch : WebhookPatch}
    (accepted : patch.problems.isEmpty = true) (now : Instant) {w : Webhook} (normal : w.Normal) :
    (patch.apply now w).Normal := by
  have entries := List.isEmpty_iff.mp accepted
  simp only [problems, Problems.entries, List.append_eq_nil_iff,
    Problems.checkSome_eq_nil_iff] at entries
  rcases entries with ⟨⟨url, event⟩, content⟩
  rcases patch with ⟨newUrl, newEvent, newContent⟩
  constructor
  · cases newUrl with
    | none => exact normal.trimmed
    | some given => exact Text.trimmed_trim given
  · cases newUrl with
    | none => exact normal.web
    | some given => exact Rule.isWebUrl_iff.mp (Rule.webhookUrl_eq_none_iff.mp (url given rfl))
  · cases newEvent with
    | none => exact normal.known
    | some given => exact Rule.eventType_eq_none_iff.mp (event given rfl)
  · cases newContent with
    | none => exact normal.json
    | some given => exact Rule.contentType_eq_none_iff.mp (content given rfl)

/-- Whether all webhooks that are stored, archived ones too, are in normal form. -/
def Tables.WebhooksNormal (t : Tables) : Prop := ∀ w ∈ t.rows .webhook, w.Normal

theorem Tables.WebhooksNormal.of_rows_eq {t t' : Tables}
    (same : t'.rows .webhook = t.rows .webhook) (normal : t.WebhooksNormal) :
    t'.WebhooksNormal := by
  unfold WebhooksNormal
  rw [same]
  exact normal

namespace Service

open Shop.Action

theorem createWebhook_normal {request : WebhookRequest}
    (accepted : request.problems.isEmpty = true) :
    (createWebhook request).Maintains Tables.WebhooksNormal := by
  refine .bind (.statement fun c p webhook q done normal => ?_) fun _ => .still (.pure _)
  rcases perform_insert_ok (k := .webhook) done with ⟨⟨id, made⟩, tables⟩
  rw [tables]
  refine List.forall_mem_append.mpr ⟨normal, fun w member => ?_⟩
  rw [List.mem_singleton.mp member, made]
  exact WebhookRequest.row_normal accepted c.now id

theorem changeWebhook_normal (id : Int) {patch : WebhookPatch}
    (accepted : patch.problems.isEmpty = true) :
    (changeWebhook id patch).Maintains Tables.WebhooksNormal := by
  refine changeWebhook_maintains_of_change (.statement fun c p found q done normal => ?_)
  rw [(perform_updateLive_ok (k := .webhook) done).1]
  refine List.forall_mem_map.mpr fun w member => ?_
  split
  · exact WebhookPatch.apply_normal accepted c.now (normal w member)
  · exact normal w member

theorem archiveWebhook_normal (id : Int) :
    (archiveWebhook id).Maintains Tables.WebhooksNormal := by
  refine .bind (.statement fun c p found q done normal => ?_) fun _ =>
    .bind (.still (.require _ _)) fun _ => .still (.pure _)
  rw [perform_archive_ok (k := .webhook) done]
  refine List.forall_mem_map.mpr fun w member => ?_
  have kept := normal w member
  split
  · exact { kept with }
  · exact kept

end Service

theorem webhookLaw : Law Tables.WebhooksNormal fun _ _ _ => True where
  starts := List.forall_mem_nil _
  said t t' same := .of_rows_eq (same .webhook (by decide))
  command := by
    intro s _ normal c command
    refine iff_of_true ?_ fun _ => trivial
    rw [Action.serve_snd]
    have spared (spares : command.effects.all (·.kind? != some .webhook) = true) :
        command.action.Maintains Tables.WebhooksNormal :=
      .spared command.within spares fun _ _ => .of_rows_eq
    cases command with
    | createWebhook request =>
      exact Service.createWebhook_normal request.property c (.start s) normal
    | changeWebhook id patch =>
      exact Service.changeWebhook_normal id patch.property c (.start s) normal
    | archiveWebhook id => exact Service.archiveWebhook_normal id c (.start s) normal
    | _ => exact spared rfl c (.start s) normal

/-- In every reachable session every webhook, live or archived, has an address in the web without
blanks around it, an event of the catalogue and the content type of JSON to the letter. -/
theorem Reachable.webhooks_normal {s : Session} (reachable : Reachable s) :
    ∀ w ∈ s.tables.webhooks, w.Normal :=
  webhookLaw.holds (reachable.reachedBy fun _ _ _ => trivial)

namespace Http

/-- A request for a webhook with blanks around its address and capitals in its content type. -/
def webhookRequest : Request :=
  jsonRequest .post "/v1/webhook"
    ("\x7b\"url\": \"  https://example.com/hook \", \"event_type\": \"product_created\", " ++
      "\"content_type\": \"Application/JSON\"\x7d")

/-- A request to move the first webhook elsewhere, with blanks again. -/
def movingRequest : Request :=
  jsonRequest .patch "/v1/webhook/1" "\x7b\"url\": \"\\thttp://example.com/moved\\n\"\x7d"

end Http

/-- A webhook that was created and moved with blanks around its addresses, and then archived, is
stored without them. -/
theorem Reachable.webhooks_normal_archived :
    let s := Session.since 16 [
      .served (.calm ⟨120, 0⟩) "gone" (Http.archiveRequest "/v1/webhook/1"),
      .served (.calm ⟨60, 0⟩) "moved" Http.movingRequest,
      .served (.calm ⟨0, 0⟩) "hook" Http.webhookRequest]
    s.tables.webhooks.map (fun w => (w.url, w.contentType, w.stamps.archivedOn)) =
        [("http://example.com/moved", "application/json", some ⟨120, 0⟩)] ∧
      ∀ w ∈ s.tables.webhooks, w.Normal := by
  refine ⟨?_, Reachable.webhooks_normal (Session.since_reachable 16 _)⟩
  simp only [Session.since, Session.after, Http.serve, Http.answer, Http.Request.command,
    Http.servedAt_eq]
  decide +kernel

end Shop
