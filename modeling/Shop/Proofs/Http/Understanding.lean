import Shop.Proofs.Service.Acceptance

/-!
# Understanding requests

A request for what is served is understood in parts: what its path names, the page in its query if
it asks for a list, and its body.  Whether the address is understood is said of the request alone,
and every reading that is served decides on it so: it rejects the address if it is not understood,
and otherwise the body or nothing.
-/

namespace Shop
namespace Http

/-! ## Addresses that are understood -/

/-- A part of a path that stands for a text. -/
def NamesText (part : String) : Prop := ∃ text, unescape? part = some text

/-- A part of a path that stands for a number of 64 bits. -/
def NamesNumber (part : String) : Prop :=
  ∃ text n, unescape? part = some text ∧ Number.int64.read text = .ok n

/-- A request with a query that names a page. -/
def Request.NamesPage (r : Request) : Prop :=
  ∃ page, pageOf ((Target.read r.target).query.getD "") = .ok page

/-- What a path names can be read: products by their SKUs, webhooks by the events they ask for, and
everything else by numbers. -/
def PathUnderstood : List String → Prop
  | kind :: part :: _ =>
    if kind = "product" ∨ kind = "webhooks" then NamesText part else NamesNumber part
  | _ => True

/-- The segments of a path are those of a list, which is shown by pages. -/
def NamesList : List String → Prop
  | [kind] =>
    kind = "product_roots" ∨ kind = "products" ∨ kind = "discounts" ∨ kind = "webhooks"
  | [kind, _] => kind = "webhooks"
  | [_, _, part] => part = "options" ∨ part = "executions"
  | _ => False

/-- The address of a request is understood: what its path names, and the page that its query names
if it asks for a list. -/
def Request.Understood (r : Request) (asked : Method) (segments : List String) : Prop :=
  PathUnderstood segments ∧ (asked = .get → NamesList segments → r.NamesPage)

/-! ## Parts of requests -/

/-- A part of a request that was read or rejected as its address is understood or not; of what was
read, something holds.  Only one that has a body can be rejected for it, as a bad request. -/
def Decides (bodied : Bool) (understood : Prop) (holds : α → Prop) : Except Rejection α → Prop
  | .ok a => understood ∧ holds a
  | .error (.badAddress _) => ¬ understood
  | .error (.badBody failure) => bodied = true ∧ understood ∧ failure.status = 400
  | .error _ => False

namespace Decides

variable {bodied : Bool} {understood more : Prop} {P : α → Prop} {Q : β → Prop}

theorem readText (name part : String) :
    Decides bodied (NamesText part) (fun _ => True) (readText name part) := by
  unfold Http.readText
  split
  · rename_i text same
    exact ⟨⟨text, same⟩, trivial⟩
  · rename_i none
    rintro ⟨text, some⟩
    cases none.symm.trans some

theorem readNumber (part : String) :
    Decides bodied (NamesNumber part) (fun _ => True) (readNumber part) := by
  unfold Http.readNumber Http.readText
  cases same : unescape? part with
  | none =>
    rintro ⟨text, n, some, _⟩
    cases same.symm.trans some
  | some text =>
    simp only [bind, Except.bind]
    split
    · rename_i n number
      exact ⟨⟨text, n, same, number⟩, trivial⟩
    · rename_i fault number
      rintro ⟨other, n, some, read⟩
      cases same.symm.trans some
      cases number.symm.trans read

theorem page (r : Request) : Decides bodied r.NamesPage (fun _ => True) r.page := by
  unfold Request.page
  cases named : pageOf ((Target.read r.target).query.getD "") with
  | ok page => exact ⟨⟨page, named⟩, trivial⟩
  | error fault =>
    rintro ⟨page, other⟩
    cases named.symm.trans other

theorem accept (r : Request) (reader : Json.Reader α) (problems : α → Problems) :
    Decides true True (fun _ => True) (r.accept reader problems) := by
  unfold Request.accept
  split
  · rename_i failure unread
    exact ⟨rfl, trivial, Request.readBody_error unread⟩
  · split
    · exact ⟨trivial, trivial⟩
    · exact ⟨rfl, trivial, rfl⟩

theorem map {f : α → β} {result : Except Rejection α} (decides : Decides bodied understood P result)
    (given : ∀ a, Q (f a)) : Decides bodied understood Q (f <$> result) := by
  cases result with
  | ok a => exact ⟨decides.1, given a⟩
  | error rejection => cases rejection <;> exact decides

theorem mono {Q : α → Prop} {result : Except Rejection α}
    (decides : Decides bodied understood P result) (weaker : ∀ a, P a → Q a) :
    Decides bodied understood Q result := by
  cases result with
  | ok a => exact ⟨decides.1, weaker a decides.2⟩
  | error rejection => cases rejection <;> exact decides

/-- Parts of a request are read one after the other, those of the address before the body. -/
theorem seq {f : Except Rejection (α → β)} {result : Except Rejection α}
    (first : Decides false understood (fun f => ∀ a, Q (f a)) f)
    (second : Decides bodied more P result) :
    Decides bodied (understood ∧ more) Q (f <*> result) := by
  cases f with
  | ok f =>
    cases result with
    | ok a => exact ⟨⟨first.1, second.1⟩, first.2 a⟩
    | error rejection =>
      cases rejection with
      | badAddress message => exact fun both => second both.2
      | badBody failure => exact ⟨second.1, ⟨first.1, second.2.1⟩, second.2.2⟩
      | unknown => exact second
      | notAllowed methods => exact second
  | error rejection =>
    cases rejection with
    | badAddress message => exact fun both => first both.1
    | badBody failure => cases first.1
    | unknown => exact first
    | notAllowed methods => exact first

/-- A part of the path is read before the query. -/
theorem withPage {part : Except Rejection α} (decides : Decides false understood P part)
    {f : α → Page → β} (given : ∀ a page, Q (f a page)) (r : Request) :
    Decides bodied (understood ∧ r.NamesPage) Q (f <$> part <*> r.page) :=
  .seq (.map decides given) (.page r)

/-- A part of the path is read before the body. -/
theorem withBody {part : Except Rejection α} (decides : Decides false understood P part)
    {problems : γ → Problems} {f : α → Accepted problems → β} (given : ∀ a body, Q (f a body))
    (r : Request) (reader : Json.Reader γ) :
    Decides true understood Q (f <$> part <*> r.accept reader problems) := by
  have both := Decides.seq (.map decides given) (.accept r reader problems)
  rwa [and_true] at both

/-- What is read is rejected as a bad request. -/
theorem status {rejection : Rejection} (decides : Decides bodied understood P (.error rejection)) :
    rejection.response.status = 400 := by
  cases rejection with
  | badAddress message => rfl
  | badBody failure => exact decides.2.2
  | unknown => exact decides.elim
  | notAllowed methods => exact decides.elim

end Decides

/-! ## Everything that is served -/

/-- What is served is read or rejected as its address is understood or not; only those that ask for
the headers alone probe. -/
theorem served_decides (r : Request) (segments : List String) :
    ∀ entry ∈ served segments, Decides true (r.Understood entry.1 segments)
      (fun command => ∀ sku, command = .probeProduct sku → entry.1 = .head) (entry.2 r) := by
  unfold served
  split
  all_goals
    simp only [List.forall_mem_cons, List.not_mem_nil, Request.Understood, PathUnderstood,
      NamesList, reduceCtorEq, String.reduceEq, or_self, or_true, or_false, if_true, if_false,
      forall_const, IsEmpty.forall_iff, implies_true, and_true, true_and]
  case h_1 | h_4 | h_10 | h_13 => exact .map (.page r) fun _ => nofun
  case h_5 | h_11 | h_15 | h_18 => exact .map (.accept r _ _) fun _ => nofun
  case h_2 id => exact ⟨.map (.readNumber id) fun _ => nofun, .map (.readNumber id) fun _ => nofun⟩
  case h_3 id =>
    exact ⟨.withPage (.readNumber id) (fun _ _ => nofun) r,
      .withBody (.readNumber id) (fun _ _ => nofun) r _⟩
  case h_6 sku =>
    exact ⟨.map (.readText _ sku) fun _ => nofun, .map (.readText _ sku) fun _ => trivial,
      .withBody (.readText _ sku) (fun _ _ => nofun) r _, .map (.readText _ sku) fun _ => nofun⟩
  case h_7 id | h_9 id | h_16 id =>
    exact ⟨.withBody (.readNumber id) (fun _ _ => nofun) r _, .map (.readNumber id) fun _ => nofun⟩
  case h_8 id => exact .withBody (.readNumber id) (fun _ _ => nofun) r _
  case h_12 id | h_19 id =>
    exact ⟨.map (.readNumber id) fun _ => nofun,
      .withBody (.readNumber id) (fun _ _ => nofun) r _, .map (.readNumber id) fun _ => nofun⟩
  case h_14 eventType => exact .withPage (.readText _ eventType) (fun _ _ => nofun) r
  case h_17 id => exact .withPage (.readNumber id) (fun _ _ => nofun) r

theorem served_ne_options (segments : List String) :
    ∀ entry ∈ served segments, entry.1 ≠ .options := by
  unfold served
  split <;> simp

/-- What is read for a method stands beside it, or beside the method for the thing itself if only
the headers are asked for. -/
theorem mem_of_readingOf {readings : List (Method × Reading)} {asked : Method} {reading : Reading}
    (chosen : readingOf readings asked = some reading) :
    ∃ method, (method, reading) ∈ readings ∧ (method = asked ∨ asked = .head ∧ method = .get) := by
  have inside {method : Method} (found : readings.lookup method = some reading) :
      (method, reading) ∈ readings := by
    rcases List.lookup_eq_some_iff.mp found with ⟨before, after, rfl, _⟩
    exact List.mem_append_right before List.mem_cons_self
  unfold readingOf at chosen
  cases found : readings.lookup asked with
  | some other =>
    rw [found] at chosen
    cases chosen
    exact ⟨asked, inside found, .inl rfl⟩
  | none =>
    rw [found] at chosen
    by_cases headers : asked = .head
    · rw [if_pos headers] at chosen
      exact ⟨.get, inside chosen, .inr ⟨headers, rfl⟩⟩
    · rw [if_neg headers] at chosen
      cases chosen

/-- A request that stands for no command is at fault itself. -/
theorem Request.status_of_rejected {r : Request} {rejection : Rejection}
    (rejected : r.command = .error rejection) :
    rejection.response.status = 400 ∨ rejection.response.status = 404 ∨
      rejection.response.status = 405 := by
  unfold Request.command at rejected
  extract_lets readings at rejected
  split at rejected
  · cases rejected
    exact .inr (.inl rfl)
  split at rejected
  · rename_i reading chosen
    rcases mem_of_readingOf chosen with ⟨method, inside, _⟩
    unfold readings Http.servedAt at inside
    split at inside
    · cases List.mem_singleton.mp inside
      cases rejected
    · split at inside
      · cases inside
      · have decides : Decides true _ _ (reading r) := served_decides r _ _ inside
        rw [rejected] at decides
        exact .inl decides.status
    · cases inside
  · cases rejected
    refine .inr (.inr ?_)
    simp [Rejection.response, Response.notAllowed, Response.allowing, Response.of]

end Http
end Shop
