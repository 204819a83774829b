import Mathlib.Data.List.Basic
import Shop.Proofs.Json.Members
import Shop.Service.Command

/-!
# Columns that bodies name

A body that changes a row names columns by its members.  For each kind of rows that can be changed so
it is laid down here which member names which column, in what form its value is kept, and which
columns no member names.  Together these are all columns of the row.
-/

namespace Shop

/-- A column of a row, and the member of a body that names it. -/
structure Column (R : Type) where
  Value : Type
  Kept : Type
  member : String
  reader : Json.Reader Value
  /-- The form in which a value is kept. -/
  keep : Value → Kept
  column : R → Kept

namespace Column

/-- A column that keeps values as they are. -/
def plain {R V : Type} (member : String) (reader : Json.Reader V) (column : R → V) : Column R :=
  ⟨V, V, member, reader, id, column⟩

/-- A column that keeps values in a form of its own. -/
def kept {R V K : Type} (member : String) (reader : Json.Reader V) (keep : V → K) (column : R → K) :
    Column R :=
  ⟨V, K, member, reader, keep, column⟩

/-- A column takes the value of its member, and keeps its own where that is absent or null. -/
def Follows {R : Type} (c : Column R) (member? : String → Option Json.Node) (row later : R) :
    Prop :=
  match member? c.member with
  | none | some .null => c.column later = c.column row
  | some node => ∃ value, c.reader node = .ok value ∧ c.column later = c.keep value

/-- What was asked for a column decides how it follows. -/
theorem follows_of_build {R : Type} {c : Column R} {nodes : String → Option Json.Node}
    {row later : R} {asked : Option c.Value}
    (built : (Json.Record.optional c.member c.reader).build nodes = .ok asked)
    (absent : asked = none → c.column later = c.column row)
    (present : ∀ value, asked = some value → c.column later = c.keep value) :
    c.Follows nodes row later := by
  have asks := Json.Record.asks_of_build built
  unfold Json.Asks at asks
  unfold Follows
  cases found : nodes c.member with
  | none =>
    rw [found] at asks
    exact absent asks
  | some node =>
    rw [found] at asks
    cases node with
    | null => exact absent asks
    | _ =>
      rcases asks with ⟨value, read, asked⟩
      exact ⟨value, read, present value asked⟩

/-- A column takes a value that its member gives. -/
theorem Follows.value {R : Type} {c : Column R} {member? : String → Option Json.Node} {row later : R}
    (follows : c.Follows member? row later) {node : Json.Node} (stands : member? c.member = some node)
    (given : node ≠ .null) {value : c.Value} (read : c.reader node = .ok value) :
    c.column later = c.keep value := by
  unfold Follows at follows
  rw [stands] at follows
  cases node with
  | null => exact absurd rfl given
  | _ =>
    rcases follows with ⟨other, reads, same⟩
    cases read.symm.trans reads
    exact same

end Column

/-- Rows whose columns are named by members of bodies, but for those that are fixed and for the
stamps. -/
structure Changeable (R : Type) where
  named : List (Column R)
  Fixed : Type
  fixed : R → Fixed
  stamps : R → Stamps
  complete : ∀ row other : R, (∀ c ∈ named, c.column row = c.column other) →
    fixed row = fixed other → stamps row = stamps other → row = other

/-- A row was changed by a body at a time. -/
structure Changeable.Follows {R : Type} (changeable : Changeable R)
    (member? : String → Option Json.Node) (now : Instant) (row later : R) : Prop where
  named : ∀ c ∈ changeable.named, c.Follows member? row later
  fixed : changeable.fixed later = changeable.fixed row
  stamps : changeable.stamps later = (changeable.stamps row).updated now

open Json

/-- A product, with times kept in a certain form. -/
def Product.changeable (time : Instant → Instant) : Changeable Product where
  named :=
    [.plain "name" Reader.text (·.listing.name),
      .plain "subtitle" Reader.text (·.listing.subtitle),
      .plain "description" Reader.text (·.listing.description),
      .plain "sku" Reader.text (·.sku),
      .plain "upc" Reader.text (·.offer.upc),
      .plain "manufacturer" Reader.text (·.listing.manufacturer),
      .plain "brand" Reader.text (·.listing.brand),
      .plain "quantity" Reader.int32 (·.offer.quantity),
      .plain "quantity_per_package" Reader.int32 (·.listing.quantityPerPackage),
      .plain "taxable" Reader.bool (·.listing.taxable),
      .plain "price" Reader.float (·.offer.price),
      .plain "on_sale" Reader.bool (·.offer.onSale),
      .plain "sale_price" Reader.float (·.offer.salePrice),
      .plain "cost" Reader.float (·.listing.cost),
      .plain "product_weight" Reader.float (·.listing.dimensions.item.weight),
      .plain "product_height" Reader.float (·.listing.dimensions.item.height),
      .plain "product_width" Reader.float (·.listing.dimensions.item.width),
      .plain "product_length" Reader.float (·.listing.dimensions.item.length),
      .plain "package_weight" Reader.float (·.listing.dimensions.package.weight),
      .plain "package_height" Reader.float (·.listing.dimensions.package.height),
      .plain "package_width" Reader.float (·.listing.dimensions.package.width),
      .plain "package_length" Reader.float (·.listing.dimensions.package.length),
      .kept "available_on" Reader.timestamp time (·.listing.availableOn)]
  Fixed := Int × Int × Option Int × String
  fixed p := (p.id, p.rootId, p.primaryImageId, p.optionSummary)
  stamps := (·.stamps)
  complete := by
    rintro ⟨_, _, _, _, _, ⟨_, _, _, _, _, _, _, ⟨⟨_, _, _, _⟩, _, _, _, _⟩, _, _⟩, ⟨_, _, _, _, _⟩, _⟩
      ⟨_, _, _, _, _, ⟨_, _, _, _, _, _, _, ⟨⟨_, _, _, _⟩, _, _, _, _⟩, _, _⟩, ⟨_, _, _, _, _⟩, _⟩
      named fixed stamps
    have named := List.forall_iff_forall_mem.mpr named
    simp only [List.Forall, Column.plain, Column.kept, Prod.mk.injEq] at named fixed stamps
    grind

/-- A discount, with times kept in a certain form. -/
def Discount.changeable (time : Instant → Instant) : Changeable Discount where
  named :=
    [.plain "name" Reader.text (·.name),
      .plain "discount_type" Reader.text (·.discountType),
      .plain "amount" Reader.float (·.amount),
      .kept "starts_on" Reader.timestamp time (·.startsOn),
      .kept "expires_on" Reader.timestamp (some ∘ time) (·.expiresOn),
      .plain "requires_code" Reader.bool (·.requiresCode),
      .plain "code" Reader.text (·.code),
      .plain "limited_use" Reader.bool (·.limitedUse),
      .plain "number_of_uses" Reader.int64 (·.numberOfUses),
      .plain "login_required" Reader.bool (·.loginRequired)]
  Fixed := Int
  fixed := (·.id)
  stamps := (·.stamps)
  complete := by
    rintro ⟨⟩ ⟨⟩ named fixed stamps
    have named := List.forall_iff_forall_mem.mpr named
    simp only [List.Forall, Column.plain, Column.kept] at named fixed stamps
    grind

/-- A webhook, whose address is kept without blanks around it and whose type of content is kept in
lower case. -/
def Webhook.changeable : Changeable Webhook where
  named :=
    [.kept "url" Reader.text Text.trim (·.url),
      .plain "event_type" Reader.text (·.eventType),
      .kept "content_type" Reader.text Text.asciiLowercase (·.contentType)]
  Fixed := Int
  fixed := (·.id)
  stamps := (·.stamps)
  complete := by
    rintro ⟨⟩ ⟨⟩ named fixed stamps
    have named := List.forall_iff_forall_mem.mpr named
    simp only [List.Forall, Column.plain, Column.kept] at named fixed stamps
    grind

/-- A user, of whose password a hash with a salt is kept, along with the time when it changed. -/
def User.changeable (salt : ByteArray) (now : Instant) : Changeable User where
  named :=
    [.plain "first_name" Reader.text (·.firstName),
      .plain "last_name" Reader.text (·.lastName),
      .plain "username" Reader.text (·.username),
      .plain "email" Reader.text (·.email),
      .plain "is_admin" Reader.bool (·.isAdmin),
      .kept "new_password" Reader.text (Password.hash salt) (·.passwordHash),
      .kept "new_password" Reader.text (fun _ => some now) (·.passwordChangedOn)]
  Fixed := Int
  fixed := (·.id)
  stamps := (·.stamps)
  complete := by
    rintro ⟨⟩ ⟨⟩ named fixed stamps
    have named := List.forall_iff_forall_mem.mpr named
    simp only [List.Forall, Column.plain, Column.kept] at named fixed stamps
    grind

/-! ## Bodies that were read -/

/-- The members of a body that is read as a record. -/
def Json.Record.member? {A : Type} (record : Record A) (node : Node) (name : String) : Option Node :=
  node.member? (record.fields.map (·.name)) name

/-- What a record is built from decides how a row follows the body. -/
theorem Changeable.follows_of_reader {R A : Type} {changeable : Changeable R} {record : Record A}
    {name : String} {node : Node} {a : A} {now : Instant} {row later : R}
    (read : record.reader name node = .ok a)
    (listed : ∀ c ∈ changeable.named, c.member ∈ record.fields.map (·.name))
    (fixed : changeable.fixed later = changeable.fixed row)
    (stamps : changeable.stamps later = (changeable.stamps row).updated now)
    (built : ∀ nodes, record.build nodes = .ok a →
      List.Forall (fun c => c.Follows nodes row later) changeable.named) :
    changeable.Follows (record.member? node) now row later := by
  rcases Record.build_of_reader read with ⟨nodes, done, members⟩
  refine ⟨fun c inside => ?_, fixed, stamps⟩
  rcases List.mem_map.mp (listed c inside) with ⟨field, isField, same⟩
  have followed := List.forall_iff_forall_mem.mp (built nodes done) c inside
  unfold Column.Follows at followed ⊢
  rwa [Record.member?, ← same, ← members field isField, same]

theorem WebhookPatch.follows {node : Node} {patch : WebhookPatch}
    (read : reader node = .ok patch) (now : Instant) (row : Webhook) :
    Webhook.changeable.Follows (record.member? node) now row (patch.apply now row) := by
  refine Changeable.follows_of_reader read (of_decide_eq_true rfl) rfl rfl fun nodes built => ?_
  repeat rcases Record.build_seq.mp built with ⟨_, built, _, _, _⟩
  cases built
  subst_vars
  and_intros
  all_goals
    apply Column.follows_of_build
    · assumption
    · rintro rfl
      rfl
    · rintro _ rfl
      rfl

theorem ProductPatch.follows {node : Node} {patch : ProductPatch}
    (read : reader node = .ok patch) (now : Instant) (row : Product) :
    (Product.changeable Instant.stored).Follows (record.member? node) now row
      (patch.stored.apply now row) := by
  refine Changeable.follows_of_reader read (of_decide_eq_true rfl) rfl rfl fun nodes built => ?_
  repeat rcases Record.build_seq.mp built with ⟨_, built, _, _, _⟩
  cases built
  subst_vars
  and_intros
  all_goals
    apply Column.follows_of_build
    · assumption
    · rintro rfl
      rfl
    · rintro _ rfl
      rfl

theorem DiscountPatch.follows {node : Node} {patch : DiscountPatch}
    (read : reader node = .ok patch) (now : Instant) (row : Discount) :
    (Discount.changeable Instant.stored).Follows (record.member? node) now row
      (patch.stored.apply now row) := by
  refine Changeable.follows_of_reader read (of_decide_eq_true rfl) rfl rfl fun nodes built => ?_
  repeat rcases Record.build_seq.mp built with ⟨_, built, _, _, _⟩
  cases built
  subst_vars
  and_intros
  all_goals
    apply Column.follows_of_build
    · assumption
    · rintro rfl
      rfl
    · rintro _ rfl
      rfl

theorem UserChange.follows {node : Node} {change : UserChange}
    (read : reader node = .ok change) (salt : ByteArray) (now : Instant) (row : User) :
    (User.changeable salt now).Follows (record.member? node) now row
      ((change.patch (change.newPassword.map (Password.hash salt))).apply now row) := by
  refine Changeable.follows_of_reader read (of_decide_eq_true rfl) rfl rfl fun nodes built => ?_
  repeat rcases Record.build_seq.mp built with ⟨_, built, _, _, _⟩
  cases built
  subst_vars
  and_intros
  all_goals
    apply Column.follows_of_build
    · assumption
    · rintro rfl
      rfl
    · rintro _ rfl
      rfl

end Shop
