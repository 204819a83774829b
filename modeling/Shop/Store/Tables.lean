import Shop.Discount
import Shop.User
import Shop.Webhook

/-!
# The tables of the store

The store has one table for each kind of row.  Rows stand in the order of their numbers, since every
new row goes to the end with a number above all before it.  The numbers come from a sequence for each
table; a number that was drawn is never drawn again, even if its row was not kept.

A table is always reached through its kind, so what holds of every table is stated once.
-/

namespace Shop

inductive Kind where
  | root
  | image
  | option
  | value
  | product
  | link
  | discount
  | webhook
  | execution
  | user
  deriving Repr, DecidableEq

namespace Kind

abbrev Row : Kind → Type
  | .root => ProductRoot
  | .image => ProductImage
  | .option => ProductOption
  | .value => OptionValue
  | .product => Product
  | .link => VariantLink
  | .discount => Discount
  | .webhook => Webhook
  | .execution => Execution
  | .user => User

def number : (k : Kind) → k.Row → Int
  | .root, r => r.id
  | .image, r => r.id
  | .option, r => r.id
  | .value, r => r.id
  | .product, r => r.id
  | .link, r => r.id
  | .discount, r => r.id
  | .webhook, r => r.id
  | .execution, r => r.id
  | .user, r => r.id

/-- When a row was archived.  Executions are never archived. -/
def archivedOn : (k : Kind) → k.Row → Option Instant
  | .root, r => r.stamps.archivedOn
  | .image, r => r.stamps.archivedOn
  | .option, r => r.stamps.archivedOn
  | .value, r => r.stamps.archivedOn
  | .product, r => r.stamps.archivedOn
  | .link, r => r.archivedOn
  | .discount, r => r.stamps.archivedOn
  | .webhook, r => r.stamps.archivedOn
  | .execution, _ => none
  | .user, r => r.stamps.archivedOn

def live (k : Kind) (r : k.Row) : Bool := (k.archivedOn r).isNone

def archived (now : Instant) : (k : Kind) → k.Row → k.Row
  | .root, r => { r with stamps := r.stamps.archived now }
  | .image, r => { r with stamps := r.stamps.archived now }
  | .option, r => { r with stamps := r.stamps.archived now }
  | .value, r => { r with stamps := r.stamps.archived now }
  | .product, r => { r with stamps := r.stamps.archived now }
  | .link, r => { r with archivedOn := some now }
  | .discount, r => { r with stamps := r.stamps.archived now }
  | .webhook, r => { r with stamps := r.stamps.archived now }
  | .execution, r => r
  | .user, r => { r with stamps := r.stamps.archived now }

theorem number_archived (now : Instant) (k : Kind) (r : k.Row) :
    k.number (k.archived now r) = k.number r := by
  cases k <;> rfl

end Kind

structure Tables where
  roots : List ProductRoot
  images : List ProductImage
  options : List ProductOption
  values : List OptionValue
  products : List Product
  links : List VariantLink
  discounts : List Discount
  webhooks : List Webhook
  executions : List Execution
  users : List User

namespace Tables

def empty : Tables := ⟨[], [], [], [], [], [], [], [], [], []⟩

def rows (t : Tables) : (k : Kind) → List k.Row
  | .root => t.roots
  | .image => t.images
  | .option => t.options
  | .value => t.values
  | .product => t.products
  | .link => t.links
  | .discount => t.discounts
  | .webhook => t.webhooks
  | .execution => t.executions
  | .user => t.users

def put (t : Tables) : (k : Kind) → List k.Row → Tables
  | .root, rows => { t with roots := rows }
  | .image, rows => { t with images := rows }
  | .option, rows => { t with options := rows }
  | .value, rows => { t with values := rows }
  | .product, rows => { t with products := rows }
  | .link, rows => { t with links := rows }
  | .discount, rows => { t with discounts := rows }
  | .webhook, rows => { t with webhooks := rows }
  | .execution, rows => { t with executions := rows }
  | .user, rows => { t with users := rows }

def live (t : Tables) (k : Kind) : List k.Row := (t.rows k).filter k.live

@[simp]
theorem rows_put (t : Tables) (k : Kind) (rows : List k.Row) : (t.put k rows).rows k = rows := by
  cases k <;> rfl

theorem rows_put_of_ne (t : Tables) {j k : Kind} (rows : List k.Row) (different : j ≠ k) :
    (t.put k rows).rows j = t.rows j := by
  cases j <;> cases k <;> first | rfl | exact absurd rfl different

theorem ext_rows {s t : Tables} (same : ∀ k, s.rows k = t.rows k) : s = t := by
  obtain ⟨_, _, _, _, _, _, _, _, _, _⟩ := s
  obtain ⟨_, _, _, _, _, _, _, _, _, _⟩ := t
  have root := same .root
  have image := same .image
  have option := same .option
  have value := same .value
  have product := same .product
  have link := same .link
  have discount := same .discount
  have webhook := same .webhook
  have execution := same .execution
  have user := same .user
  simp only [rows] at root image option value product link discount webhook execution user
  subst root image option value product link discount webhook execution user
  rfl

end Tables

/-- The last number drawn for each table. -/
structure Sequences where
  (roots images options values products links discounts webhooks executions users : Nat)
  deriving Repr, DecidableEq

namespace Sequences

def start : Sequences := ⟨0, 0, 0, 0, 0, 0, 0, 0, 0, 0⟩

def last (s : Sequences) : Kind → Nat
  | .root => s.roots
  | .image => s.images
  | .option => s.options
  | .value => s.values
  | .product => s.products
  | .link => s.links
  | .discount => s.discounts
  | .webhook => s.webhooks
  | .execution => s.executions
  | .user => s.users

def draw (s : Sequences) (count : Nat) : Kind → Sequences
  | .root => { s with roots := s.roots + count }
  | .image => { s with images := s.images + count }
  | .option => { s with options := s.options + count }
  | .value => { s with values := s.values + count }
  | .product => { s with products := s.products + count }
  | .link => { s with links := s.links + count }
  | .discount => { s with discounts := s.discounts + count }
  | .webhook => { s with webhooks := s.webhooks + count }
  | .execution => { s with executions := s.executions + count }
  | .user => { s with users := s.users + count }

@[simp]
theorem last_draw (s : Sequences) (count : Nat) (k : Kind) :
    (s.draw count k).last k = s.last k + count := by
  cases k <;> rfl

theorem last_draw_of_ne (s : Sequences) (count : Nat) {j k : Kind} (different : j ≠ k) :
    (s.draw count k).last j = s.last j := by
  cases j <;> cases k <;> first | rfl | exact absurd rfl different

end Sequences
end Shop
