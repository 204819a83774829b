import Shop.Page
import Shop.Store.Condition
import Shop.Store.Parameter

/-!
# Statements

A statement either looks rows up, adds rows with new numbers, or changes rows that are there.  It
sees the time of the store.  A statement that fails leaves the tables as they are, but the numbers it
drew are spent; one whose parameters cannot be passed draws none.
-/

namespace Shop

/-- A statement, which answers with tables and numbers after it. -/
structure Statement (α : Type) where
  run : Instant → Tables → Sequences → Except StoreFault (α × Tables) × Sequences

namespace Statement

/-- A statement whose answer is used in another form. -/
def map (f : α → β) (s : Statement α) : Statement β :=
  ⟨fun now t drawn =>
    let (result, drawn) := s.run now t drawn
    (result.map fun (a, t) => (f a, t), drawn)⟩

def passing (parameters : List Parameter) (s : Statement α) : Statement α :=
  ⟨fun now t drawn =>
    match parameters.findSome? Parameter.fault? with
    | some fault => (.error fault, drawn)
    | none => s.run now t drawn⟩

def select (f : Tables → α) : Statement α :=
  ⟨fun _ t drawn => (.ok (f t, t), drawn)⟩

/-- The rows that a list of new rows gets, with the numbers after `last`. -/
def numbered (last : Nat) : List (Int → R) → List R
  | [] => []
  | row :: rows => row ((last + 1 : Nat) : Int) :: numbered (last + 1) rows

/-- Add rows, each made from its number. -/
def insertAll (k : Kind) (make : Instant → List (Int → k.Row)) : Statement (List k.Row) :=
  ⟨fun now t drawn =>
    let new := numbered (drawn.last k) (make now)
    let drawn := drawn.draw new.length k
    let rows := t.rows k ++ new
    match t.fault? k rows new with
    | some fault => (.error fault, drawn)
    | none => (.ok (new, t.put k rows), drawn)⟩

def insert (k : Kind) (make : Instant → Int → k.Row) : Statement k.Row :=
  ⟨fun now t drawn =>
    let drawn := drawn.draw 1 k
    let new := make now (drawn.last k)
    let rows := t.rows k ++ [new]
    match t.fault? k rows [new] with
    | some fault => (.error fault, drawn)
    | none => (.ok (new, t.put k rows), drawn)⟩

/-- Change the rows that a condition chooses; answers with the changed rows. -/
def update (k : Kind) (chosen : Tables → k.Row → Bool) (change : Instant → k.Row → k.Row) :
    Statement (List k.Row) :=
  ⟨fun now t drawn =>
    let rows := (t.rows k).map fun r => if chosen t r then change now r else r
    let new := ((t.rows k).filter (chosen t)).map (change now)
    match t.fault? k rows new with
    | some fault => (.error fault, drawn)
    | none => (.ok (new, t.put k rows), drawn)⟩

def updateLive (k : Kind) (id : Int) (change : Instant → k.Row → k.Row) :
    Statement (Option k.Row) :=
  (update k (fun _ r => k.live r && k.number r == id) change).map List.head?

/-- Archive the live rows that a condition chooses. -/
def archiveAll (k : Kind) (chosen : Tables → k.Row → Bool) : Statement Unit :=
  (update k (fun t r => k.live r && chosen t r) fun now => k.archived now).map fun _ => ()

def archive (k : Kind) (id : Int) : Statement (Option k.Row) :=
  updateLive k id fun now => k.archived now

def find (k : Kind) (id : Int) : Statement (Option k.Row) :=
  select fun t => (t.live k).find? (k.number · == id)

/-- A page of the live rows that a condition chooses. -/
def page (k : Kind) (p : Page) (chosen : k.Row → Bool) : Statement (List k.Row) :=
  select fun t => p.slice ((t.live k).filter chosen)

/-- The number of live rows that a condition chooses. -/
def count (k : Kind) (chosen : k.Row → Bool) : Statement Nat :=
  select fun t => ((t.live k).filter chosen).length

def any (k : Kind) (chosen : k.Row → Bool) : Statement Bool :=
  select fun t => (t.live k).any chosen

end Statement
end Shop
