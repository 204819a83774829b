/-!
# Rows by their owners

What belongs to several owners is looked up at once and comes back as one list of rows.  The rows are
sorted by the number of their owner, and each owner takes its own.  What was taken is gone, so an
owner that comes again finds nothing left.
-/

namespace Shop

/-- Rows by the number of their owner. -/
def Groups (β : Type) : Type := Int → List β

namespace Groups

def empty : Groups β := fun _ => []

def add (groups : Groups β) (owner : Int) (row : β) : Groups β := fun number =>
  if number = owner then groups number ++ [row] else groups number

def remove (groups : Groups β) (owner : Int) : Groups β := fun number =>
  if number = owner then [] else groups number

/-- Sort rows by their owners; those of one owner stay in their order. -/
def ofRows (owner : β → Int) (rows : List β) : Groups β :=
  rows.foldl (fun groups row => groups.add (owner row) row) empty

/-- Give each of some owners its rows. -/
def handOut (number : α → Int) (give : α → List β → γ) (groups : Groups β) : List α → List γ
  | [] => []
  | a :: rest =>
    give a (groups (number a)) :: handOut number give (groups.remove (number a)) rest

end Groups
end Shop
