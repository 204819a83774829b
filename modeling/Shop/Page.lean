import Shop.Json.Value

/-!
# Pages

Lists are served page by page.  Whatever numbers a client asks for, the page is at least the first
and holds at least one row and at most `maxLimit`; the rows before it are counted without leaving
64 bits.
-/

namespace Shop

/-- A page of a list: its number from 1, and how many rows it holds at most. -/
structure Page where
  number : Int
  limit : Int
  deriving Repr, DecidableEq

namespace Page

def defaultLimit : Int := 25

def maxLimit : Int := 50

/-- Bring a wanted size into the range from 1 to `max`; a maximum below 1 wins. -/
def clampLimit (wanted : Option Int) (default max : Int) : Int :=
  min (Max.max (wanted.getD default) 1) max

def of (number limit : Option Int) : Page :=
  ⟨Max.max (number.getD 1) 1, clampLimit limit defaultLimit maxLimit⟩

def maxOffset : Int := Int.pow 2 63 - 1

/-- How many rows stand before the page. -/
def offset (p : Page) : Int :=
  min ((p.number - 1) * p.limit) maxOffset

def slice (p : Page) (rows : List α) : List α :=
  (rows.drop p.offset.toNat).take p.limit.toNat

def envelope (p : Page) (count : Int) (rows : List Json) : Json :=
  .object [("count", .int count), ("limit", .int p.limit), ("page", .int p.number),
    ("data", .list rows)]

end Page
end Shop
