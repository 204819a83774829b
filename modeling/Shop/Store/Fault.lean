/-!
# Faults of the store

Why a statement of the store failed.  Only two of them can be told to a client: that a row is not
there, and that a value which must be unique exists already.
-/

namespace Shop

inductive StoreFault where
  | noRow
  | busy
  /-- The store could not be reached or understood. -/
  | protocol (message : String)
  | rejected (code constraint : Option String) (message : String)
  deriving Repr, DecidableEq

namespace StoreFault

def text : StoreFault → String
  | .noRow => "no rows returned by a query that expected to return at least one row"
  | .busy => "pool timed out while waiting for an open connection"
  | .protocol message => "encountered unexpected or invalid data: " ++ message
  | .rejected _ _ message => "error returned from database: " ++ message

/-- The code of a value that must be unique and is not. -/
def duplicateCode : String := "23505"

/-- The code of a reference to a row that is not there. -/
def danglingCode : String := "23503"

/-- The code of a row that breaks a condition of its table. -/
def conditionCode : String := "23514"

def textCode : String := "22021"

def timeCode : String := "22008"

def duplicateKey (index : String) : StoreFault :=
  .rejected (some duplicateCode) (some index)
    ("duplicate key value violates unique constraint \"" ++ index ++ "\"")

/-- A reference to a row that is not there. -/
def danglingRow : StoreFault :=
  .rejected (some danglingCode) none "row refers to a row that does not exist"

def unsoundRow : StoreFault :=
  .rejected (some conditionCode) none "row violates a condition of its table"

def badText : StoreFault :=
  .rejected (some textCode) none "text holds a character that cannot be stored"

def badTime : StoreFault :=
  .rejected (some timeCode) none "time out of range"

/-- The beginning of the names of the indexes that a client may hear of. -/
def publicIndex : String := "uq_"

/-- The index that a row would break, if the client may hear of it. -/
def brokenIndex? : StoreFault → Option String
  | .rejected code constraint _ =>
    let name := constraint.getD "unknown"
    if code = some duplicateCode ∧ publicIndex.toList.isPrefixOf name.toList then some name
    else none
  | _ => none

end StoreFault
end Shop
