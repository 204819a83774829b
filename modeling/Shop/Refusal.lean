import Shop.Rule.Problem

/-!
# Refusals

Why the catalogue turns a request down: the thing asked for does not exist, the request breaks a
rule, it clashes with what is stored, or the service itself failed.
-/

namespace Shop

inductive Refusal where
  | missing (entity : String) (id : Int)
  /-- No live row of an entity has this natural key. -/
  | missingBy (entity key value : String)
  | invalid (message : String)
  /-- The request clashes with a live row. -/
  | conflict (message : String)
  | internal (message : String)
  deriving Repr, DecidableEq

namespace Refusal

def text : Refusal → String
  | .missing entity id => "Entity not found: " ++ entity ++ " with id " ++ toString id
  | .missingBy entity key value =>
    "Entity not found: " ++ entity ++ " with " ++ key ++ " '" ++ value ++ "'"
  | .invalid message => "Validation failed: " ++ message
  | .conflict message => "Conflict: " ++ message
  | .internal message => "Internal error: " ++ message

def ofProblems (problems : Problems) : Refusal :=
  .invalid problems.describe

end Refusal
end Shop
