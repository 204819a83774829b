import Shop.Picture.Intake
import Shop.Refusal
import Shop.Store.Fault
import Shop.Json.Value

/-!
# Failures of requests

Why a request fails, what is told to the operator and what to the client.  A failure that is not the
client's own is told to it in one fixed sentence.
-/

namespace Shop

inductive Failure where
  | refused (refusal : Refusal)
  | store (fault : StoreFault)
  | picture (fault : PictureFault)
  | malformed (message : String)
  | internal (message : String)
  deriving Repr, DecidableEq

namespace Failure

/-- The failure in words, for the operator. -/
def text : Failure → String
  | .refused refusal => refusal.text
  | .store fault => "Database error: " ++ fault.text
  | .picture fault => fault.text
  | .malformed message => "Bad request: " ++ message
  | .internal message => "Internal error: " ++ message

def internalMessage : String := "Unexpected internal error occurred"

/-- What a client hears of a thing that does not exist. -/
def missingMessage (entity key value : String) : String :=
  "The " ++ entity ++ " you were looking for (" ++ key ++ " '" ++ value ++ "') does not exist"

/-- The status and the message that the client gets. -/
def answer : Failure → Nat × String
  | .refused (.missing entity id) => (404, missingMessage entity "id" (toString id))
  | .refused (.missingBy entity key value) => (404, missingMessage entity key value)
  | .refused (.invalid message) => (400, message)
  | .refused (.conflict message) => (400, message)
  | .refused (.internal _) => (500, internalMessage)
  | .store .noRow => (404, "Resource not found")
  | .store fault =>
    match fault.brokenIndex? with
    | some index => (400, "Duplicate value violates unique constraint: " ++ index)
    | none => (500, internalMessage)
  | .picture fault => if fault.isClientFault then (400, fault.text) else (500, internalMessage)
  | .malformed message => (400, message)
  | .internal _ => (500, internalMessage)

def status (f : Failure) : Nat := f.answer.1

def body (f : Failure) : Json :=
  .object [("status", .int f.status), ("message", .text f.answer.2)]

end Failure
end Shop
