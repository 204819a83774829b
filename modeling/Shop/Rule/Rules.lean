import Shop.Refusal
import Shop.Rule.Email
import Shop.Text.Blank
import Shop.Text.Quoted

/-!
# Rules

The rules that members of requests keep.  A rule yields the problem it finds, if any.
-/

namespace Shop
namespace Rule

def maxSkuLength : Nat := 50

/-- The characters of a SKU: ASCII letters, hyphen and underscore. -/
def isSkuChar (c : Char) : Bool :=
  c.isAlpha || c == '-' || c == '_'

/-- Whether a text is a SKU: one to fifty of its characters. -/
def isSku (s : String) : Bool :=
  let cs := s.toList
  1 ≤ cs.length && cs.length ≤ maxSkuLength && cs.all isSkuChar

/-- A SKU or a prefix of SKUs must be one. -/
def sku (s : String) : Option Problem :=
  if isSku s then none
  else some ⟨"invalid_sku", some ("the sku received (" ++ s ++ ") is invalid")⟩

def discountTypes : List String := ["percentage", "flat_amount"]

def discountType (s : String) : Option Problem :=
  if discountTypes.contains s then none
  else some ⟨"invalid_discount_type", some ("discount type '" ++ s ++
    "' is invalid. Must be one of: " ++ Text.quotedList discountTypes)⟩

/-- The only form in which payloads are delivered. -/
def jsonContentType : String := "application/json"

/-- The content type of a webhook must be JSON, in any case. -/
def contentType (s : String) : Option Problem :=
  if Text.eqIgnoreAsciiCase s jsonContentType then none
  else some ⟨"invalid_content_type", some ("unsupported content type '" ++ s ++
    "', expected " ++ jsonContentType)⟩

/-- Whether a text names a resource of the web, by its beginning. -/
def isWebUrl (s : String) : Bool :=
  "http://".toList.isPrefixOf s.toList || "https://".toList.isPrefixOf s.toList

/-- The address of a webhook must lie in the web, blanks around it aside. -/
def webhookUrl (s : String) : Option Problem :=
  if isWebUrl (Text.trim s) then none
  else some ⟨"invalid_webhook_url", some "webhook url must start with http:// or https://"⟩

def productCreated : String := "product_created"

def productUpdated : String := "product_updated"

def productArchived : String := "product_archived"

/-- The events to which a webhook can subscribe. -/
def eventTypes : List String := [productCreated, productUpdated, productArchived]

def isEventType (s : String) : Bool := eventTypes.contains s

/-- A webhook must subscribe to an event of the catalogue. -/
def eventType (s : String) : Option Problem :=
  if isEventType s then none
  else some ⟨"invalid_event_type", some ("unknown event type '" ++ s ++
    "'. Must be one of: " ++ Text.quotedList eventTypes)⟩

def notBlank (s : String) : Option Problem :=
  if Text.isBlank s then some ⟨"blank", some "must not be blank"⟩ else none

def email (s : String) : Option Problem :=
  if Email.isValid s then none else some ⟨"email", none⟩

/-- A whole number must not be less than a bound. -/
def atLeast (low n : Int) : Option Problem :=
  if n < low then some ⟨"range", none⟩ else none

/-- A double must not be less than zero. -/
def nonNegative (x : Float) : Option Problem :=
  if x < 0.0 then some ⟨"range", none⟩ else none

/-- The first text whose key occurred before it. -/
def firstRepeated (key : String → String) (seen : List String) : List String → Option String
  | [] => none
  | s :: rest =>
    if seen.contains (key s) then some s else firstRepeated key (key s :: seen) rest

/-- The values of an option must not be blank, and no two may be equal when lowercased, since they
become lowercase parts of a SKU. -/
def optionValues (values : List String) : Option Problem :=
  if values.any Text.isBlank then some ⟨"blank_value", some "option values must not be blank"⟩
  else (firstRepeated Text.lowercase [] values).map fun value =>
    ⟨"duplicate_value", some ("option value '" ++ value ++ "' was provided more than once")⟩

/-- The names of the options of one root must be distinct. -/
def uniqueNames (names : List String) : Except Refusal Unit :=
  match firstRepeated id [] names with
  | none => .ok ()
  | some name =>
    .error (.invalid ("product option with the name '" ++ name ++ "' was provided more than once"))

def passwordStrength (password : String) (minLength : Nat) : Except Refusal Unit :=
  if password.length < minLength then
    .error (.invalid ("password must be at least " ++ toString minLength ++ " characters long"))
  else .ok ()

end Rule
end Shop
