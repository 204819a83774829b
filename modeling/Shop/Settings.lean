import Shop.Number.Integer
import Shop.Picture.Shelf

/-!
# Settings

What the service is told at its start, by variables that are texts.  A variable that is not set has
a default; one that cannot be read stops the start.  The variables are read in a fixed order, and the
first that cannot be read is the one reported.
-/

namespace Shop

structure Settings where
  host : String
  listenPort : Nat
  /-- The origins whose pages may call the service. -/
  origins : List String
  /-- The seconds after which a request is given up.  Serving is described for requests that are
  answered within them. -/
  requestTimeout : Nat
  storageProvider : StorageProvider
  storageFolder : String
  queueCapacity : Nat
  /-- The seconds after which a delivery is given up. -/
  webhookTimeout : Nat
  /-- The characters of the shortest password. -/
  minPasswordLength : Nat
  deriving Repr, DecidableEq

/-- Why the service does not start. -/
inductive StartFault where
  /-- A variable is not a number of the type. -/
  | badNumber (name type : String) (fault : Number.IntegerFault)
  | badProvider (name reason : String)
  /-- An origin cannot stand in a header. -/
  | badOrigin (origin : String)
  /-- All origins are asked for by a sign among named ones. -/
  | wildcardOrigin
  deriving Repr, DecidableEq

def StartFault.text : StartFault → String
  | .badNumber name type fault =>
    name ++ " must be a valid " ++ type ++ ": ParseIntError \x7b kind: " ++ fault.name ++ " \x7d"
  | .badProvider name reason => name ++ " is invalid: " ++ reason
  | .badOrigin origin =>
    "Invalid CORS origin '" ++ origin ++ "': failed to parse header value"
  | .wildcardOrigin =>
    "Wildcard origin (`*`) cannot be passed to `AllowOrigin::list`. " ++
      "Use `AllowOrigin::any()` instead"

namespace Settings

abbrev Variables := String → Option String

def readNumber (given : Variables) (name type : String) (range : Number.IntegerRange)
    (default : Nat) : Except StartFault Nat :=
  match given name with
  | none => .ok default
  | some s =>
    match range.read s with
    | .ok n => .ok n.toNat
    | .error fault => .error (.badNumber name type fault)

/-- The origins of a list with commas, without blanks and without empty ones. -/
def splitOrigins (s : String) : List String :=
  ((s.splitOn ",").map Text.trim).filter (· != "")

def readProvider (given : Variables) (name : String) (default : StorageProvider) :
    Except StartFault StorageProvider :=
  match given name with
  | none => .ok default
  | some s => (StorageProvider.read s).mapError (.badProvider name)

def read (given : Variables) : Except StartFault Settings := do
  let listenPort ← readNumber given "PORT" "u16" Number.uint16 4321
  let requestTimeout ← readNumber given "REQUEST_TIMEOUT_SECS" "u64" Number.uint64 30
  let storageProvider ← readProvider given "IMAGE_STORAGE_PROVIDER" .localFiles
  let queueCapacity ← readNumber given "WEBHOOK_QUEUE_CAPACITY" "usize" Number.uint64 256
  let webhookTimeout ← readNumber given "WEBHOOK_TIMEOUT_SECS" "u64" Number.uint64 10
  let minPasswordLength ← readNumber given "MIN_PASSWORD_LENGTH" "usize" Number.uint64 8
  return {
    host := (given "HOST").getD "0.0.0.0"
    listenPort
    origins := splitOrigins ((given "CORS_ORIGINS").getD "http://localhost:4321")
    requestTimeout
    storageProvider
    storageFolder := (given "IMAGE_STORAGE_DIR").getD "product_images"
    queueCapacity
    webhookTimeout
    minPasswordLength }

end Settings

/-- Whether a character may stand in a header: controls other than the tab may not. -/
def isHeaderChar (c : Char) : Bool :=
  (0x20 ≤ c.toNat && c.toNat != 0x7f) || c == '\t'

def wildcard : String := "*"

/-- Check the origins that the service is to name in its answers.  Each must be able to stand in a
header, and the sign for all of them may not be among them. -/
def checkOrigins (origins : List String) : Except StartFault Unit :=
  match origins.find? fun o => !o.toList.all isHeaderChar with
  | some origin => .error (.badOrigin origin)
  | none => if origins.contains wildcard then .error .wildcardOrigin else .ok ()

end Shop
