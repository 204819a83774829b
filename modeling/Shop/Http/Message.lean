import Shop.Json.Value
import Shop.Picture.Raster
import Shop.Text.Lowercase

/-!
# Messages

Requests and responses as the service sees them.  Names of headers are compared without regard to
case.
-/

namespace Shop
namespace Http

inductive Method where
  | get
  | head
  | post
  | patch
  | delete
  | options
  | other (name : String)
  deriving Repr, DecidableEq

namespace Method

def read : String → Method
  | "GET" => .get
  | "HEAD" => .head
  | "POST" => .post
  | "PATCH" => .patch
  | "DELETE" => .delete
  | "OPTIONS" => .options
  | name => .other name

def name : Method → String
  | .get => "GET"
  | .head => "HEAD"
  | .post => "POST"
  | .patch => "PATCH"
  | .delete => "DELETE"
  | .options => "OPTIONS"
  | .other name => name

end Method

/-- Headers, in their order. -/
abbrev Headers := List (String × String)

def Headers.value? (headers : Headers) (name : String) : Option String :=
  (headers.find? fun header => Text.eqIgnoreAsciiCase header.1 name).map (·.2)

def Headers.values (headers : Headers) (name : String) : List String :=
  (headers.filter fun header => Text.eqIgnoreAsciiCase header.1 name).map (·.2)

structure Request where
  method : Method
  /-- The path and, behind a question mark, the query. -/
  target : String
  headers : Headers
  body : ByteArray

inductive Body where
  | empty
  | text (s : String)
  | json (value : Json)
  | picture (r : Raster)
  /-- Some bytes of a file, from the first to the last of them. -/
  | part (first last : Nat)

namespace Body

/-- The type of content of a body, where the body alone shows it. -/
def contentType : Body → Option String
  | .empty | .part _ _ => none
  | .text _ => some "text/plain; charset=utf-8"
  | .json _ => some "application/json"
  | .picture _ => some "image/png"

def size : Body → Nat
  | .empty => 0
  | .text s => s.utf8ByteSize
  | .json value => value.compact.utf8ByteSize
  | .picture r => r.fileSize
  | .part first last => last + 1 - first

end Body

structure Response where
  status : Nat
  headers : Headers
  body : Body

namespace Response

def of (status : Nat) (body : Body) : Response :=
  ⟨status, (body.contentType.map fun type => ("content-type", type)).toList, body⟩

def withHeader (r : Response) (name value : String) : Response :=
  { r with headers := r.headers ++ [(name, value)] }

/-- A response with a header, if it has none of this name. -/
def withDefault (r : Response) (name value : String) : Response :=
  if (r.headers.value? name).isSome then r else r.withHeader name value

def sized (r : Response) : Response :=
  r.withDefault "content-length" (toString r.body.size)

/-- A response without its body, as a request for the headers alone is answered. -/
def withoutBody (r : Response) : Response := { r with body := .empty }

/-- The response to a request for something that is not served. -/
def notFound : Response := .of 404 .empty

/-- The methods that are served, as a header names them: wherever a thing itself is served, the
headers alone are too. -/
def allowed (methods : List Method) : String :=
  let served := methods.flatMap fun m => if m = .get then [Method.get, .head] else [m]
  String.intercalate "," (served.eraseDups.map Method.name)

def allowing (r : Response) (methods : List Method) : Response :=
  r.withDefault "allow" (allowed methods)

/-- The response to a method that is not served; names those that are. -/
def notAllowed (methods : List Method) : Response := (of 405 .empty).allowing methods

end Response
end Http
end Shop
