import Shop.Http.Address
import Shop.Http.Date
import Shop.Http.Message
import Shop.Http.Range
import Shop.Picture.Shelf
import Shop.Service.Action

/-!
# Serving pictures

The files of the shelf are served below one path.  A path that climbs out of the directory finds
nothing, and one that names a directory is sent on to the path with a slash at its end, where nothing
is served either.  A name that no file can have is an error of the service.

A client may ask for a picture only if it has changed since a date, or only if it has not, and may
ask for a range of its bytes.
-/

namespace Shop
namespace Http

/-- The path below that of the pictures, if a path leads there. -/
def filePath? (path : String) : Option String :=
  let cs := path.toList
  let start := Action.pictureAddresses.toList
  if start.isPrefixOf cs then
    match cs.drop start.length with
    | [] => some "/"
    | '/' :: rest => some (String.ofList ('/' :: rest))
    | _ => none
  else none

/-- The names that lead to a file, if a path gives any: one that climbs out of the directory or
starts anew from a slash gives none, and neither does one with a name that holds a zero byte. -/
def fileNames? (path : String) : Option (List String) := do
  let s ← unescape? (String.ofList (path.toList.dropWhile (· == '/')))
  let names := (s.splitOn "/").filter fun name => name != "" && name != "."
  if s.toList.head? = some '/' ∨ names.contains ".." ∨ s.toList.contains '\x00' then none
  else some names

/-- The date that a header of a request gives, if it gives one. -/
def Request.date? (r : Request) (name : String) : Option Instant :=
  (r.headers.value? name).bind readDate

/-- The response that a picture written at an instant has for a request that depends on dates, if it
is not the picture itself. -/
def dateResponse? (written : Instant) (r : Request) : Option Response :=
  let second : Instant := ⟨written.seconds, 0⟩
  if (r.date? "if-unmodified-since").any (·.before second) then some (.of 412 .empty)
  else if (r.date? "if-modified-since").any (!·.before second) then some (.of 304 .empty)
  else none

/-- A picture, or the range of its bytes that a request asks for. -/
def pictureResponse (picture : Raster) (r : Request) : Response :=
  let size := picture.fileSize
  let answer (status : Nat) (body : Body) : Response :=
    ⟨status, [("content-type", "image/png"), ("accept-ranges", "bytes")], body⟩
  match r.headers.value? "range" with
  | none => (answer 200 (.picture picture)).sized
  | some range =>
    match (ByteRange.read range).bind (·.within? size) with
    | none => (answer 416 .empty).withHeader "content-range" ("bytes */" ++ toString size)
    | some (first, last) =>
      let body := if first = 0 ∧ last + 1 = size then .picture picture else .part first last
      (answer 206 body).sized.withHeader "content-range"
        ("bytes " ++ toString first ++ "-" ++ toString last ++ "/" ++ toString size)

/-- The response to a request for what lies at a path of the shelf, whose files were written at an
instant. -/
def serveFile (shelf : Shelf) (written : Instant) (r : Request) (site path : String)
    (query : Option String) : Response :=
  if r.method ≠ .get ∧ r.method ≠ .head then .notAllowed [.get]
  else match fileNames? path with
    | none => .notFound
    | some names =>
      match shelf.holding names with
      | .file picture => (dateResponse? written r).getD (pictureResponse picture r)
      | .unnameable => .of 500 .empty
      | .folder =>
        if path.toList.getLast? = some '/' then .notFound
        else (Response.of 307 .empty).withHeader "location"
          (site ++ path ++ "/" ++ (query.map ("?" ++ ·)).getD "")
      | .nothing | .unreachable => .notFound

end Http
end Shop
