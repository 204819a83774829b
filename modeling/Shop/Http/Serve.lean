import Shop.Http.Files
import Shop.Http.Route

/-!
# Serving requests

A request is answered by a command or with a picture.  Pages of other origins may read the answer if
the settings name their origin; a browser asks for that beforehand, which is answered on every path.
A request may bear a name, which its answer bears too.

What is described are requests that are served to their end.  The time that serving takes does not
occur here, so each request is assumed to be answered within `Settings.requestTimeout`, after which
it would be given up with status 408 and no body.  Nor does anything here panic, which would be
answered with status 500 as plain text.
-/

namespace Shop
namespace Http

def requestName : String := "x-request-id"

/-- What answers depend on beside the path. -/
def originHeaders : String :=
  "origin, access-control-request-method, access-control-request-headers"

/-- The methods that pages of other origins may use. -/
def sharedMethods : List Method := [.get, .head, .post, .delete, .patch]

def shareSeconds : Nat := 3600

/-- The response to a browser that asks what it may do. -/
def preflight : Response where
  status := 200
  headers :=
    [("access-control-allow-methods", String.intercalate "," (sharedMethods.map Method.name)),
      ("access-control-allow-headers", "content-type"),
      ("access-control-max-age", toString shareSeconds)]
  body := .empty

/-- A response that tells whether the page of the request may read it. -/
def share (origins : List String) (r : Request) (response : Response) : Response :=
  let response := response.withHeader "vary" originHeaders
  match r.headers.value? "origin" with
  | some origin =>
    if origins.contains origin then response.withHeader "access-control-allow-origin" origin
    else response
  | none => response

def named (fresh : String) (r : Request) (response : Response) : Response :=
  response.withHeader requestName ((r.headers.value? requestName).getD fresh)

def ofReply (reply : Reply) : Response :=
  .of reply.status (match reply.body with
    | some body => .json body
    | none => .empty)

/-- Answer a request by its command or with a picture.  Where commands are served, the answer tells
its size; pictures do so themselves. -/
def answer (context : Context) (s : Session) (r : Request) : Response × Session :=
  let target := Target.read r.target
  let (response, s) :=
    match filePath? target.path with
    | some path => (serveFile s.shelf context.clock r target.site path target.query, s)
    | none =>
      match r.command with
      | .error .unknown => (.notFound, s)
      | .error rejection => (rejection.response.sized, s)
      | .ok command =>
        let (reply, s) := command.action.serve context s
        ((ofReply reply).sized, s)
  (if r.method = .head then response.withoutBody else response, s)

/-- The response to a browser that asks what it may do at a path.  Where commands are served, it
names their methods too. -/
def preflightAt (path : String) : Response :=
  let methods := (servedAt path).map (·.1)
  if (filePath? path).isSome ∨ methods.isEmpty then preflight
  else (preflight.allowing methods).sized

/-- Serve a request; `fresh` names it if it bears no name. -/
def serve (context : Context) (fresh : String) (s : Session) (r : Request) :
    Response × Session :=
  let origins := context.settings.origins
  if r.method = .options then (share origins r (preflightAt (Target.read r.target).path), s)
  else
    let (response, s) := answer context s r
    (share origins r (named fresh r response), s)

end Http
end Shop
