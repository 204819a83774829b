import Shop.Catalog.Images
import Shop.Event.Bus
import Shop.Event.Basic
import Shop.Failure
import Shop.Picture.Shelf
import Shop.Settings
import Shop.Store.Statement

/-!
# Actions

An action is what one request does: statements on the store, pictures kept on the shelf, events
published on the bus.  It runs in a context that a request cannot change and ends with a result or a
failure; what was done before a failure stays done, unless it was done in a transaction.  A
transaction that fails puts the rows back, but neither the numbers drawn nor the pictures kept.

Statements and pictures are counted, so that a context can let any one of them fail.
-/

namespace Shop

/-- What lasts from one request to the next. -/
structure Session where
  tables : Tables
  sequences : Sequences
  shelf : Shelf
  bus : Bus Event

/-- A session in which nothing has happened; the bus keeps as many events as a reader may lag. -/
def Session.start (queueCapacity : Nat) : Session :=
  ⟨.empty, .start, .empty, .new queueCapacity⟩

/-- How a picture is not kept although nothing is wrong with it: after some steps of keeping it, the
storage fails. -/
structure Mishap where
  steps : Nat
  fault : PictureFault

/-- Which statements and pictures of a request fail, by how many came before. -/
structure Faults where
  statement : Nat → Option StoreFault
  picture : Nat → Option Mishap

def Faults.none : Faults := ⟨fun _ => .none, fun _ => .none⟩

/-- What a request finds: the time of the store, the time of the service, the settings, the salt of
a new hash, the way to pictures elsewhere, and what fails. -/
structure Context where
  now : Instant
  clock : Instant
  settings : Settings
  salt : ByteArray
  download : String → Except DownloadFault ByteArray
  faults : Faults

structure Progress where
  session : Session
  statements : Nat
  pictures : Nat

def Progress.start (s : Session) : Progress := ⟨s, 0, 0⟩

abbrev Work := ReaderT Context (StateM Progress)

abbrev Action := ExceptT Failure Work

namespace Action

def perform (a : Action α) (context : Context) (p : Progress) : Except Failure α × Progress :=
  (a.run.run context).run p

def of (f : Context → Progress → Except Failure α × Progress) : Action α :=
  ExceptT.mk fun context => StateT.mk fun p => pure (f context p)

def context : Action Context := of fun context p => (.ok context, p)

def statement (s : Statement α) : Action α :=
  of fun context p =>
    let counted := { p with statements := p.statements + 1 }
    match context.faults.statement p.statements with
    | some fault => (.error (.store fault), counted)
    | none =>
      match s.run context.now p.session.tables p.session.sequences with
      | (.error fault, sequences) =>
        (.error (.store fault), { counted with session := { p.session with sequences } })
      | (.ok (a, tables), sequences) =>
        (.ok a, { counted with session := { p.session with tables, sequences } })

/-- Run an action as a transaction: what it did to the rows counts only if it and the statements
that begin and end the transaction succeed. -/
def transaction (a : Action α) : Action α :=
  of fun context p =>
    let mark : Action Unit := statement (.select fun _ => ())
    let whole : Action α := do
      mark
      let result ← a
      mark
      return result
    match whole.perform context p with
    | (.ok result, after) => (.ok result, after)
    | (.error failure, after) =>
      (.error failure, { after with session := { after.session with tables := p.session.tables } })

/-- The start of the addresses under which pictures are served. -/
def pictureAddresses : String := "/product_images"

def keepPicture (sku : String) (position : Nat) (r : Renditions) : Action Locations :=
  of fun context p =>
    let counted (shelf : Shelf) : Progress :=
      { p with pictures := p.pictures + 1, session := { p.session with shelf } }
    match context.faults.picture p.pictures with
    | some mishap =>
      (.error (.picture mishap.fault), counted (p.session.shelf.keepPart sku position r mishap.steps))
    | none =>
      let (kept, shelf) := p.session.shelf.keep pictureAddresses sku position r
      (kept.mapError .picture, counted shelf)

def publish (eventType : String) (shown : Json) : Action Unit :=
  of fun context p =>
    let bus := p.session.bus.publish (.of eventType shown context.clock)
    (.ok (), { p with session := { p.session with bus } })

def refuse (r : Refusal) : Action α := throw (.refused r)

def require (refusal : Refusal) : Option α → Action α
  | some a => return a
  | none => refuse refusal

def ensure : Except Refusal α → Action α
  | .ok a => return a
  | .error r => refuse r

def ensureFree (taken : Bool) (message : String) : Action Unit :=
  if taken then refuse (.conflict message) else return ()

def downloader : Downloader Work := fun address => do return (← read).download address

end Action

/-- What an action tells the client: a status, and a body where there is one. -/
structure Reply where
  status : Nat
  body : Option Json

namespace Reply

def ok (body : Json) : Reply := ⟨200, some body⟩

def created (body : Json) : Reply := ⟨201, some body⟩

def ofFailure (f : Failure) : Reply := ⟨f.status, some f.body⟩

end Reply

/-- Run an action for a client: a failure becomes a reply. -/
def Action.serve (a : Action Reply) (context : Context) (s : Session) : Reply × Session :=
  match a.perform context (.start s) with
  | (.ok reply, p) => (reply, p.session)
  | (.error failure, p) => (.ofFailure failure, p.session)

end Shop
