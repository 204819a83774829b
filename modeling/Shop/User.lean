import Shop.Catalog.Request

/-!
# Users

A user is known by a name and a mail address and holds the hash of a password.  No view of a user
shows the hash.
-/

namespace Shop

structure User where
  id : Int
  firstName : String
  lastName : String
  username : String
  email : String
  passwordHash : String
  isAdmin : Bool
  passwordChangedOn : Option Instant
  stamps : Stamps
  deriving Repr, DecidableEq

/-- The request for a user, with the password in clear. -/
structure UserRequest where
  firstName : String
  lastName : String
  username : String
  email : String
  password : String
  isAdmin : Bool
  deriving Repr, DecidableEq

structure NewUser where
  firstName : String
  lastName : String
  username : String
  email : String
  passwordHash : String
  isAdmin : Bool
  deriving Repr, DecidableEq

/-- The request to change a user; a new password must come with the current one. -/
structure UserChange where
  firstName : Option String
  lastName : Option String
  username : Option String
  email : Option String
  isAdmin : Option Bool
  currentPassword : Option String
  newPassword : Option String
  deriving Repr, DecidableEq

structure UserPatch where
  firstName : Option String
  lastName : Option String
  username : Option String
  email : Option String
  isAdmin : Option Bool
  passwordHash : Option String
  deriving Repr, DecidableEq

/-- A user as JSON, without the hash. -/
def User.toJson (u : User) : Json :=
  .object ([("id", .int u.id), ("first_name", .text u.firstName), ("last_name", .text u.lastName),
    ("username", .text u.username), ("email", .text u.email), ("is_admin", .bool u.isAdmin),
    ("password_last_changed_on", .ofOption Instant.toJson u.passwordChangedOn)] ++
    u.stamps.members)

open Json Json.Record

namespace UserRequest

def record : Record UserRequest :=
  mk <$> textMember "first_name" <*> textMember "last_name" <*>
    required "username" Reader.text <*> required "email" Reader.text <*>
    required "password" Reader.text <*> flagMember "is_admin"

def reader : Reader UserRequest := record.reader "CreateUserRequest"

/-- The rules for a user; the strength of the password is a matter of settings. -/
def problems (r : UserRequest) : Problems :=
  .node (Problems.check "username" (Rule.notBlank r.username) ++
    Problems.check "email" (Rule.email r.email))

/-- The user that the request asks for, once the password is hashed. -/
def newUser (r : UserRequest) (passwordHash : String) : NewUser :=
  { firstName := r.firstName, lastName := r.lastName, username := r.username, email := r.email,
    passwordHash, isAdmin := r.isAdmin }

end UserRequest

namespace UserChange

def record : Record UserChange :=
  mk <$> optional "first_name" Reader.text <*> optional "last_name" Reader.text <*>
    optional "username" Reader.text <*> optional "email" Reader.text <*>
    optional "is_admin" Reader.bool <*> optional "current_password" Reader.text <*>
    optional "new_password" Reader.text

def reader : Reader UserChange := record.reader "UpdateUserRequest"

def problems (c : UserChange) : Problems :=
  .node (Problems.checkSome "username" Rule.notBlank c.username ++
    Problems.checkSome "email" Rule.email c.email)

/-- The change of the row, with the hash of the new password if there is one. -/
def patch (c : UserChange) (passwordHash : Option String) : UserPatch :=
  { firstName := c.firstName, lastName := c.lastName, username := c.username, email := c.email,
    isAdmin := c.isAdmin, passwordHash }

end UserChange

def NewUser.row (n : NewUser) (now : Instant) (id : Int) : User :=
  { id, firstName := n.firstName, lastName := n.lastName, username := n.username,
    email := n.email, passwordHash := n.passwordHash, isAdmin := n.isAdmin,
    passwordChangedOn := some now, stamps := .new now }

/-- A user after a change; a new hash also sets the time of the password's last change. -/
def UserPatch.apply (p : UserPatch) (now : Instant) (u : User) : User :=
  { u with
    firstName := p.firstName.getD u.firstName
    lastName := p.lastName.getD u.lastName
    username := p.username.getD u.username
    email := p.email.getD u.email
    isAdmin := p.isAdmin.getD u.isAdmin
    passwordHash := p.passwordHash.getD u.passwordHash
    passwordChangedOn := if p.passwordHash.isSome then some now else u.passwordChangedOn
    stamps := u.stamps.updated now }

end Shop
