import Shop.Password.Encoded
import Shop.Service.Action
import Shop.Store.Commerce

/-!
# Requests about users

Passwords are hashed before they reach the store, and a new password is taken only along with the
current one.
-/

namespace Shop
namespace Service

open Shop.Action

def noUser (id : Int) : Refusal := .missing "user" id

def usernameExists (username : String) : String :=
  "user with username '" ++ username ++ "' already exists"

def createUser (request : UserRequest) : Action Reply := do
  let c ← context
  ensure (Rule.passwordStrength request.password c.settings.minPasswordLength)
  ensureFree (← statement (Store.usernameTaken request.username none))
    (usernameExists request.username)
  let user ← statement (Store.createUser (request.newUser (Password.hash c.salt request.password)))
  return .created user.toJson

def showUser (id : Int) : Action Reply := do
  let user ← require (noUser id) (← statement (.find .user id))
  return .ok user.toJson

/-- The hash of a new password, once the current one is shown to be known. -/
def newHash (existing : User) (current : Option String) (new : String) : Action String := do
  match current with
  | none => throw (.malformed "current_password is required to change the password")
  | some current =>
    match Password.verify current existing.passwordHash with
    | .error fault => throw (.internal ("Stored password hash is unreadable: " ++ fault.text))
    | .ok false => throw (.malformed "current password is incorrect")
    | .ok true =>
      let c ← context
      ensure (Rule.passwordStrength new c.settings.minPasswordLength)
      return Password.hash c.salt new

def changeUser (id : Int) (change : UserChange) : Action Reply := do
  let existing ← require (noUser id) (← statement (.find .user id))
  match change.username with
  | none => pure ()
  | some username =>
    ensureFree (← statement (Store.usernameTaken username (some id))) (usernameExists username)
  let passwordHash ← match change.newPassword with
    | none => pure none
    | some new => do pure (some (← newHash existing change.currentPassword new))
  let user ← require (noUser id) (← statement (Store.changeUser id (change.patch passwordHash)))
  return .ok user.toJson

def archiveUser (id : Int) : Action Reply := do
  let user ← require (noUser id) (← statement (.archive .user id))
  return .ok user.toJson

end Service
end Shop
