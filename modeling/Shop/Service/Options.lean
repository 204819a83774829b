import Shop.Service.Roots

/-!
# Requests about options and their values

Options and values can be added, changed and archived after their root was created.  That makes no
products and changes none.
-/

namespace Shop
namespace Service

open Shop.Action

def noOption (id : Int) : Refusal := .missing "product option" id

def noValue (id : Int) : Refusal := .missing "product option value" id

def optionExists (name : String) : String :=
  "product option with the name '" ++ name ++ "' already exists"

def valueExists (value : String) (optionId : Int) : String :=
  "product option value '" ++ value ++ "' already exists for option ID " ++ toString optionId

/-- Go on only if a live root has this number. -/
def requireRoot (id : Int) : Action Unit := do
  let _ ← require (noRoot id) (← statement (.find .root id))

def listOptions (rootId : Int) (page : Page) : Action Reply := do
  requireRoot rootId
  let options ← statement (.page .option page (·.rootId == rootId))
  let count ← statement (.count .option (·.rootId == rootId))
  let views ← showOptions options
  return .ok (page.envelope count (views.map (·.toJson)))

def addValues (optionId : Int) : List String → Action (List OptionValue)
  | [] => return []
  | value :: values => do
    let row ← statement (Store.createValue optionId value)
    let rows ← addValues optionId values
    return row :: rows

def addOption (rootId : Int) (input : OptionInput) : Action Reply := do
  requireRoot rootId
  ensureFree (← statement (Store.optionTaken rootId input.name)) (optionExists input.name)
  let view ← transaction (do
    let option ← statement (Store.createOption rootId input.name)
    let values ← addValues option.id input.values
    return (⟨option, values⟩ : OptionView))
  return .created view.toJson

def renameOption (id : Int) (name : String) : Action Reply := do
  let existing ← require (noOption id) (← statement (.find .option id))
  if name = existing.name then pure ()
  else
    ensureFree (← statement (Store.optionTaken existing.rootId name)) (optionExists name)
  let option ← require (noOption id) (← statement (Store.renameOption id name))
  let view ← statement ((Store.withValues [option]).map fun views => views.headD ⟨option, []⟩)
  return .ok view.toJson

/-- Archive an option and its values.  The reply shows none of them. -/
def archiveOption (id : Int) : Action Reply := do
  let option ← transaction (do
    statement (Store.archiveValuesOf id)
    require (noOption id) (← statement (.archive .option id)))
  return .ok (OptionView.toJson ⟨option, []⟩)

def addValue (optionId : Int) (value : String) : Action Reply := do
  let _ ← require (noOption optionId) (← statement (.find .option optionId))
  ensureFree (← statement (Store.valueTaken optionId value)) (valueExists value optionId)
  let row ← statement (Store.createValue optionId value)
  return .created row.toJson

def changeValue (id : Int) (value : String) : Action Reply := do
  let existing ← require (noValue id) (← statement (.find .value id))
  if value = existing.value then pure ()
  else
    ensureFree (← statement (Store.valueTaken existing.optionId value))
      (valueExists value existing.optionId)
  let row ← require (noValue id) (← statement (Store.changeValue id value))
  return .ok row.toJson

def archiveValue (id : Int) : Action Reply := do
  let row ← require (noValue id) (← statement (.archive .value id))
  return .ok row.toJson

end Service
end Shop
