import Shop.Service.Action
import Shop.Store.Commerce

/-! # Requests about discounts -/

namespace Shop
namespace Service

open Shop.Action

def noDiscount (id : Int) : Refusal := .missing "discount" id

def listDiscounts (page : Page) : Action Reply := do
  let discounts ← statement (.page .discount page fun _ => true)
  let count ← statement (.count .discount fun _ => true)
  return .ok (page.envelope count (discounts.map (·.toJson)))

def showDiscount (id : Int) : Action Reply := do
  let discount ← require (noDiscount id) (← statement (.find .discount id))
  return .ok discount.toJson

def createDiscount (request : DiscountRequest) : Action Reply := do
  ensure (request.checkConsistency (← context).clock)
  let discount ← statement (Store.createDiscount request)
  return .created discount.toJson

def changeDiscount (id : Int) (patch : DiscountPatch) : Action Reply := do
  let discount ← require (noDiscount id) (← statement (Store.changeDiscount id patch))
  return .ok discount.toJson

def archiveDiscount (id : Int) : Action Reply := do
  let discount ← require (noDiscount id) (← statement (.archive .discount id))
  return .ok discount.toJson

end Service
end Shop
