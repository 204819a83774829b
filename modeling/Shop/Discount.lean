import Shop.Catalog.Request

/-!
# Discounts

A discount lowers prices by a percentage or an amount within a window of time.  One that requires a
code must have one, and one that expires must expire after it starts.
-/

namespace Shop

structure Discount where
  id : Int
  name : String
  discountType : String
  amount : Float
  startsOn : Instant
  expiresOn : Option Instant
  requiresCode : Bool
  code : String
  limitedUse : Bool
  numberOfUses : Int
  loginRequired : Bool
  stamps : Stamps

/-- The request for a discount; it starts now if it does not say when. -/
structure DiscountRequest where
  name : String
  discountType : String
  amount : Float
  startsOn : Option Instant
  expiresOn : Option Instant
  requiresCode : Bool
  code : String
  limitedUse : Bool
  numberOfUses : Int
  loginRequired : Bool

structure DiscountPatch where
  name : Option String
  discountType : Option String
  amount : Option Float
  startsOn : Option Instant
  expiresOn : Option Instant
  requiresCode : Option Bool
  code : Option String
  limitedUse : Option Bool
  numberOfUses : Option Int
  loginRequired : Option Bool

def Discount.toJson (d : Discount) : Json :=
  .object ([("id", .int d.id), ("name", .text d.name), ("discount_type", .text d.discountType),
    ("amount", .float d.amount), ("starts_on", d.startsOn.toJson),
    ("expires_on", .ofOption Instant.toJson d.expiresOn),
    ("requires_code", .bool d.requiresCode), ("code", .text d.code),
    ("limited_use", .bool d.limitedUse), ("number_of_uses", .int d.numberOfUses),
    ("login_required", .bool d.loginRequired)] ++ d.stamps.members)

open Json Json.Record

namespace DiscountRequest

def record : Record DiscountRequest :=
  mk <$> required "name" Reader.text <*> required "discount_type" Reader.text <*>
    required "amount" Reader.float <*> optional "starts_on" Reader.timestamp <*>
    optional "expires_on" Reader.timestamp <*> flagMember "requires_code" <*>
    textMember "code" <*> flagMember "limited_use" <*>
    defaulted "number_of_uses" Reader.int64 0 <*> flagMember "login_required"

def reader : Reader DiscountRequest := record.reader "CreateDiscount"

def problems (r : DiscountRequest) : Problems :=
  .node (Problems.check "name" (Rule.notBlank r.name) ++
    Problems.check "discount_type" (Rule.discountType r.discountType) ++
    Problems.check "amount" (Rule.nonNegative r.amount) ++
    Problems.check "number_of_uses" (Rule.atLeast 0 r.numberOfUses))

/-- The rules that tie members together, at a present time. -/
def checkConsistency (r : DiscountRequest) (now : Instant) : Except Refusal Unit :=
  if r.requiresCode && Text.isBlank r.code then
    .error (.invalid "a discount that requires a code must provide one")
  else match r.expiresOn with
    | none => .ok ()
    | some expiresOn =>
      if (r.startsOn.getD now).before expiresOn then .ok ()
      else .error (.invalid "discount must expire after it starts")

end DiscountRequest

/-- Whether a discount keeps the rules that tie its attributes together. -/
def Discount.Consistent (d : Discount) : Prop :=
  (d.requiresCode = true → Text.isBlank d.code = false) ∧
    ∀ expiresOn, d.expiresOn = some expiresOn → d.startsOn.before expiresOn = true

namespace DiscountPatch

def record : Record DiscountPatch :=
  mk <$> optional "name" Reader.text <*> optional "discount_type" Reader.text <*>
    optional "amount" Reader.float <*> optional "starts_on" Reader.timestamp <*>
    optional "expires_on" Reader.timestamp <*> optional "requires_code" Reader.bool <*>
    optional "code" Reader.text <*> optional "limited_use" Reader.bool <*>
    optional "number_of_uses" Reader.int64 <*> optional "login_required" Reader.bool

def reader : Reader DiscountPatch := record.reader "UpdateDiscount"

/-- The attributes that have rules of their own keep them. -/
def problems (p : DiscountPatch) : Problems :=
  .node (Problems.checkSome "name" Rule.notBlank p.name ++
    Problems.checkSome "discount_type" Rule.discountType p.discountType ++
    Problems.checkSome "amount" Rule.nonNegative p.amount ++
    Problems.checkSome "number_of_uses" (Rule.atLeast 0) p.numberOfUses)

def apply (p : DiscountPatch) (now : Instant) (d : Discount) : Discount :=
  { d with
    name := p.name.getD d.name
    discountType := p.discountType.getD d.discountType
    amount := p.amount.getD d.amount
    startsOn := p.startsOn.getD d.startsOn
    expiresOn := p.expiresOn <|> d.expiresOn
    requiresCode := p.requiresCode.getD d.requiresCode
    code := p.code.getD d.code
    limitedUse := p.limitedUse.getD d.limitedUse
    numberOfUses := p.numberOfUses.getD d.numberOfUses
    loginRequired := p.loginRequired.getD d.loginRequired
    stamps := d.stamps.updated now }

end DiscountPatch
end Shop
