import Shop.Catalog.Row
import Shop.Failure
import Shop.Picture.Shelf

/-!
# Plans

The creation of a root is a plan: a tree of calls that write rows or keep pictures, where each call
goes on with its reply.  A plan says nothing about who answers.  The store answers with rows of its
tables, a rehearsal with rows of its own, and both run the same plan.
-/

namespace Shop

inductive Call where
  | createRoot (root : NewRoot)
  | keepImage (sku : String) (position : Nat) (renditions : Renditions)
  | createImage (image : NewImage)
  | createOption (rootId : Int) (name : String)
  | createValue (optionId : Int) (value : String)
  | createProduct (product : NewProduct)
  | linkValues (productId : Int) (valueIds : List Int)
  | setRootImage (rootId imageId : Int)
  | setProductImage (productId imageId : Int)

def Call.Reply : Call → Type
  | .createRoot _ => ProductRoot
  | .keepImage _ _ _ => Locations
  | .createImage _ => ProductImage
  | .createOption _ _ => ProductOption
  | .createValue _ _ => OptionValue
  | .createProduct _ => Product
  | .linkValues _ _ => Unit
  | .setRootImage _ _ => Unit
  | .setProductImage _ _ => Unit

inductive Plan (α : Type) where
  | done (result : α)
  | refused (refusal : Refusal)
  | call (c : Call) (next : c.Reply → Plan α)

namespace Plan

/-- Go on with a second plan where the first is done. -/
protected def bind : Plan α → (α → Plan β) → Plan β
  | .done a, f => f a
  | .refused r, _ => .refused r
  | .call c next, f => .call c fun reply => (next reply).bind f

instance : Monad Plan where
  pure := .done
  bind := Plan.bind

def perform (c : Call) : Plan c.Reply := .call c .done

def ensure : Except Refusal α → Plan α
  | .ok a => .done a
  | .error r => .refused r

abbrev Answerer (m : Type → Type) := (c : Call) → ExceptT Failure m c.Reply

def run {m : Type → Type} [Monad m] (answer : Answerer m) : Plan α → ExceptT Failure m α
  | .done a => return a
  | .refused r => throw (.refused r)
  | .call c next => do
    let reply ← answer c
    (next reply).run answer

end Plan
end Shop
