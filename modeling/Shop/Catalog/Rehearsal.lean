import Shop.Catalog.Plan

/-!
# Rehearsals

Running a plan without a store.  Every call that writes draws the next of one sequence of numbers
and is answered with a row of that number; pictures are answered with addresses that show their
sizes.  Every call is noted.  One call of each kind may be told to fail; it draws no number.
-/

namespace Shop

inductive CallKind where
  | createRoot
  | keepImage
  | createImage
  | createOption
  | createValue
  | createProduct
  | linkValues
  | setRootImage
  | setProductImage
  deriving Repr, DecidableEq

def Call.kind : Call → CallKind
  | .createRoot _ => .createRoot
  | .keepImage _ _ _ => .keepImage
  | .createImage _ => .createImage
  | .createOption _ _ => .createOption
  | .createValue _ _ => .createValue
  | .createProduct _ => .createProduct
  | .linkValues _ _ => .linkValues
  | .setRootImage _ _ => .setRootImage
  | .setProductImage _ _ => .setProductImage

/-- A call that was made, and whether it failed. -/
structure Made where
  call : Call
  failed : Bool

namespace Rehearsal

/-- The setting of a rehearsal: the time of its rows, and the failure of a call that is told to
fail.  A call is known by its kind and by how many of its kind came before it. -/
structure Setting where
  now : Instant
  failure? : Call → Nat → Option Failure

/-- The calls made so far, the last first, and the next number. -/
structure State where
  made : List Made
  next : Int

def State.start : State := ⟨[], 1⟩

def State.count (s : State) (kind : CallKind) : Nat :=
  s.made.countP fun m => m.call.kind = kind

/-- The address of a rendition that shows its size. -/
def address (sku : String) (position : Nat) (name : String) (r : Raster) : String :=
  "/img/" ++ sku ++ "/" ++ toString position ++ "/" ++ name ++ "[" ++ toString r.width ++ "," ++
    toString r.height ++ "]"

def locations (sku : String) (position : Nat) (r : Renditions) : Locations :=
  ⟨address sku position "thumbnail" r.thumbnail, address sku position "main" r.main,
    address sku position "original" r.full⟩

def reply (now : Instant) (id : Int) : (c : Call) → c.Reply
  | .createRoot root => root.row now id
  | .keepImage sku position renditions => locations sku position renditions
  | .createImage image => image.row now id
  | .createOption rootId name => ProductOption.new rootId name now id
  | .createValue optionId value => OptionValue.new optionId value now id
  | .createProduct product => product.row now id
  | .linkValues _ _ => ()
  | .setRootImage _ _ => ()
  | .setProductImage _ _ => ()

def draws (c : Call) : Bool := c.kind != .keepImage

def answer (setting : Setting) : Plan.Answerer (StateM State) := fun c => do
  let s ← get
  match setting.failure? c (s.count c.kind) with
  | some failure =>
    set { s with made := ⟨c, true⟩ :: s.made }
    throw failure
  | none =>
    set (⟨⟨c, false⟩ :: s.made, if draws c then s.next + 1 else s.next⟩ : State)
    return reply setting.now s.next c

/-- Run a plan; yields its result and the calls in their order. -/
def run (setting : Setting) (plan : Plan α) : Except Failure α × List Made :=
  let (result, s) := StateT.run (m := Id) (ExceptT.run (plan.run (answer setting))) .start
  (result, s.made.reverse)

end Rehearsal
end Shop
