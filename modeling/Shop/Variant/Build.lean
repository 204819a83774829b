import Shop.Variant.Choice

/-!
# Variants

The products of an option set: each combination of option values becomes a variant with a SKU and a
summary of its own.  A set without options has one variant, the bare root; a set in which an option
has no values has none.
-/

namespace Shop

structure Variant (V : Type) where
  sku : String
  optionSummary : String
  values : List V

namespace Variant

def joinSku (base : String) (fragments : List String) : String :=
  String.intercalate "_" (base :: fragments)

/-- The summaries of the chosen values joined with commas. -/
def joinSummary (summaries : List String) : String :=
  String.intercalate ", " summaries

def ofCombination (base : String) (c : Combination V) : Variant V :=
  ⟨joinSku base c.fragments, joinSummary c.summaries, c.values⟩

/-- An option: its name and its values in order. -/
abbrev Axis (V : Type) := String × List V

/-- All variants of an option set, in lexicographic order of the choices. -/
def build (label : V → String) (base : String) (options : List (Axis V)) :
    Except Refusal (List (Variant V)) := do
  let axes := options.map fun (name, values) => placeholders label name values
  let count ← ensureLimit (axes.map (·.length))
  return ((Walk.start axes).take count).map (ofCombination base)

end Variant
end Shop
