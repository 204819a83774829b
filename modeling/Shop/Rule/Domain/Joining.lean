import Shop.Rule.Domain.DirectionTable
import Shop.Text.Compose
import Shop.Text.Lowercase

/-!
# Joiners in labels

Two characters without width decide whether their neighbours join.  Each may stand behind a mark
that takes away a vowel.  The one that keeps letters apart may also stand between letters that would
join without it.
-/

namespace Shop
namespace Domain

/-- The letters that join what stands before and what stands behind them. -/
def joiningBothSpans : List (Nat × Nat) := Text.readSpans joiningBothText

def joiningNextSpans : List (Nat × Nat) := Text.readSpans joiningNextText

/-- The letters that join what stands before them alone. -/
def joiningLastSpans : List (Nat × Nat) := Text.readSpans joiningLastText

/-- The characters across which letters join. -/
def transparentSpans : List (Nat × Nat) := Text.readSpans transparentText

def nonJoiner : Char := '\u200C'

def joiner : Char := '\u200D'

/-- The class of the marks that take away a vowel. -/
def vowelKillerClass : Nat := 9

/-- Whether the nearest character that letters do not join across has a way of joining. -/
def meets (spans : List (Nat × Nat)) (cs : List Char) : Bool :=
  match cs.dropWhile fun c => Text.inSpans transparentSpans c.toNat with
  | [] => false
  | c :: _ => Text.inSpans joiningBothSpans c.toNat || Text.inSpans spans c.toNat

/-- Whether all joiners of a label stand where they may; `before` holds the characters already
passed, the last first. -/
def joinsWell (before : List Char) : List Char → Bool
  | [] => true
  | c :: rest =>
    let killed := match before with
      | [] => false
      | last :: _ => Text.markClass last.toNat == vowelKillerClass
    let allowed :=
      if c = joiner then killed
      else if c = nonJoiner then
        killed || (meets joiningNextSpans before && meets joiningLastSpans rest)
      else true
    allowed && joinsWell (c :: before) rest

end Domain
end Shop
