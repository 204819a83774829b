import Shop.Rule.Problem

/-!
# What is told of the problems of a request

The tree of problems is walked with the path in words so far, and every leaf becomes a line.  Here
the path is kept as the steps that lead to a leaf and put into words at the end, so that the lines
can be compared with the leaves one for one.  Since the lines are sorted, it cannot be seen in which
order the tree was walked.
-/

namespace Shop
namespace Problems

/-- A step down the tree: to a member of a record, or to an item of a list. -/
inductive Step where
  | member (name : String)
  | item (position : Nat)
  deriving Repr, DecidableEq

/-- A problem, and the steps that lead to it. -/
structure Leaf where
  steps : List Step
  problem : Problem
  deriving Repr, DecidableEq

/-- A leaf as it is seen from one step above. -/
def Leaf.under (step : Step) (leaf : Leaf) : Leaf := { leaf with steps := step :: leaf.steps }

mutual

/-- All problems of a record with their steps, each as often as it was found. -/
def located : Problems → List Leaf
  | .node entries => locatedEntries entries

def locatedEntries : List (String × Finding) → List Leaf
  | [] => []
  | (name, finding) :: rest =>
    (locatedFinding finding).map (.under (.member name)) ++ locatedEntries rest

def locatedFinding : Finding → List Leaf
  | .own problems => problems.map (.mk [])
  | .inner problems => located problems
  | .items items => locatedItems items

def locatedItems : List (Nat × Problems) → List Leaf
  | [] => []
  | (position, problems) :: rest =>
    (located problems).map (.under (.item position)) ++ locatedItems rest

end

def Step.text : Step → String
  | .member name => "." ++ name
  | .item position => "[" ++ toString position ++ "]"

/-- Further steps in words, behind those that were taken before. -/
def further (steps : List Step) : String := String.join (steps.map Step.text)

/-- A path in words: members are joined by dots, and positions stand in brackets. -/
def pathText : List Step → String
  | .member name :: steps => name ++ further steps
  | steps => further steps

/-- A leaf in words, `path: message`, or with its code if it has no message. -/
def Leaf.line (leaf : Leaf) : String := pathText leaf.steps ++ ": " ++ leaf.problem.text

/-- A leaf in words, where the way to the root of its tree is in words already. -/
def Leaf.lineBehind (path : String) (leaf : Leaf) : String :=
  path ++ further leaf.steps ++ ": " ++ leaf.problem.text

theorem lineBehind_under (path : String) (step : Step) (leaf : Leaf) :
    (leaf.under step).lineBehind path = leaf.lineBehind (path ++ step.text) := by
  simp only [Leaf.lineBehind, Leaf.under, further, List.map_cons, String.join_cons,
    String.append_assoc]

/-! ## Lines and leaves -/

/-- No dot is missing behind a path that is not empty. -/
theorem memberPath_eq {path : String} (named : path ≠ "") (name : String) :
    memberPath path name = path ++ (Step.member name).text := by
  have filled : ¬ path.isEmpty = true := fun empty => named (String.isEmpty_iff.mp empty)
  rw [memberPath, if_neg filled, Step.text, String.append_assoc]

theorem itemPath_eq (path : String) (position : Nat) :
    itemPath path position = path ++ (Step.item position).text := by
  simp only [itemPath, Step.text, String.append_assoc]

theorem extended_ne {path : String} (named : path ≠ "") (text : String) : path ++ text ≠ "" :=
  fun empty => named (String.append_eq_empty_iff.mp empty).1

mutual

/-- Behind a path that is not empty, a tree has one line for each of its leaves. -/
theorem leaves_eq {path : String} (named : path ≠ "") :
    ∀ problems : Problems, leaves path problems = problems.located.map (Leaf.lineBehind path)
  | .node entries => entryLeaves_eq named entries

theorem entryLeaves_eq {path : String} (named : path ≠ "") :
    ∀ entries : List (String × Finding),
      entryLeaves path entries = (locatedEntries entries).map (Leaf.lineBehind path)
  | [] => rfl
  | (name, finding) :: rest => by
    have first := findingLeaves_eq (extended_ne named (Step.member name).text) finding
    rw [entryLeaves, locatedEntries, List.map_append, List.map_map, entryLeaves_eq named rest,
      memberPath_eq named, first]
    exact congrArg (· ++ _) (List.map_congr_left fun leaf _ => (lineBehind_under path _ leaf).symm)

theorem findingLeaves_eq {path : String} (named : path ≠ "") :
    ∀ finding : Finding,
      findingLeaves path finding = (locatedFinding finding).map (Leaf.lineBehind path)
  | .own problems => by
    rw [findingLeaves, locatedFinding, List.map_map]
    refine List.map_congr_left fun problem _ => ?_
    simp [Leaf.lineBehind, further]
  | .inner problems => leaves_eq named problems
  | .items items => itemLeaves_eq named items

theorem itemLeaves_eq {path : String} (named : path ≠ "") :
    ∀ items : List (Nat × Problems),
      itemLeaves path items = (locatedItems items).map (Leaf.lineBehind path)
  | [] => rfl
  | (position, problems) :: rest => by
    have first := leaves_eq (extended_ne named (Step.item position).text) problems
    rw [itemLeaves, locatedItems, List.map_append, List.map_map, itemLeaves_eq named rest,
      itemPath_eq, first]
    exact congrArg (· ++ _) (List.map_congr_left fun leaf _ => (lineBehind_under path _ leaf).symm)

end

/-- Where no member of the outermost record is nameless, there is one line for each leaf. -/
theorem leaves_root (problems : Problems) (named : ∀ entry ∈ problems.entries, entry.1 ≠ "") :
    leaves "" problems = problems.located.map Leaf.line := by
  rcases problems with ⟨entries⟩
  change entryLeaves "" entries = (locatedEntries entries).map Leaf.line
  change ∀ entry ∈ entries, entry.1 ≠ "" at named
  induction entries with
  | nil => rfl
  | cons entry rest inductionHypothesis =>
    rcases entry with ⟨name, finding⟩
    rcases List.forall_mem_cons.mp named with ⟨first, others⟩
    have outermost : memberPath "" name = name := rfl
    rw [entryLeaves, locatedEntries, List.map_append, List.map_map, inductionHypothesis others,
      outermost, findingLeaves_eq first]
    rfl

/-- Behind a nameless member a dot would be missing. -/
example :
    let problems : Problems := .node [("", .inner (.node [("cost", .own [⟨"range", none⟩])]))]
    problems.leaves "" = ["cost: range"] ∧
      problems.located.map Leaf.line = [".cost: range"] := by decide

/-! ## Trees that differ in their order -/

mutual

/-- Two trees with the same problems at the same places, whose records, lists and members may tell
them in another order. -/
inductive Reordered : Problems → Problems → Prop
  | node {entries matching others : List (String × Finding)}
    (matched : EntriesReordered entries matching) (order : matching.Perm others) :
    Reordered (.node entries) (.node others)

inductive EntriesReordered : List (String × Finding) → List (String × Finding) → Prop
  | nil : EntriesReordered [] []
  | cons {name : String} {finding other : Finding} {rest others : List (String × Finding)}
    (first : FindingReordered finding other) (more : EntriesReordered rest others) :
    EntriesReordered ((name, finding) :: rest) ((name, other) :: others)

inductive FindingReordered : Finding → Finding → Prop
  | own {problems others : List Problem} (order : problems.Perm others) :
    FindingReordered (.own problems) (.own others)
  | inner {problems others : Problems} (same : Reordered problems others) :
    FindingReordered (.inner problems) (.inner others)
  | items {items matching others : List (Nat × Problems)} (matched : ItemsReordered items matching)
    (order : matching.Perm others) : FindingReordered (.items items) (.items others)

inductive ItemsReordered : List (Nat × Problems) → List (Nat × Problems) → Prop
  | nil : ItemsReordered [] []
  | cons {position : Nat} {problems other : Problems} {rest others : List (Nat × Problems)}
    (first : Reordered problems other) (more : ItemsReordered rest others) :
    ItemsReordered ((position, problems) :: rest) ((position, other) :: others)

end

mutual

theorem Reordered.refl : ∀ problems : Problems, Reordered problems problems
  | .node entries => .node (.refl entries) (.refl entries)

theorem EntriesReordered.refl :
    ∀ entries : List (String × Finding), EntriesReordered entries entries
  | [] => .nil
  | (_, finding) :: rest => .cons (.refl finding) (.refl rest)

theorem FindingReordered.refl : ∀ finding : Finding, FindingReordered finding finding
  | .own problems => .own (.refl problems)
  | .inner problems => .inner (.refl problems)
  | .items items => .items (.refl items) (.refl items)

theorem ItemsReordered.refl : ∀ items : List (Nat × Problems), ItemsReordered items items
  | [] => .nil
  | (_, problems) :: rest => .cons (.refl problems) (.refl rest)

end

theorem entryLeaves_eq_flatMap (path : String) (entries : List (String × Finding)) :
    entryLeaves path entries =
      entries.flatMap fun entry => findingLeaves (memberPath path entry.1) entry.2 := by
  induction entries with
  | nil => rfl
  | cons entry rest inductionHypothesis =>
    rw [entryLeaves, inductionHypothesis, List.flatMap_cons]

theorem itemLeaves_eq_flatMap (path : String) (items : List (Nat × Problems)) :
    itemLeaves path items = items.flatMap fun item => leaves (itemPath path item.1) item.2 := by
  induction items with
  | nil => rfl
  | cons item rest inductionHypothesis =>
    rw [itemLeaves, inductionHypothesis, List.flatMap_cons]

mutual

/-- Trees that differ in their order have the same lines. -/
theorem Reordered.leaves_perm {problems others : Problems} (same : Reordered problems others)
    (path : String) : (leaves path problems).Perm (leaves path others) := by
  cases same with
  | @node entries matching others matched order =>
    change (entryLeaves path entries).Perm (entryLeaves path others)
    refine (matched.leaves_perm path).trans ?_
    rw [entryLeaves_eq_flatMap, entryLeaves_eq_flatMap]
    exact order.flatMap_right _

theorem EntriesReordered.leaves_perm {entries others : List (String × Finding)}
    (same : EntriesReordered entries others) (path : String) :
    (entryLeaves path entries).Perm (entryLeaves path others) := by
  cases same with
  | nil => exact .refl _
  | cons first more => exact (first.leaves_perm _).append (more.leaves_perm path)

theorem FindingReordered.leaves_perm {finding other : Finding}
    (same : FindingReordered finding other) (path : String) :
    (findingLeaves path finding).Perm (findingLeaves path other) := by
  cases same with
  | own order => exact order.map _
  | inner same => exact same.leaves_perm path
  | @items items matching others matched order =>
    change (itemLeaves path items).Perm (itemLeaves path others)
    refine (matched.leaves_perm path).trans ?_
    rw [itemLeaves_eq_flatMap, itemLeaves_eq_flatMap]
    exact order.flatMap_right _

theorem ItemsReordered.leaves_perm {items others : List (Nat × Problems)}
    (same : ItemsReordered items others) (path : String) :
    (itemLeaves path items).Perm (itemLeaves path others) := by
  cases same with
  | nil => exact .refl _
  | cons first more => exact (first.leaves_perm _).append (more.leaves_perm path)

end

/-! ## The text -/

/-- The lines of a text in their order. -/
def sortedLines (lines : List String) : List String :=
  lines.mergeSort fun a b => decide (a ≤ b)

theorem sortedLines_pairwise (lines : List String) : (sortedLines lines).Pairwise (· ≤ ·) := by
  have sorted := @List.pairwise_mergeSort String (fun a b => decide (a ≤ b))
    (fun a b c first second => decide_eq_true
      (String.le_trans (of_decide_eq_true first) (of_decide_eq_true second)))
    (fun a b => by simpa using String.le_total a b) lines
  exact sorted.imp of_decide_eq_true

theorem sortedLines_perm (lines : List String) : (sortedLines lines).Perm lines :=
  List.mergeSort_perm lines _

/-- Lines have one order only. -/
theorem sortedLines_eq_of_perm {lines others : List String} (same : lines.Perm others) :
    sortedLines lines = sortedLines others := by
  refine List.Perm.eq_of_pairwise (fun a b _ _ => String.le_antisymm) (sortedLines_pairwise lines)
    (sortedLines_pairwise others) ?_
  exact (sortedLines_perm lines).trans (same.trans (sortedLines_perm others).symm)

theorem describe_eq (problems : Problems) :
    problems.describe = String.intercalate "; " (sortedLines (problems.leaves "")) := rfl

/-- The text of a tree joins one line for each of its leaves, in their order: no leaf is lost and
none is told twice, and each is told with the members and positions on its path and with its message
or else its code.  So a tree that is told in another order has the same text.  The members of the
outermost record have names, since a dot would be missing behind an empty one. -/
theorem describe_lines (problems : Problems) (named : ∀ entry ∈ problems.entries, entry.1 ≠ "") :
    (∃ lines : List String, problems.describe = String.intercalate "; " lines ∧
      lines.Pairwise (· ≤ ·) ∧ lines.Perm (problems.located.map Leaf.line)) ∧
    ∀ others, Reordered problems others → others.describe = problems.describe := by
  constructor
  · refine ⟨sortedLines (problems.leaves ""), rfl, sortedLines_pairwise _, ?_⟩
    rw [← leaves_root problems named]
    exact sortedLines_perm _
  · intro others same
    rw [describe_eq, describe_eq, sortedLines_eq_of_perm (same.leaves_perm "")]

/-- The problems of a request with two bad numbers and a nameless option, told in two orders. -/
theorem describe_lines_offer :
    let blank : Finding := .own [⟨"blank", some "must not be blank"⟩]
    let offer : Finding := .inner (.node [("cost", .own [⟨"range", none⟩, ⟨"range", none⟩])])
    let options : Finding := .items [(1, .node [("name", blank)])]
    let problems : Problems := .node [("options", options), ("offer", offer), ("name", blank)]
    let others : Problems := .node [("name", blank), ("offer", offer), ("options", options)]
    (∀ entry ∈ problems.entries, entry.1 ≠ "") ∧ Reordered problems others ∧
      (∃ lines : List String, problems.describe = String.intercalate "; " lines ∧
        lines.Pairwise (· ≤ ·) ∧
        lines.Perm ["options[1].name: must not be blank", "offer.cost: range", "offer.cost: range",
          "name: must not be blank"]) ∧
      others.describe = problems.describe := by
  intro blank offer options problems others
  have named : ∀ entry ∈ problems.entries, entry.1 ≠ "" := by decide
  have same : Reordered problems others := by
    exact .node (.refl _) (List.reverse_perm _).symm
  rcases describe_lines problems named with ⟨lines, unseen⟩
  exact ⟨named, same, lines, unseen others same⟩

end Problems
end Shop
