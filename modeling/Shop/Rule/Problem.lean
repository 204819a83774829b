/-!
# Problems of a request

What the rules find wrong with a request, as a tree that follows the shape of the request: problems
of a member itself, of the record in a member, or of some items of the list in a member.  The tree
is told to the client as one text, the sorted list of all its leaves, so the order in which rules
and members are visited cannot be seen.
-/

namespace Shop

structure Problem where
  code : String
  message : Option String
  deriving Repr, DecidableEq

/-- What a problem says: its message, or its code where it has none. -/
def Problem.text (p : Problem) : String :=
  p.message.getD p.code

mutual

/-- The problems of a record, by member. -/
inductive Problems where
  | node (entries : List (String × Finding))

/-- The problems found under one member. -/
inductive Finding where
  | own (problems : List Problem)
  | inner (problems : Problems)
  | items (problems : List (Nat × Problems))

end

namespace Problems

def entries : Problems → List (String × Finding)
  | .node entries => entries

def isEmpty (p : Problems) : Bool := p.entries.isEmpty

def memberPath (path name : String) : String :=
  if path.isEmpty then name else path ++ "." ++ name

def itemPath (path : String) (position : Nat) : String :=
  path ++ "[" ++ toString position ++ "]"

mutual

/-- The leaves of a tree at `path`, each as `path: message`. -/
def leaves (path : String) : Problems → List String
  | .node entries => entryLeaves path entries

/-- The leaves under the members of a record. -/
def entryLeaves (path : String) : List (String × Finding) → List String
  | [] => []
  | (name, finding) :: rest =>
    findingLeaves (memberPath path name) finding ++ entryLeaves path rest

def findingLeaves (path : String) : Finding → List String
  | .own problems => problems.map fun p => path ++ ": " ++ p.text
  | .inner problems => leaves path problems
  | .items items => itemLeaves path items

def itemLeaves (path : String) : List (Nat × Problems) → List String
  | [] => []
  | (position, problems) :: rest =>
    leaves (itemPath path position) problems ++ itemLeaves path rest

end

/-- All problems in one text: the leaves in order, separated by semicolons. -/
def describe (p : Problems) : String :=
  String.intercalate "; " ((p.leaves "").mergeSort fun a b => decide (a ≤ b))

/-- The finding of one rule about a member. -/
def check (name : String) : Option Problem → List (String × Finding)
  | none => []
  | some problem => [(name, .own [problem])]

/-- The finding of a rule about a member that may be absent. -/
def checkSome (name : String) (rule : α → Option Problem) (value : Option α) :
    List (String × Finding) :=
  check name (value.bind rule)

def checkItems (name : String) (rules : α → Problems) (items : List α) :
    List (String × Finding) :=
  match (items.zipIdx.filterMap fun (item, i) =>
    let problems := rules item
    if problems.isEmpty then none else some (i, problems)) with
  | [] => []
  | found => [(name, .items found)]

end Problems
end Shop
