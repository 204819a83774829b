import Mathlib.Data.List.TakeWhile
import Shop.Http.Files
import Shop.Proofs.Http.Addresses
import Shop.Proofs.Text.Splitting
import Shop.Rule.Rules

/-!
# The files of renditions

A rendition is kept under names: the SKU of its root, the position of its picture, and the name of
its file.  None of them holds a slash or a sign that addresses replace, so the names are read back
from the path that is written and from the address that is served.  Keeping a picture writes the
three files of its own names and spares those of all others.
-/

namespace Shop
namespace Shelf

/-! ## Plain names -/

/-- A name that stands for itself in paths and in addresses. -/
def Plain (name : String) : Prop :=
  name ∉ ["", ".", ".."] ∧ ∀ c ∈ name.toList, c ∉ ['/', '%', '\x00']

theorem plain_of_undotted {name : String} (some : name ≠ "")
    (free : ∀ c ∈ name.toList, c ∉ ['.', '/', '%', '\x00']) : Plain name := by
  refine ⟨fun dotted => ?_, fun c member inside => free c member (List.mem_cons_of_mem _ inside)⟩
  rcases List.mem_cons.mp dotted with empty | dots
  · exact some empty
  · have dot : '.' ∈ name.toList := by
      rcases List.mem_pair.mp dots with rfl | rfl <;> decide
    exact free '.' dot List.mem_cons_self

theorem plain_sku {sku : String} (restricted : Rule.isSku sku = true) : Plain sku := by
  simp only [Rule.isSku, Bool.and_eq_true, decide_eq_true_eq, List.all_eq_true] at restricted
  rcases restricted with ⟨⟨long, _⟩, signs⟩
  refine plain_of_undotted ?_ fun c member inside => ?_
  · rintro rfl
    exact absurd long (by decide)
  · have sign := signs c member
    simp only [List.mem_cons, List.not_mem_nil, or_false] at inside
    rcases inside with rfl | rfl | rfl | rfl <;> exact absurd sign (by decide)

theorem toList_toString (n : Nat) : (toString n).toList = Nat.toDigits 10 n := Nat.toList_repr

theorem plain_toString (n : Nat) : Plain (toString n) := by
  refine plain_of_undotted (fun empty => ?_) fun c member inside => ?_
  · have digits := congrArg String.toList empty
    rw [toList_toString] at digits
    exact Nat.toDigits_ne_nil digits
  · rw [toList_toString] at member
    have digit := Nat.isDigit_of_mem_toDigits (by decide) (by decide) member
    simp only [List.mem_cons, List.not_mem_nil, or_false] at inside
    rcases inside with rfl | rfl | rfl | rfl <;> exact absurd digit (by decide)

theorem toString_injective {m n : Nat} (same : toString m = toString n) : m = n := by
  have digits := congrArg String.toList same
  rw [toList_toString, toList_toString] at digits
  rw [← Nat.ofDigitChars_toDigits (b := 10) (n := m) (by decide) (by decide), digits,
    Nat.ofDigitChars_toDigits (by decide) (by decide)]

/-! ## Names of renditions -/

/-- The names that lead to a file of a picture. -/
def names (sku : String) (position : Nat) (file : String) : List String :=
  [sku, toString position, file]

theorem path_eq (sku : String) (position : Nat) (file : String) :
    path sku position file = String.intercalate "/" (names sku position file) := rfl

theorem names_inj {sku sku' : String} {position position' : Nat} {file file' : String}
    (same : names sku position file = names sku' position' file') :
    sku = sku' ∧ position = position' ∧ file = file' := by
  rcases List.cons.inj same with ⟨skus, rest⟩
  rcases List.cons.inj rest with ⟨positions, rest⟩
  exact ⟨skus, toString_injective positions, (List.cons.inj rest).1⟩

/-- The names of the files that a picture is kept in. -/
def fileNames : List String := [thumbnailFile, mainFile, fullFile]

theorem plain_fileNames : ∀ file ∈ fileNames, Plain file := by
  have named : ∀ file ∈ fileNames, file ∉ ["", ".", ".."] := by decide
  have free : ∀ file ∈ fileNames, file.toList.all (fun c => c ∉ ['/', '%', '\x00']) = true := by
    decide
  exact fun file member => ⟨named file member, fun c inside =>
    of_decide_eq_true (List.all_eq_true.mp (free file member) c inside)⟩

theorem plain_names {sku : String} (restricted : Rule.isSku sku = true) (position : Nat)
    {file : String} (member : file ∈ fileNames) : ∀ name ∈ names sku position file, Plain name := by
  intro name inside
  simp only [names, List.mem_cons, List.not_mem_nil, or_false] at inside
  rcases inside with rfl | rfl | rfl
  · exact plain_sku restricted
  · exact plain_toString position
  · exact plain_fileNames _ member

/-! ## Paths of plain names -/

section

variable {name : String} {rest : List String}

/-- Plain names are read back from the path that they make. -/
theorem splitOn_plain (plain : ∀ part ∈ name :: rest, Plain part) :
    (String.intercalate "/" (name :: rest)).splitOn "/" = name :: rest :=
  Text.splitOn_intercalate '/' (List.cons_ne_nil _ _) fun part member slash =>
    (plain part member).2 '/' slash List.mem_cons_self

theorem pathNames_plain (plain : ∀ part ∈ name :: rest, Plain part) :
    pathNames (String.intercalate "/" (name :: rest)) = name :: rest :=
  (Text.splitOn_slash _).symm.trans (splitOn_plain plain)

/-- Such a path does not begin with a slash. -/
theorem head?_plain (plain : Plain name) :
    (String.intercalate "/" (name :: rest)).toList.head? ≠ some '/' := by
  have named : name.toList ≠ [] := fun empty =>
    plain.1 (String.toList_eq_nil_iff.mp empty ▸ List.mem_cons_self)
  rcases List.exists_cons_of_ne_nil named with ⟨c, cs, chars⟩
  have first : (String.intercalate "/" (name :: rest)).toList.head? = some c := by
    cases rest with
    | nil => rw [String.intercalate_singleton, chars, List.head?_cons]
    | cons other rest =>
      rw [String.intercalate_cons_cons, String.toList_append, String.toList_append, chars]
      rfl
  rw [first]
  rintro ⟨⟩
  exact plain.2 '/' (chars ▸ List.mem_cons_self) List.mem_cons_self

/-- Such a path holds no sign that addresses replace, and none that no name may hold. -/
theorem not_mem_plain (plain : ∀ part ∈ rest, Plain part) :
    ∀ c ∈ (String.intercalate "/" rest).toList, c ∉ ['%', '\x00'] :=
  Text.forall_mem_intercalate (c := '/') (by decide) fun part member c inside sign =>
    (plain part member).2 c inside (List.mem_cons_of_mem _ sign)

end

/-! ## Making folders -/

variable {s s' : Shelf}

/-- Following plain names leads down by them, if all of them can be followed. -/
theorem makeFolders_ok {parts base : List String} {place : Place}
    (plain : ∀ part ∈ parts, Plain part)
    (made : s.makeFolders (.inside base) parts = (.ok place, s')) :
    place = .inside (base ++ parts) := by
  induction parts generalizing s base with
  | nil =>
    cases made
    exact congrArg Place.inside (List.append_nil base).symm
  | cons part parts inductionHypothesis =>
    rcases List.forall_mem_cons.mp plain with ⟨⟨first, _⟩, later⟩
    simp only [List.mem_cons, List.not_mem_nil, or_false, not_or] at first
    rw [makeFolders, if_neg (by simp [first]), if_neg first.2.2] at made
    split at made
    · cases made
    · split at made
      · cases made
      · rw [inductionHypothesis later made, List.append_assoc, List.singleton_append]

/-- Making folders writes no file, even where it fails. -/
theorem makeFolders_files (s : Shelf) (place : Place) (parts : List String) :
    (s.makeFolders place parts).2.files = s.files := by
  induction parts generalizing s place with
  | nil => rfl
  | cons part parts inductionHypothesis =>
    have files (names : List String) : (s.withFolder names).files = s.files := by
      unfold withFolder
      split <;> rfl
    rw [makeFolders.eq_def]
    dsimp only
    split
    · exact inductionHypothesis s place
    · split
      · exact inductionHypothesis s place.parent
      · split
        · rfl
        · split
          · exact inductionHypothesis s .outside
          · split
            · rfl
            · exact (inductionHypothesis _ _).trans (files _)

theorem makePath_ok {name : String} {rest : List String} {place : Place}
    (plain : ∀ part ∈ name :: rest, Plain part)
    (made : s.makePath (String.intercalate "/" (name :: rest)) = (.ok place, s')) :
    place = .inside (name :: rest) := by
  have relative : ((String.intercalate "/" (name :: rest)).toList.head? == some '/') = false :=
    beq_eq_false_iff_ne.mpr (head?_plain (plain name List.mem_cons_self))
  simp only [makePath, relative, pathNames_plain plain, Bool.false_eq_true, if_false] at made
  split at made
  · cases made
  · split at made
    · cases made
    · split at made
      · cases made
      · exact makeFolders_ok plain made

theorem makePath_files (s : Shelf) (path : String) : (s.makePath path).2.files = s.files := by
  unfold makePath
  dsimp only
  generalize path.utf8ByteSize + _ = bytes
  split
  · rfl
  · split
    · rfl
    · split
      · exact makeFolders_files s _ _
      · split
        · rfl
        · exact makeFolders_files s _ _

/-! ## Writing files -/

theorem lookup_filter_ne {names place : List String} (different : names ≠ place)
    (files : List (List String × Raster)) :
    (files.filter (fun f => f.1 != place)).lookup names = files.lookup names := by
  induction files with
  | nil => rfl
  | cons file files inductionHypothesis =>
    rw [List.filter_cons, List.lookup_cons]
    split
    · rw [List.lookup_cons, inductionHypothesis]
    · rename_i same
      have other : (names == file.1) = false := by
        rw [show file.1 = place by simpa using same]
        exact beq_eq_false_iff_ne.mpr different
      rw [other, inductionHypothesis]

/-- A file that was written holds what was written, and every other file what it held. -/
theorem write_ok {folder : List String} {name : String} {r : Raster}
    (written : s.write (.inside folder) name r = .ok s') (names : List String) :
    s'.file? names = if names = folder ++ [name] then some r else s.file? names := by
  unfold write at written
  dsimp only at written
  split at written
  · cases written
  · cases written
    unfold file?
    rw [List.lookup_append]
    split
    · rename_i same
      rw [same, List.lookup_eq_none_iff.mpr, List.lookup_cons, beq_self_eq_true]
      · rfl
      · intro file member
        rw [bne_comm]
        exact (List.mem_filter.mp member).2
    · rename_i different
      rw [lookup_filter_ne different, List.lookup_cons, beq_eq_false_iff_ne.mpr different]
      exact Option.or_none

/-- Files that were written into a folder hold what was written, the last of one name counting. -/
theorem writeAll_ok {folder : List String} {files : List (String × Raster)}
    (written : s.writeAll (.inside folder) files = (.ok (), s')) (name : String) :
    s'.file? (folder ++ [name]) =
      (files.reverse.lookup name).or (s.file? (folder ++ [name])) := by
  induction files generalizing s with
  | nil =>
    cases written
    rfl
  | cons file files inductionHypothesis =>
    rw [writeAll] at written
    split at written
    · cases written
    · rename_i middle first
      rw [inductionHypothesis written, write_ok first, List.reverse_cons, List.lookup_append,
        Option.or_assoc, List.lookup_cons]
      by_cases same : name = file.1
      · rw [beq_iff_eq.mpr same, if_pos (congrArg (folder ++ [·]) same)]
        rfl
      · have other : folder ++ [name] ≠ folder ++ [file.1] := fun both =>
          same (List.cons.inj (List.append_cancel_left both)).1
        rw [beq_eq_false_iff_ne.mpr same, if_neg other]
        rfl

/-- Writing files spares all files that have other names, even where it fails. -/
theorem file?_writeAll {folder names : List String} {files : List (String × Raster)}
    (elsewhere : ∀ file ∈ files, names ≠ folder ++ [file.1]) :
    (s.writeAll (.inside folder) files).2.file? names = s.file? names := by
  induction files generalizing s with
  | nil => rfl
  | cons file files inductionHypothesis =>
    rcases List.forall_mem_cons.mp elsewhere with ⟨first, later⟩
    rw [writeAll]
    split
    · rfl
    · rename_i middle written
      rw [inductionHypothesis later, write_ok written, if_neg first]

/-! ## Keeping pictures -/

/-- Whether the files of a picture hold some renditions. -/
structure Holds (s : Shelf) (sku : String) (position : Nat) (r : Renditions) : Prop where
  thumbnail : s.file? (names sku position thumbnailFile) = some r.thumbnail
  main : s.file? (names sku position mainFile) = some r.main
  full : s.file? (names sku position fullFile) = some r.full

/-- Whether all files of pictures hold in the end what they held, but for those of some pictures. -/
def Spares (touched : String → Nat → Prop) (s s' : Shelf) : Prop :=
  ∀ sku position, ¬ touched sku position →
    ∀ file, s'.file? (names sku position file) = s.file? (names sku position file)

namespace Spares

variable {touched more : String → Nat → Prop} {s'' : Shelf}

theorem refl (s : Shelf) : s.Spares touched s := fun _ _ _ _ => rfl

theorem trans (first : s.Spares touched s') (second : s'.Spares touched s'') :
    s.Spares touched s'' := fun sku position untouched file =>
  (second sku position untouched file).trans (first sku position untouched file)

theorem mono (spares : s.Spares touched s')
    (wider : ∀ sku position, touched sku position → more sku position) : s.Spares more s' :=
  fun sku position untouched => spares sku position (mt (wider sku position) untouched)

theorem holds (spares : s.Spares touched s') {sku : String} {position : Nat}
    (untouched : ¬ touched sku position) {r : Renditions} (before : s.Holds sku position r) :
    s'.Holds sku position r where
  thumbnail := (spares sku position untouched _).trans before.thumbnail
  main := (spares sku position untouched _).trans before.main
  full := (spares sku position untouched _).trans before.full

end Spares

section

variable {sku : String} {position : Nat}

theorem plain_folder (restricted : Rule.isSku sku = true) (position : Nat) :
    ∀ part ∈ [sku, toString position], Plain part :=
  List.forall_mem_cons.mpr ⟨plain_sku restricted, List.forall_mem_singleton.mpr
    (plain_toString position)⟩

/-- Folders that are made spare all files. -/
theorem spares_makePath (touched : String → Nat → Prop) (s : Shelf) (path : String) :
    s.Spares touched (s.makePath path).2 :=
  fun other n _ file => congrArg (List.lookup (names other n file)) (makePath_files s path)

/-- What is written into the folder of a picture spares the files of all others. -/
theorem spares_writeAll (s : Shelf) (files : List (String × Raster)) :
    s.Spares (fun other n => other = sku ∧ n = position)
      (s.writeAll (.inside [sku, toString position]) files).2 := by
  refine fun other n untouched file => file?_writeAll fun written _ same => untouched ?_
  have own : names other n file = names sku position written.1 := same
  exact ⟨(names_inj own).1, (names_inj own).2.1⟩

/-- Keeping a picture for a SKU writes its own files only, whether it is kept or not. -/
theorem spares_keep (restricted : Rule.isSku sku = true) (s : Shelf) (addresses : String)
    (r : Renditions) : s.Spares (fun other n => other = sku ∧ n = position)
      (s.keep addresses sku position r).2 := by
  have opening := spares_makePath (fun other n => other = sku ∧ n = position) s
    (folder sku position)
  unfold keep
  rcases made : s.makePath (folder sku position) with ⟨fault | place, opened⟩
  · rwa [made] at opening
  · rw [made] at opening
    rcases makePath_ok (plain_folder restricted position) made with rfl
    dsimp only
    split
    · exact opening
    · have written := opening.trans (spares_writeAll opened (filesOf r))
      split
      all_goals
        rename_i ended
        rwa [ended] at written

/-- So does keeping a part of it. -/
theorem spares_keepPart (restricted : Rule.isSku sku = true) (s : Shelf) (r : Renditions)
    (steps : Nat) : s.Spares (fun other n => other = sku ∧ n = position)
      (s.keepPart sku position r steps) := by
  have opening := spares_makePath (fun other n => other = sku ∧ n = position) s
    (folder sku position)
  cases steps with
  | zero => exact .refl s
  | succ files =>
    unfold keepPart
    rcases made : s.makePath (folder sku position) with ⟨fault | place, opened⟩
    · rwa [made] at opening
    · rw [made] at opening
      rcases makePath_ok (plain_folder restricted position) made with rfl
      exact opening.trans (spares_writeAll opened _)

/-- A picture that was kept for a SKU is in its own files. -/
theorem keep_ok {addresses : String} {r : Renditions} {found : Locations}
    (restricted : Rule.isSku sku = true)
    (kept : s.keep addresses sku position r = (.ok found, s')) :
    found = locations addresses sku position ∧ s'.Holds sku position r := by
  unfold keep at kept
  split at kept
  · cases kept
  rename_i place opened made
  rcases makePath_ok (plain_folder restricted position) made with rfl
  split at kept
  · cases kept
  split at kept
  · cases kept
  rename_i ended written
  cases kept
  have holds := writeAll_ok written
  exact ⟨rfl, ⟨holds thumbnailFile, holds mainFile, holds fullFile⟩⟩

end

end Shelf

/-! ## Addresses -/

namespace Http

/-- The names of the file that an address leads to, if it leads to one. -/
def namesAt? (address : String) : Option (List String) := (filePath? address).bind fileNames?

/-- The picture in the file that an address leads to, where there is one. -/
def pictureAt? (shelf : Shelf) (address : String) : Option Raster :=
  (namesAt? address).bind shelf.file?

/-- A path of plain names, behind a slash, gives these names. -/
theorem fileNames?_plain {name : String} {rest : List String}
    (plain : ∀ part ∈ name :: rest, Shelf.Plain part) :
    fileNames? ("/" ++ String.intercalate "/" (name :: rest)) = some (name :: rest) := by
  have relative : (String.intercalate "/" (name :: rest)).toList.head? ≠ some '/' :=
    Shelf.head?_plain (plain name List.mem_cons_self)
  have free := Shelf.not_mem_plain plain
  have parts := Shelf.splitOn_plain plain
  generalize String.intercalate "/" (name :: rest) = path at relative free parts ⊢
  have climbed : path.toList.dropWhile (· == '/') = path.toList := by
    refine List.dropWhile_eq_self_iff.mpr fun filled slash => relative ?_
    rw [List.head?_eq_getElem?, List.getElem?_eq_getElem filled, beq_iff_eq.mp slash]
  have unslashed : String.ofList (("/" ++ path).toList.dropWhile (· == '/')) = path := by
    rw [String.toList_append]
    change String.ofList (path.toList.dropWhile (· == '/')) = path
    rw [climbed, String.ofList_toList]
  have kept : (name :: rest).filter (fun part => part != "" && part != ".") = name :: rest := by
    refine List.filter_eq_self.mpr fun part member => ?_
    have named := (plain part member).1
    simp only [List.mem_cons, not_or] at named
    simp [named]
  have percent : '%' ∉ path.toList := fun member => free '%' member List.mem_cons_self
  rw [fileNames?, unslashed, unescape?_plain percent]
  change (if _ then none else some _) = _
  rw [parts, kept, if_neg]
  rw [not_or, not_or]
  refine ⟨relative, fun down => ?_, fun zero => ?_⟩
  · exact (plain ".." (List.contains_iff_mem.mp down)).1 (by decide)
  · exact free '\x00' (List.contains_iff_mem.mp zero) (by decide)

theorem filePath?_below (path : String) :
    filePath? (Action.pictureAddresses ++ "/" ++ path) = some ("/" ++ path) := by
  have chars : (Action.pictureAddresses ++ "/" ++ path).toList =
      Action.pictureAddresses.toList ++ '/' :: path.toList := by
    simp
  unfold filePath?
  rw [chars]
  dsimp only
  rw [if_pos (List.isPrefixOf_iff_prefix.mpr (List.prefix_append _ _)), List.drop_left]
  simp

/-- The address of a file of a picture. -/
def address (sku : String) (position : Nat) (file : String) : String :=
  Shelf.trimPrefix Action.pictureAddresses ++ "/" ++ Shelf.path sku position file

/-- The address of a rendition leads to its file. -/
theorem namesAt?_address {sku : String} (restricted : Rule.isSku sku = true) (position : Nat)
    {file : String} (member : file ∈ Shelf.fileNames) :
    namesAt? (address sku position file) = some (Shelf.names sku position file) := by
  have trimmed : Shelf.trimPrefix Action.pictureAddresses = Action.pictureAddresses := by
    decide +kernel
  rw [namesAt?, address, trimmed, filePath?_below, Option.bind_some, Shelf.path_eq]
  exact fileNames?_plain (Shelf.plain_names restricted position member)

theorem pictureAt?_address {sku : String} (restricted : Rule.isSku sku = true) (position : Nat)
    {file : String} (member : file ∈ Shelf.fileNames) (shelf : Shelf) :
    pictureAt? shelf (address sku position file) =
      shelf.file? (Shelf.names sku position file) := by
  rw [pictureAt?, namesAt?_address restricted position member, Option.bind_some]

/-- Renditions have one address only if they are one. -/
theorem address_inj {sku sku' : String} (restricted : Rule.isSku sku = true)
    (restricted' : Rule.isSku sku' = true) {position position' : Nat} {file file' : String}
    (member : file ∈ Shelf.fileNames) (member' : file' ∈ Shelf.fileNames)
    (same : address sku position file = address sku' position' file') :
    sku = sku' ∧ position = position' ∧ file = file' := by
  have found := namesAt?_address restricted position member
  rw [same, namesAt?_address restricted' position' member'] at found
  rcases Shelf.names_inj (Option.some.inj found) with ⟨rfl, rfl, rfl⟩
  exact ⟨rfl, rfl, rfl⟩

end Http
end Shop
