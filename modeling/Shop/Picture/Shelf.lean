import Shop.Picture.Intake
import Shop.Picture.Scale

/-!
# Keeping renditions

Renditions are kept as files below one directory, by the SKU of the root and the position of the
picture, and are served under an address that begins with a fixed text.  A file that is written
again is replaced.
-/

namespace Shop

/-- The addresses under which the renditions of a picture are served. -/
structure Locations where
  thumbnail : String
  main : String
  full : String
  deriving Repr, DecidableEq

inductive StorageProvider where
  | localFiles
  deriving Repr, DecidableEq

namespace StorageProvider

/-- Read a provider, in any case. -/
def read (s : String) : Except String StorageProvider :=
  match Text.asciiLowercase s with
  | "local" => .ok .localFiles
  | other => .error ("unknown image storage provider '" ++ other ++ "'")

def name : StorageProvider → String
  | .localFiles => "local"

end StorageProvider

/-- A directory of renditions.  Folders and files in it are known by the names that lead to them. -/
structure Shelf where
  /-- Whether a file stands in place of the directory. -/
  blocked : Bool
  folders : List (List String)
  files : List (List String × Raster)

inductive ShelfFault where
  | nulInName
  | nameTooLong
  | notFolder
  | isFolder
  deriving Repr, DecidableEq

def ShelfFault.text : ShelfFault → String
  | .nulInName => "file name contained an unexpected NUL byte"
  | .nameTooLong => "File name too long (os error 36)"
  | .notFolder => "Not a directory (os error 20)"
  | .isFolder => "Is a directory (os error 21)"

/-- Where a path leads: to a place of the directory, or out of it. -/
inductive Place where
  | inside (names : List String)
  | outside
  deriving Repr, DecidableEq

/-- The folder around a place.  A path that has left the directory does not come back. -/
def Place.parent : Place → Place
  | .inside [] | .outside => .outside
  | .inside names => .inside names.dropLast

inductive Holding where
  | file (r : Raster)
  | folder
  | nothing
  | unreachable
  | unnameable

namespace Shelf

def empty : Shelf := ⟨false, [], []⟩

def maxNameBytes : Nat := 255

/-- The bytes of the longest path that can be followed. -/
def maxPathBytes : Nat := 4095

/-- The bytes of the path of the directory itself, with the slash behind it. -/
def ownPathBytes : Nat := 16

def file? (s : Shelf) (names : List String) : Option Raster := s.files.lookup names

/-- Whether a folder stands at a place. -/
def isFolder (s : Shelf) (names : List String) : Bool :=
  names.isEmpty || s.folders.contains names

def listing (s : Shelf) : List (String × Raster) :=
  s.files.map fun (names, r) => (String.intercalate "/" names, r)

/-- What stands where some names lead, from a folder on. -/
def holdingFrom (s : Shelf) (folder : List String) : List String → Holding
  | [] => .folder
  | name :: rest =>
    if maxNameBytes < name.utf8ByteSize then .unnameable
    else
      match s.file? (folder ++ [name]) with
      | some r => if rest.isEmpty then .file r else .unreachable
      | none =>
        if s.isFolder (folder ++ [name]) then holdingFrom s (folder ++ [name]) rest else .nothing

def holding (s : Shelf) (names : List String) : Holding :=
  if maxPathBytes < ownPathBytes + (String.intercalate "/" names).utf8ByteSize then .unnameable
  else s.holdingFrom [] names

/-- Make a folder, if there is none yet. -/
def withFolder (s : Shelf) (names : List String) : Shelf :=
  if s.isFolder names then s else { s with folders := names :: s.folders }

/-- Follow the names of a path and make the folders that are missing.  Those made before a name that
cannot be followed stay. -/
def makeFolders (s : Shelf) (place : Place) : List String → Except ShelfFault Place × Shelf
  | [] => (.ok place, s)
  | name :: rest =>
    if name = "" ∨ name = "." then makeFolders s place rest
    else if name = ".." then makeFolders s place.parent rest
    else if maxNameBytes < name.utf8ByteSize then (.error .nameTooLong, s)
    else
      match place with
      | .outside => makeFolders s .outside rest
      | .inside names =>
        if (s.file? (names ++ [name])).isSome then (.error .notFolder, s)
        else makeFolders (s.withFolder (names ++ [name])) (.inside (names ++ [name])) rest

/-- The names that stand between the slashes of a path. -/
def pathNames (path : String) : List String :=
  (path.toList.splitOnP (· == '/')).map String.ofList

/-- Make the folders of a path.  One that begins with a slash leads out of the directory. -/
def makePath (s : Shelf) (path : String) : Except ShelfFault Place × Shelf :=
  let absolute := path.toList.head? == some '/'
  let bytes := path.utf8ByteSize + if absolute then 0 else ownPathBytes
  if path.toList.contains '\x00' then (.error .nulInName, s)
  else if maxPathBytes < bytes then (.error .nameTooLong, s)
  else if absolute then s.makeFolders .outside (pathNames path)
  else if s.blocked then (.error .notFolder, s)
  else s.makeFolders (.inside []) (pathNames path)

/-- Write a file into a folder, in place of one that is there.  What lies outside of the directory
is not kept track of. -/
def write (s : Shelf) (folder : Place) (name : String) (r : Raster) : Except ShelfFault Shelf :=
  match folder with
  | .outside => .ok s
  | .inside names =>
    let place := names ++ [name]
    if s.isFolder place then .error .isFolder
    else .ok { s with files := s.files.filter (fun f => f.1 != place) ++ [(place, r)] }

/-- Write files into a folder, one after the other.  Those written before one that cannot be written
stay. -/
def writeAll (s : Shelf) (folder : Place) :
    List (String × Raster) → Except ShelfFault Unit × Shelf
  | [] => (.ok (), s)
  | (name, r) :: files =>
    match s.write folder name r with
    | .error fault => (.error fault, s)
    | .ok s => writeAll s folder files

def folder (sku : String) (position : Nat) : String := sku ++ "/" ++ toString position

/-- The path of a rendition of a picture. -/
def path (sku : String) (position : Nat) (name : String) : String :=
  folder sku position ++ "/" ++ name

def thumbnailFile : String := "thumbnail.png"

def mainFile : String := "main.png"

def fullFile : String := "original.png"

/-- The files of a picture, in the order in which they are written. -/
def filesOf (r : Renditions) : List (String × Raster) :=
  [(thumbnailFile, r.thumbnail), (mainFile, r.main), (fullFile, r.full)]

/-- The start of the addresses, without slashes at its end. -/
def trimPrefix (addresses : String) : String :=
  String.ofList ((addresses.toList.reverse.dropWhile (· == '/')).reverse)

/-- The addresses of the renditions of a picture. -/
def locations (addresses sku : String) (position : Nat) : Locations :=
  let address (name : String) := trimPrefix addresses ++ "/" ++ path sku position name
  ⟨address thumbnailFile, address mainFile, address fullFile⟩

/-- Why a picture has no written form: without pixels it has none. -/
def unwritable? (r : Raster) : Option String :=
  if r.width = 0 then some "Zero width not allowed"
  else if r.height = 0 then some "Zero height not allowed"
  else none

/-- Keep the renditions of the picture at a position of a root: make the folders, bring all three
into their written form, and write the files.  What was made before a fault stays. -/
def keep (s : Shelf) (addresses sku : String) (position : Nat) (r : Renditions) :
    Except PictureFault Locations × Shelf :=
  match s.makePath (folder sku position) with
  | (.error fault, s) => (.error (.files fault.text), s)
  | (.ok place, s) =>
    match [r.thumbnail, r.main, r.full].findSome? unwritable? with
    | some reason => (.error (.encoding reason), s)
    | none =>
      match s.writeAll place (filesOf r) with
      | (.error fault, s) => (.error (.files fault.text), s)
      | (.ok (), s) => (.ok (locations addresses sku position), s)

/-- Keep a picture no further than some of its steps: the first makes its folders, and each of the
others writes one of its files. -/
def keepPart (s : Shelf) (sku : String) (position : Nat) (r : Renditions) : Nat → Shelf
  | 0 => s
  | files + 1 =>
    match s.makePath (folder sku position) with
    | (.error _, s) => s
    | (.ok place, s) => (s.writeAll place ((filesOf r).take files)).2

end Shelf
end Shop
