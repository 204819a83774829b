import Shop.Catalog.Request
import Shop.Failure
import Shop.Picture.Scale

/-!
# The pictures of a request

A request may name the same picture more than once.  Only its first occurrence counts, but it is
primary if any occurrence asks to be.  The pictures that are left are fetched or decoded one after
the other, and the first that fails fails the request.
-/

namespace Shop

/-- A picture of a request, ready to be kept. -/
structure ResolvedImage where
  renditions : Renditions
  sourceUrl : Option String
  isPrimary : Bool

namespace ImageInput

/-- Let a picture that came again pass on its wish to be primary. -/
def absorb (seen again : ImageInput) : ImageInput :=
  if seen.data = again.data then { seen with isPrimary := seen.isPrimary || again.isPrimary }
  else seen

/-- Add a picture to those that came before it. -/
def insertNew (unique : List ImageInput) (input : ImageInput) : List ImageInput :=
  if unique.any (·.data == input.data) then unique.map (·.absorb input)
  else unique ++ [input]

def dedupe (inputs : List ImageInput) : List ImageInput :=
  inputs.foldl insertNew []

end ImageInput

/-- Why a picture could not be fetched. -/
inductive DownloadFault where
  /-- No answer came, or it broke off. -/
  | broken
  /-- The answer has a status that is no success. -/
  | refused (status : Nat)
  deriving Repr, DecidableEq

def DownloadFault.text (position : Nat) (address : String) (fault : DownloadFault) : String :=
  "image at index " ++ toString position ++ " could not be downloaded from " ++ address ++
    match fault with
    | .broken => ""
    | .refused status => ": HTTP " ++ toString status

/-- Something that fetches what lies at an address. -/
abbrev Downloader (m : Type → Type) := String → m (Except DownloadFault ByteArray)

def Downloader.unreachable {m : Type → Type} [Monad m] : Downloader m :=
  fun _ => return .error .broken

namespace ImageInput

variable {m : Type → Type} [Monad m]

def fetch (download : Downloader m) (position : Nat) (address : String) :
    ExceptT Failure m ByteArray := do
  match ← (download address : m _) with
  | .ok bytes => return bytes
  | .error fault => throw (.malformed (fault.text position address))

def orFail (result : Except PictureFault α) : ExceptT Failure m α :=
  match result with
  | .ok a => return a
  | .error fault => throw (.picture fault)

def resolve (download : Downloader m) (position : Nat) (input : ImageInput) :
    ExceptT Failure m ResolvedImage := do
  match ← orFail (Picture.SourceKind.read input.kind) with
  | .base64 =>
    let raster ← orFail (Picture.decodeBase64 position input.data)
    return ⟨.of raster, none, input.isPrimary⟩
  | .url =>
    let address := Text.trim input.data
    let bytes ← fetch download position address
    let raster ← orFail (Picture.decode position bytes)
    return ⟨.of raster, some address, input.isPrimary⟩

/-- Make pictures ready, counting positions from `position`. -/
def resolveFrom (download : Downloader m) (position : Nat) :
    List ImageInput → ExceptT Failure m (List ResolvedImage)
  | [] => return []
  | input :: inputs => do
    let image ← input.resolve download position
    let images ← resolveFrom download (position + 1) inputs
    return image :: images

/-- Make the pictures of a request ready. -/
def resolveAll (download : Downloader m) (inputs : List ImageInput) :
    ExceptT Failure m (List ResolvedImage) :=
  resolveFrom download 0 (dedupe inputs)

end ImageInput
end Shop
