import Shop.Picture.Format
import Shop.Picture.Jpeg
import Shop.Picture.Png
import Shop.Text.Base64
import Shop.Text.Blank
import Shop.Text.Lowercase

/-!
# Taking in pictures

A picture comes as data in base 64 or by the address where it lies.  Only PNG and JPEG are taken.
Every fault names the position of the picture in its request, so that the client knows which one to
mend.
-/

namespace Shop

/-- Why a picture is not taken or cannot be kept. -/
inductive PictureFault where
  /-- The data is not base 64. -/
  | notBase64 (position : Nat)
  /-- The bytes are no picture. -/
  | undecodable (position : Nat)
  /-- The picture has a format that is not taken. -/
  | unsupported (position : Nat) (format : String)
  | unknownKind (kind : String)
  /-- The picture has no written form. -/
  | encoding (reason : String)
  /-- The files could not be written. -/
  | files (reason : String)
  /-- Something else went wrong while the renditions were kept. -/
  | task (reason : String)
  deriving Repr, DecidableEq

namespace PictureFault

def text : PictureFault → String
  | .notBase64 i => "image data at index " ++ toString i ++ " is not valid base64"
  | .undecodable i => "image data at index " ++ toString i ++ " is invalid"
  | .unsupported i format =>
    "image at index " ++ toString i ++ " is " ++ format ++
      "; only PNG and JPEG images are accepted"
  | .unknownKind kind =>
    "unknown image type '" ++ kind ++ "'; expected 'base64' or 'url'"
  | .encoding reason => "failed to encode image: " ++ reason
  | .files reason => "image storage I/O failed: " ++ reason
  | .task reason => "image storage task failed: " ++ reason

/-- Whether the request is to blame, rather than the service. -/
def isClientFault : PictureFault → Bool
  | .notBase64 _ | .undecodable _ | .unsupported _ _ | .unknownKind _ => true
  | .encoding _ | .files _ | .task _ => false

end PictureFault

namespace Picture

inductive SourceKind where
  | base64
  | url
  deriving Repr, DecidableEq

/-- Read the kind of a source, in any case. -/
def SourceKind.read (s : String) : Except PictureFault SourceKind :=
  match Text.asciiLowercase s with
  | "base64" => .ok .base64
  | "url" => .ok .url
  | other => .error (.unknownKind other)

def sampleLimit : Nat := 512 * 1024 * 1024

def decode (position : Nat) (bytes : ByteArray) : Except PictureFault Raster :=
  let result := fun r : Option Raster => match r with
    | some raster =>
      if sampleLimit < raster.width * raster.height * raster.color.pixelBytes then
        .error (PictureFault.undecodable position)
      else .ok raster
    | none => .error (PictureFault.undecodable position)
  match Format.guess bytes with
  | none => .error (.undecodable position)
  | some .png => result (readPng bytes)
  | some .jpeg => result (readJpeg bytes)
  | some format => .error (.unsupported position format.name)

/-- Decode the picture at a position from base 64, blanks around it aside. -/
def decodeBase64 (position : Nat) (data : String) : Except PictureFault Raster :=
  match Base64.decode (Text.trim data) with
  | none => .error (.notBase64 position)
  | some bytes => decode position bytes

end Picture
end Shop
