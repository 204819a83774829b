import Mathlib.Data.List.Forall2
import Shop.Proofs.Catalog.Deduplication

/-!
# Pictures that cannot be made ready

An entry of a request is valid on its own if its kind is known, its data is base 64 or the address
of something that can be fetched, and the bytes that it brings are a picture that is taken.  Making
the entries of a request ready stops at the first one kept that is not valid, and fails as that entry
does.  Positions are counted among the entries that are kept.
-/

namespace Shop

/-- A failure over the picture at a position: it names this position and no other, but for a kind
that is unknown, where none is named. -/
inductive Failure.OfPictureAt (position : Nat) : Failure → Prop where
  | unknownKind (kind : String) : OfPictureAt position (.picture (.unknownKind kind))
  | notBase64 : OfPictureAt position (.picture (.notBase64 position))
  | undecodable : OfPictureAt position (.picture (.undecodable position))
  | unsupported (format : String) : OfPictureAt position (.picture (.unsupported position format))
  | notFetched (address : String) (fault : DownloadFault) :
    OfPictureAt position (.malformed (fault.text position address))

namespace Picture

/-- What was read of bytes, if it is not too large. -/
def limited (position : Nat) (read : Option Raster) : Except PictureFault Raster :=
  match read with
  | some raster =>
    if sampleLimit < raster.width * raster.height * raster.color.pixelBytes then
      .error (.undecodable position)
    else .ok raster
  | none => .error (.undecodable position)

theorem decode_eq (position : Nat) (bytes : ByteArray) :
    decode position bytes = match Format.guess bytes with
      | none => .error (.undecodable position)
      | some .png => limited position (readPng bytes)
      | some .jpeg => limited position (readJpeg bytes)
      | some format => .error (.unsupported position format.name) := rfl

theorem limited_cases (position : Nat) (read : Option Raster) :
    (∃ raster, limited 0 read = .ok raster ∧ limited position read = .ok raster) ∨
      (limited 0 read).toOption = none ∧ ∃ fault, limited position read = .error fault ∧
        (Failure.picture fault).OfPictureAt position := by
  cases read with
  | none => exact .inr ⟨rfl, _, rfl, .undecodable⟩
  | some raster =>
    simp only [limited]
    split
    · exact .inr ⟨rfl, _, rfl, .undecodable⟩
    · exact .inl ⟨raster, rfl, rfl⟩

/-- Bytes that are a picture are so at each position, and a fault names the position. -/
theorem decode_cases (position : Nat) (bytes : ByteArray) :
    (∃ raster, decode 0 bytes = .ok raster ∧ decode position bytes = .ok raster) ∨
      (decode 0 bytes).toOption = none ∧ ∃ fault, decode position bytes = .error fault ∧
        (Failure.picture fault).OfPictureAt position := by
  rw [decode_eq, decode_eq]
  split
  · exact .inr ⟨rfl, _, rfl, .undecodable⟩
  · exact limited_cases position (readPng bytes)
  · exact limited_cases position (readJpeg bytes)
  · exact .inr ⟨rfl, _, rfl, .unsupported _⟩

theorem SourceKind.read_error {s : String} {fault : PictureFault} (failed : read s = .error fault) :
    ∃ kind, fault = .unknownKind kind := by
  unfold read at failed
  split at failed <;> cases failed
  exact ⟨_, rfl⟩

end Picture

namespace ImageInput

/-- The bytes that an entry brings. -/
def bytes? (download : Downloader Id) (input : ImageInput) : Option ByteArray :=
  match Picture.SourceKind.read input.kind with
  | .ok .base64 => Base64.decode (Text.trim input.data)
  | .ok .url => (download (Text.trim input.data)).run.toOption
  | .error _ => none

/-- The picture of an entry, if the entry is valid on its own. -/
def picture? (download : Downloader Id) (input : ImageInput) : Option Raster :=
  (input.bytes? download).bind fun bytes => (Picture.decode 0 bytes).toOption

/-- The address that an entry is fetched from. -/
def sourceUrl? (input : ImageInput) : Option String :=
  match Picture.SourceKind.read input.kind with
  | .ok .url => some (Text.trim input.data)
  | _ => none

theorem fetch_eq (download : Downloader Id) (position : Nat) (address : String) :
    fetch download position address = match (download address).run with
      | .ok bytes => pure bytes
      | .error fault => throw (.malformed (fault.text position address)) := rfl

/-- Bytes are made ready as the picture that they are, or fail over their position. -/
theorem ready_cases (position : Nat) (bytes : ByteArray) (sourceUrl : Option String)
    (isPrimary : Bool) {ready : ExceptT Failure Id ResolvedImage}
    (steps : ready = do
      let raster ← orFail (Picture.decode position bytes)
      return ⟨.of raster, sourceUrl, isPrimary⟩) :
    (∃ raster, (Picture.decode 0 bytes).toOption = some raster ∧
      ready.run = .ok ⟨.of raster, sourceUrl, isPrimary⟩) ∨
    (Picture.decode 0 bytes).toOption = none ∧ ∃ failure : Failure,
      ready.run = .error failure ∧ failure.OfPictureAt position := by
  subst steps
  rcases Picture.decode_cases position bytes with
    ⟨raster, start, done⟩ | ⟨start, fault, done, there⟩
  · refine .inl ⟨raster, by rw [start]; rfl, ?_⟩
    rw [done]
    rfl
  · refine .inr ⟨start, _, ?_, there⟩
    rw [done]
    rfl

/-- An entry that is valid on its own is made ready at each position, and one that is not fails over
its position. -/
theorem resolve_cases (download : Downloader Id) (position : Nat) (input : ImageInput) :
    (∃ raster, input.picture? download = some raster ∧ (input.resolve download position).run =
      .ok ⟨.of raster, input.sourceUrl?, input.isPrimary⟩) ∨
    input.picture? download = none ∧ ∃ failure : Failure,
      (input.resolve download position).run = .error failure ∧ failure.OfPictureAt position := by
  unfold picture? bytes? sourceUrl? resolve
  cases kind : Picture.SourceKind.read input.kind with
  | error fault =>
    rcases Picture.SourceKind.read_error kind with ⟨other, rfl⟩
    exact .inr ⟨rfl, _, rfl, .unknownKind other⟩
  | ok source =>
    cases source with
    | base64 =>
      dsimp only
      unfold Picture.decodeBase64
      cases Base64.decode (Text.trim input.data) with
      | none => exact .inr ⟨rfl, _, rfl, .notBase64⟩
      | some bytes => exact ready_cases position bytes none input.isPrimary rfl
    | url =>
      dsimp only
      rw [fetch_eq]
      cases (download (Text.trim input.data)).run with
      | error fault => exact .inr ⟨rfl, _, rfl, .notFetched (Text.trim input.data) fault⟩
      | ok bytes => exact ready_cases position bytes (some (Text.trim input.data)) input.isPrimary rfl

/-! ## All entries -/

/-- Of two steps the second is taken if the first succeeds. -/
theorem run_bind (first : ExceptT Failure Id α) (next : α → ExceptT Failure Id β) :
    (first >>= next).run = Except.bind first.run fun a => (next a).run := by
  change ExceptT.bindCont (m := Id) next first.run = _
  cases first.run <;> rfl

/-- What an entry becomes that is valid on its own. -/
def ReadyAs (download : Downloader Id) (input : ImageInput) (image : ResolvedImage) : Prop :=
  ∃ raster, input.picture? download = some raster ∧
    image = ⟨.of raster, input.sourceUrl?, input.isPrimary⟩

/-- The place of the first of several entries that is not valid on its own. -/
def firstInvalid? (download : Downloader Id) (inputs : List ImageInput) : Option Nat :=
  inputs.findIdx? fun input => (input.picture? download).isNone

/-- Either all entries are made ready, or the first invalid one fails over its position. -/
theorem resolveFrom_cases (download : Downloader Id) (position : Nat) (inputs : List ImageInput) :
    (∃ images, (resolveFrom download position inputs).run = .ok images ∧
      List.Forall₂ (ReadyAs download) inputs images) ∨
    ∃ n, firstInvalid? download inputs = some n ∧ ∃ failure : Failure,
      (resolveFrom download position inputs).run = .error failure ∧
        failure.OfPictureAt (position + n) := by
  induction inputs generalizing position with
  | nil => exact .inl ⟨[], rfl, .nil⟩
  | cons input inputs inductionHypothesis =>
    rw [resolveFrom, run_bind, firstInvalid?, List.findIdx?_cons]
    rcases resolve_cases download position input with
      ⟨raster, valid, ready⟩ | ⟨invalid, failure, failed, there⟩
    · rw [ready, valid, Except.bind, run_bind]
      rcases inductionHypothesis (position + 1) with
        ⟨images, done, all⟩ | ⟨n, first, failure, failed, there⟩
      · rw [done]
        exact .inl ⟨_, rfl, .cons ⟨raster, valid, rfl⟩ all⟩
      · rw [failed]
        refine .inr ⟨n + 1, ?_, failure, rfl, ?_⟩
        · rw [firstInvalid?] at first
          rw [first]
          rfl
        · rwa [Nat.add_right_comm] at there
    · rw [failed, invalid]
      exact .inr ⟨0, rfl, failure, rfl, there⟩

/-- Either the first entries are made ready, each of them primary if any entry with its data is, or
the first invalid one of them fails over its place among them. -/
theorem resolveAll_cases (download : Downloader Id) (inputs : List ImageInput) :
    (∃ images, (resolveAll download inputs).run = .ok images ∧
      List.Forall₂ (fun first => (marked inputs first).ReadyAs download) (firsts inputs) images) ∨
    ∃ n, firstInvalid? download (firsts inputs) = some n ∧ ∃ failure : Failure,
      (resolveAll download inputs).run = .error failure ∧ failure.OfPictureAt n := by
  unfold resolveAll
  rw [dedupe_eq]
  rcases resolveFrom_cases download 0 ((firsts inputs).map (marked inputs)) with
    ⟨images, done, ready⟩ | ⟨n, first, failure, failed, there⟩
  · exact .inl ⟨images, done, List.forall₂_map_left_iff.mp ready⟩
  · rw [firstInvalid?, List.findIdx?_map] at first
    rw [Nat.zero_add] at there
    exact .inr ⟨n, first, failure, failed, there⟩

/-- Where no data comes again up to the first invalid entry, this entry has the same place among the
first ones. -/
theorem firstInvalid?_firsts {download : Downloader Id} {inputs : List ImageInput} {n : Nat}
    (first : firstInvalid? download inputs = some n)
    (distinct : ((inputs.take (n + 1)).map (·.data)).Nodup) :
    firstInvalid? download (firsts inputs) = some n := by
  unfold firstInvalid? at first ⊢
  rcases List.findIdx?_eq_some_iff_getElem.mp first with ⟨bounded, here, earlier⟩
  have own : (inputs.take (n + 1)).findIdx? (fun input => (input.picture? download).isNone) =
      some n := by
    refine List.findIdx?_eq_some_iff_getElem.mpr ⟨?_, ?_, fun j before => ?_⟩
    · rw [List.length_take]
      omega
    · rwa [List.getElem_take]
    · rw [List.getElem_take]
      exact earlier j before
  rw [← List.take_append_drop (n + 1) inputs, firsts_append distinct, List.findIdx?_append, own]
  rfl

/-- The pictures of a request cannot be made ready exactly if some entry whose data no earlier entry
has is not valid on its own.  If no data comes again up to the first invalid entry, the failure names
the position of this entry in the request, or none. -/
theorem resolveAll_fails (download : Downloader Id) (inputs : List ImageInput) :
    ((∃ failure, (resolveAll download inputs).run = .error failure) ↔
      ∃ first ∈ firsts inputs, first.picture? download = none) ∧
    ∀ failure, (resolveAll download inputs).run = .error failure → ∀ n,
      firstInvalid? download inputs = some n → ((inputs.take (n + 1)).map (·.data)).Nodup →
      failure.OfPictureAt n := by
  rcases resolveAll_cases download inputs with
    ⟨images, done, ready⟩ | ⟨place, invalid, failure, failed, there⟩
  · refine ⟨iff_of_false ?_ ?_, fun failure failed => ?_⟩
    · rintro ⟨failure, failed⟩
      cases done.symm.trans failed
    · rintro ⟨first, inFirsts, invalid⟩
      have valid : ∀ first ∈ firsts inputs, first.picture? download ≠ none :=
        ((List.forall₂_and_left _ _).mp (ready.imp fun first image made =>
          ⟨Option.ne_none_iff_exists'.mpr (made.imp fun _ made => made.1), made⟩)).1
      exact valid first inFirsts invalid
    · cases done.symm.trans failed
  · refine ⟨iff_of_true ⟨failure, failed⟩ ?_, fun other failed' n first distinct => ?_⟩
    · rcases List.findIdx?_eq_some_iff_getElem.mp invalid with ⟨bounded, here, _⟩
      exact ⟨_, List.getElem_mem bounded, Option.isNone_iff_eq_none.mp here⟩
    · cases failed.symm.trans failed'
      cases invalid.symm.trans (firstInvalid?_firsts first distinct)
      exact there

/-- A picture of one gray pixel. -/
def dot : ImageInput where
  kind := "base64"
  data := "iVBORw0KGgoAAAANSUhEUgAAAAEAAAABCAAAAAA6fptVAAAACklEQVR4AWNgAAAAAgABc3UBGAAAAABJRU5ErkJggg=="
  isPrimary := false

def dotRaster : Raster := ⟨1, 1, ⟨1, false⟩, some ⟨#[0]⟩⟩

theorem dot_picture : dot.picture? .unreachable = some dotRaster := by
  have decoded : (dot.picture? .unreachable).any (fun raster =>
      decide (raster.width = 1 ∧ raster.height = 1 ∧ raster.color = ⟨1, false⟩ ∧
        raster.samples = some ⟨#[0]⟩)) = true := by
    decide +kernel
  rcases Option.any_eq_true .. |>.mp decoded with ⟨⟨width, height, color, samples⟩, found, same⟩
  rcases of_decide_eq_true same with ⟨rfl, rfl, rfl, rfl⟩
  exact found

/-- The dot behind a blank. -/
def blankDot : ImageInput := { dot with data := " " ++ dot.data }

theorem blankDot_picture : blankDot.picture? .unreachable = some dotRaster := by
  have trimmed : Text.trim blankDot.data = Text.trim dot.data := by decide +kernel
  have same : blankDot.bytes? .unreachable = dot.bytes? .unreachable := by
    rw [bytes?, trimmed]
    rfl
  rw [picture?, same]
  exact dot_picture

theorem firstInvalid?_dot (inputs : List ImageInput) :
    firstInvalid? .unreachable (dot :: inputs) =
      (firstInvalid? .unreachable inputs).map (· + 1) := by
  rw [firstInvalid?, List.findIdx?_cons, dot_picture]
  rfl

/-- The dot behind a blank, the dot, and the dot again, which is to be primary. -/
def repeatedDots : List ImageInput := [blankDot, dot, { dot with isPrimary := true }]

theorem firsts_repeatedDots : firsts repeatedDots = [blankDot, dot] := by decide +kernel

/-- Of the dots two are made ready, of which the second is to be primary. -/
theorem resolveAll_repeatedDots :
    (resolveAll (m := Id) .unreachable repeatedDots).run =
      .ok [⟨.of dotRaster, none, false⟩, ⟨.of dotRaster, none, true⟩] := by
  have flags : (marked repeatedDots blankDot).isPrimary = false ∧
      (marked repeatedDots dot).isPrimary = true := by
    decide +kernel
  have kept (input : ImageInput) (download : Downloader Id) :
      (marked repeatedDots input).picture? download = input.picture? download := rfl
  rcases resolveAll_cases .unreachable repeatedDots with ⟨images, done, ready⟩ | ⟨n, invalid, _⟩
  · rw [firsts_repeatedDots] at ready
    cases ready with
    | cons first rest =>
      cases rest with
      | cons second rest =>
        cases rest
        rcases first with ⟨raster, found, rfl⟩
        rcases second with ⟨raster', found', rfl⟩
        rw [kept, blankDot_picture] at found
        rw [kept, dot_picture] at found'
        cases found
        cases found'
        rw [done, flags.1, flags.2]
        rfl
  · have valid : firstInvalid? .unreachable [blankDot, dot] = none := by
      rw [firstInvalid?, List.findIdx?_cons, blankDot_picture, List.findIdx?_cons, dot_picture]
      rfl
    rw [firsts_repeatedDots, valid] at invalid
    cases invalid

/-- Behind a picture, data that is not base 64 is at position one. -/
theorem resolveAll_fails_broken :
    ∃ failure : Failure, (resolveAll (m := Id) .unreachable [dot, ⟨"base64", "%%%", false⟩]).run =
      .error failure ∧ failure.OfPictureAt 1 := by
  have broken : firstInvalid? .unreachable [⟨"base64", "%%%", false⟩] = some 0 := by
    decide +kernel
  have place : firstInvalid? .unreachable [dot, ⟨"base64", "%%%", false⟩] = some 1 := by
    rw [firstInvalid?_dot, broken]
    rfl
  rcases resolveAll_fails .unreachable [dot, ⟨"base64", "%%%", false⟩] with ⟨fails, named⟩
  rcases fails.mpr ⟨⟨"base64", "%%%", false⟩, by decide, by decide +kernel⟩ with ⟨failure, failed⟩
  exact ⟨failure, failed, named failure failed 1 place (by decide)⟩

/-- Data of an unknown kind is let through behind the same data of a known one. -/
theorem resolveAll_lenient :
    ¬ ∀ (download : Downloader Id) (inputs : List ImageInput),
      ((∃ failure, (resolveAll download inputs).run = .error failure) ↔
        ∃ input ∈ inputs, input.picture? download = none) ∧
      ∀ failure, (resolveAll download inputs).run = .error failure → ∀ n,
        firstInvalid? download inputs = some n → failure.OfPictureAt n := by
  intro strict
  let unknown : ImageInput := { dot with kind := "ftp" }
  have invalid : unknown.picture? .unreachable = none := by decide +kernel
  rcases (strict .unreachable [dot, unknown]).1.mpr ⟨unknown, by simp, invalid⟩ with
    ⟨failure, failed⟩
  have single : firsts [dot, unknown] = [dot] := by decide
  rcases resolveAll_cases .unreachable [dot, unknown] with ⟨images, done, _⟩ | ⟨n, place, _⟩
  · cases done.symm.trans failed
  · rw [single, firstInvalid?_dot] at place
    cases place

end ImageInput
end Shop
