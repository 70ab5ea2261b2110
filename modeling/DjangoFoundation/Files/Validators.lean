/-
`SecureFileValidator` (`apps/files/validators.py`) and the path of an upload
(`secure_upload_path`, `apps/files/models.py`).

An uploaded file is its bytes and where the next read begins.  Its `size` is their number,
and its name has no directories in it, as `UploadedFile` sees to.
-/
import DjangoFoundation.Common.Text

namespace DjangoFoundation.Files

structure UploadedFile where
  name : String
  content : List UInt8
  position : Nat := 0
  deriving DecidableEq, Repr

def UploadedFile.size (file : UploadedFile) : Nat := file.content.length

/-- `file.read(n)`. -/
def UploadedFile.read (file : UploadedFile) (n : Nat) : List UInt8 × UploadedFile :=
  let data := (file.content.drop file.position).take n
  (data, { file with position := file.position + data.length })

/-- `file.seek(0)`. -/
def UploadedFile.rewind (file : UploadedFile) : UploadedFile := { file with position := 0 }

/-- What is raised on the way. -/
inductive Raised
  /-- Django's `ValidationError`. -/
  | validation (message code : String)
  /-- Anything else, by its text. -/
  | other (text : String)
  deriving DecidableEq, Repr

inductive ImageError
  /-- `DecompressionBombError`, `UnidentifiedImageError` or `OSError`. -/
  | unreadable
  | other (text : String)
  deriving DecidableEq, Repr

/-- An image that was opened, and what `verify()` says of it. -/
structure Image where
  width : Nat
  height : Nat
  verify : Except ImageError Unit

/-- The packages that look into files and name them. -/
structure Inspection where
  unicode : Unicode
  /-- `filetype.guess(sample)`, and its `mime`. -/
  guess : (sample : List UInt8) → Option String
  /-- `Image.open(file)`, which begins at the beginning. -/
  openImage : (content : List UInt8) → Except ImageError Image
  /-- `hashlib.sha256(content).hexdigest()`. -/
  sha256 : (content : List UInt8) → String
  /-- `FileField.generate_filename` of what `upload_to` returns: of the last part of a path the
  storage keeps letters, digits, underscores, dots and hyphens. -/
  generateFilename : (path : String) → String

structure FileSettings where
  maxUploadSize : Nat
  maxImagePixels : Nat
  fileRetentionDays : Nat
  deriving DecidableEq, Repr

variable (inspection : Inspection) (settings : FileSettings)

/-! ### Names -/

/-- `name.rsplit(".", 1)`, where it gives two parts. -/
def rsplitDot : List Char → Option (List Char × List Char)
  | [] => none
  | c :: name =>
      match rsplitDot name with
      | some (stem, extension) => some (c :: stem, extension)
      | none => if c = '.' then some ([], name) else none

/-- `Path(name).suffix`. -/
def suffix (name : List Char) : List Char :=
  match rsplitDot name with
  | none => []
  | some (stem, extension) =>
      if stem.isEmpty || extension.isEmpty then [] else '.' :: extension

/-- `text.lower().lstrip(".")`. -/
def bare (unicode : Unicode) (text : List Char) : List Char :=
  (unicode.lower text).dropWhile (· = '.')

/-! ### `SecureFileValidator` -/

structure SecureFileValidator where
  allowedExtensions : List (List Char)
  allowedMimeTypes : List String
  maxSize : Nat
  /-- It may read from the file, and says where it stops. -/
  malwareScanner : Option (UploadedFile → Except Raised Nat)

namespace SecureFileValidator

/-- `__init__`. -/
def init (allowedExtensions allowedMimeTypes : List String) (maxSize : Option Nat)
    (malwareScanner : Option (UploadedFile → Except Raised Nat)) : SecureFileValidator where
  allowedExtensions := allowedExtensions.map fun item => bare inspection.unicode item.toList
  allowedMimeTypes := allowedMimeTypes
  maxSize := if maxSize.getD 0 = 0 then settings.maxUploadSize else maxSize.getD 0
  malwareScanner := malwareScanner

/-- What is returned of a file that passes. -/
structure Metadata where
  contentType : String
  size : Nat
  checksumSha256 : String
  deriving DecidableEq, Repr

/-- The part for images. -/
def checkImage (content : List UInt8) : Except Raised Unit :=
  let invalid := Raised.validation "The image is invalid." "invalid_image"
  match inspection.openImage content with
  | .error .unreadable => .error invalid
  | .error (.other text) => .error (.other text)
  | .ok image =>
      if image.width * image.height > settings.maxImagePixels then
        .error (.validation "Image dimensions are too large." "image_too_large")
      else match image.verify with
        | .ok () => .ok ()
        | .error .unreadable => .error invalid
        | .error (.other text) => .error (.other text)

/-- The malware scanner, where there is one. -/
def scan (validator : SecureFileValidator) (file : UploadedFile) : Except Raised Unit :=
  match validator.malwareScanner with
  | none => .ok ()
  | some scanner => (scanner file).map fun _ => ()

/-- `__call__`, with the file as it leaves it. -/
def call (validator : SecureFileValidator) (file : UploadedFile) :
    Except Raised (Metadata × UploadedFile) := do
  let extension := bare inspection.unicode (suffix file.name.toList)
  if extension ∉ validator.allowedExtensions then
    throw (.validation "This file extension is not allowed." "invalid_extension")
  if file.size > validator.maxSize then
    throw (.validation "This file is too large." "file_too_large")
  let (sample, file) := file.read (min file.size 262144)
  let file := file.rewind
  let detectedMime := (inspection.guess sample).getD "application/octet-stream"
  if detectedMime ∉ validator.allowedMimeTypes then
    throw (.validation "The file content type is not allowed." "invalid_content_type")
  if detectedMime.startsWith "image/" then
    checkImage inspection settings file.content
  validator.scan file
  let file := file.rewind
  return ({
    contentType := detectedMime
    size := file.size
    checksumSha256 := inspection.sha256 file.content }, file)

end SecureFileValidator

/-! ### Paths -/

/-- The extension of the path a name is stored under. -/
def uploadExtension (unicode : Unicode) (name : String) : List Char :=
  match rsplitDot name.toList with
  | none => ['b', 'i', 'n']
  | some (_, extension) => unicode.lower extension

/-- `secure_upload_path`, with the `uuid4().hex` it draws. -/
def secureUploadPath (unicode : Unicode) (owner : Option UUID) (filename : String)
    (drawn : UUID) : String :=
  "uploads/" ++ (owner.map UUID.str).getD "system" ++ "/" ++ UUID.hex drawn ++ "." ++
    String.ofList (uploadExtension unicode filename)

/-- The path in the storage. -/
def storedPath (owner : Option UUID) (filename : String) (drawn : UUID) : String :=
  inspection.generateFilename (secureUploadPath inspection.unicode owner filename drawn)

end DjangoFoundation.Files
