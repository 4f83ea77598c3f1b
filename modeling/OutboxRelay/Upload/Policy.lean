import OutboxRelay.Text.Lowercase

namespace OutboxRelay

/-- What an upload may be. Without a list of types every type is allowed. -/
structure UploadPolicy where
  maxSizeBytes : Int := 52428800
  allowedTypes : Option (List String) := none
  deriving DecidableEq, Repr

/-- Extensions of programs, packages and documents with macros. -/
def blockedExtensions : List String := [
  "exe", "dll", "scr", "pif", "com", "msi", "msp", "mst", "bat", "cmd",
  "so", "dylib", "out",
  "jar", "war", "ear", "class",
  "deb", "rpm", "apk", "app", "dmg", "pkg",
  "xlsm", "xlsb", "xltm", "docm", "dotm", "pptm", "potm", "ppam",
  "reg", "inf", "scf", "lnk", "url", "hta"]

def fallbackContentType : String := "application/octet-stream"

/-- The content type of each known extension. -/
def extensionTypes : List (String × String) := [
  ("txt", "text/plain"),
  ("log", "text/plain"),
  ("csv", "text/csv"),
  ("tsv", "text/tab-separated-values"),
  ("html", "text/html"),
  ("htm", "text/html"),
  ("md", "text/markdown"),
  ("markdown", "text/markdown"),
  ("css", "text/css"),
  ("js", "text/javascript"),
  ("mjs", "text/javascript"),
  ("json", "application/json"),
  ("xml", "application/xml"),
  ("yaml", "application/yaml"),
  ("yml", "application/yaml"),
  ("pdf", "application/pdf"),
  ("doc", "application/msword"),
  ("docx", "application/vnd.openxmlformats-officedocument.wordprocessingml.document"),
  ("xls", "application/vnd.ms-excel"),
  ("xlsx", "application/vnd.openxmlformats-officedocument.spreadsheetml.sheet"),
  ("ppt", "application/vnd.ms-powerpoint"),
  ("pptx", "application/vnd.openxmlformats-officedocument.presentationml.presentation"),
  ("odt", "application/vnd.oasis.opendocument.text"),
  ("rtf", "application/rtf"),
  ("png", "image/png"),
  ("jpg", "image/jpeg"),
  ("jpeg", "image/jpeg"),
  ("gif", "image/gif"),
  ("webp", "image/webp"),
  ("svg", "image/svg+xml"),
  ("tif", "image/tiff"),
  ("tiff", "image/tiff"),
  ("heic", "image/heic"),
  ("mp3", "audio/mpeg"),
  ("wav", "audio/wav"),
  ("mp4", "video/mp4"),
  ("mov", "video/quicktime"),
  ("webm", "video/webm"),
  ("zip", "application/zip"),
  ("gz", "application/gzip"),
  ("tar", "application/x-tar")]

/-- What follows the last point of a name, in lower case. Neither it nor what stands before the
point may be empty. -/
def extension? (filename : String) : Option String :=
  let reversed := filename.toList.reverse
  let ext := (reversed.takeWhile (· ≠ '.')).reverse
  match reversed.dropWhile (· ≠ '.') with
  | _ :: _ :: _ => if ext.isEmpty then none else some (lowercase (String.ofList ext))
  | _ => none

/-- The type that the extension tells. -/
def guessContentType (filename : String) : String :=
  ((extension? filename).bind fun ext => extensionTypes.lookup ext).getD fallbackContentType

/-- Why an upload is refused. -/
inductive Rejection
  | negativeSize (size : Int)
  | tooLarge (size limit : Int)
  | blockedExtension (ext : String)
  | typeNotAllowed (contentType : String) (allowed : List String)
  deriving DecidableEq, Repr

def Rejection.text : Rejection → String
  | .negativeSize size => "File size " ++ toString size ++ " bytes is negative."
  | .tooLarge size limit =>
    "File size " ++ toString size ++ " bytes exceeds maximum of " ++ toString limit ++ " bytes."
  | .blockedExtension ext => "File extension ." ++ ext ++ " is not allowed."
  | .typeNotAllowed contentType allowed =>
    "File type '" ++ contentType ++ "' is not allowed. Allowed types: " ++
      String.intercalate ", " allowed

/-- The extension of a name, if it is blocked. -/
def blockedExtension? (filename : String) : Option String :=
  (extension? filename).filter blockedExtensions.contains

/-- The first reason to refuse an upload. The type counts that the name tells, never one that the
client claims. -/
def UploadPolicy.rejection? (policy : UploadPolicy) (filename : String) (size : Int) :
    Option Rejection :=
  if size < 0 then some (.negativeSize size)
  else if policy.maxSizeBytes < size then some (.tooLarge size policy.maxSizeBytes)
  else
    match blockedExtension? filename with
    | some ext => some (.blockedExtension ext)
    | none =>
      let contentType := guessContentType filename
      match policy.allowedTypes with
      | some allowed =>
        if allowed.contains contentType then none else some (.typeNotAllowed contentType allowed)
      | none => none

end OutboxRelay
