/-
# Media types

The media type of a file follows from its extension.  Archives and compressed
files are told first, by extensions in the case in which they are listed; all
others are looked up without regard to case.

| Extension | Media type |
|-----------|------------|
| `gz`, `svgz`, `tgz`, `taz`, `tz` | `application/gzip` |
| `bz2`, `xz`, `br`, `Z`, `tbz2`, `txz` | `application/octet-stream` |
| in the table, after case folding | the table's |
| any other | the platform's, or else `application/octet-stream` |
| none | `application/octet-stream` |

Folding is the full one of Unicode, restricted to what it takes to ASCII; the
names in the table are ASCII, so no other character can match.

Platforms know many more extensions than the table lists, such as `mkv` and `epub`.
Those are left to the platform.
-/

import ComponentHost.Platform

namespace ComponentHost
namespace MediaType

/-- The media type of unknown octets. -/
def octetStream : String := "application/octet-stream"

/-- The media type of a file compressed by `gzip`. -/
def gzip : String := "application/gzip"

/-- Extensions of files compressed by `gzip`. -/
def gzipExtensions : List String := ["gz", "svgz", "tgz", "taz", "tz"]

/-- Extensions of files compressed in other ways. -/
def otherCompressions : List String := ["bz2", "xz", "br", "Z", "tbz2", "txz"]

/-- Media types and the extensions that have them on any platform, in lower case. -/
def table : List (String × List String) := [
  ("application/atom+xml", ["atom"]),
  ("application/directx", ["x"]),
  ("application/font-sfnt", ["otf"]),
  ("application/font-woff", ["woff"]),
  ("application/gzip", ["gz"]),
  ("application/javascript", ["mjs"]),
  ("application/json", ["json"]),
  ("application/manifest+json", ["webmanifest"]),
  ("application/msword", ["doc"]),
  ("application/pdf", ["pdf"]),
  ("application/postscript", ["ai", "eps", "ps"]),
  ("application/rss+xml", ["rss"]),
  ("application/rtf", ["rtf"]),
  ("application/vnd.google-earth.kml+xml", ["kml"]),
  ("application/vnd.ms-excel", ["xls"]),
  ("application/vnd.ms-fontobject", ["eot"]),
  ("application/vnd.ms-pki.stl", ["stl"]),
  ("application/vnd.ms-powerpoint", ["ppt"]),
  ("application/vnd.openxmlformats-officedocument.presentationml.presentation", ["pptx"]),
  ("application/vnd.openxmlformats-officedocument.spreadsheetml.sheet", ["xlsx"]),
  ("application/vnd.openxmlformats-officedocument.wordprocessingml.document", ["docx"]),
  ("application/wasm", ["wasm"]),
  ("application/x-7z-compressed", ["7z"]),
  ("application/x-bzip2", ["bz2"]),
  ("application/x-compress", ["z"]),
  ("application/x-compressed", ["tgz"]),
  ("application/x-httpd-php", ["php"]),
  ("application/x-msdownload", ["dll"]),
  ("application/x-rar-compressed", ["rar"]),
  ("application/x-sh", ["sh"]),
  ("application/x-shockwave-flash", ["swf"]),
  ("application/x-tar", ["tar"]),
  ("application/x-tgif", ["obj"]),
  ("application/x-xz", ["xz"]),
  ("application/xhtml+xml", ["xhtml"]),
  ("application/zip", ["zip"]),
  ("audio/aac", ["aac"]),
  ("audio/flac", ["flac"]),
  ("audio/m4a", ["m4a"]),
  ("audio/mpeg", ["mp3"]),
  ("audio/ogg", ["oga", "ogg"]),
  ("audio/wav", ["wav"]),
  ("font/ttf", ["ttf"]),
  ("font/woff2", ["woff2"]),
  ("image/avif", ["avif"]),
  ("image/bmp", ["bmp"]),
  ("image/gif", ["gif"]),
  ("image/jpeg", ["jpeg", "jpg"]),
  ("image/png", ["png"]),
  ("image/svg+xml", ["svg", "svgz"]),
  ("image/tiff", ["tif", "tiff"]),
  ("image/webp", ["webp"]),
  ("image/x-icon", ["ico"]),
  ("model/gltf+json", ["gltf"]),
  ("model/gltf-binary", ["glb"]),
  ("text/cache-manifest", ["appcache"]),
  ("text/calendar", ["ics"]),
  ("text/coffeescript", ["coffee"]),
  ("text/css", ["css"]),
  ("text/csv", ["csv"]),
  ("text/html", ["htm", "html"]),
  ("text/javascript", ["js", "jsx"]),
  ("text/less", ["less"]),
  ("text/markdown", ["md"]),
  ("text/plain", ["c", "conf", "h", "ini", "log", "map", "py", "txt"]),
  ("text/x-handlebars-template", ["hbs"]),
  ("text/x-rust", ["rs"]),
  ("text/x-sass", ["sass"]),
  ("text/x-scss", ["scss"]),
  ("text/x-toml", ["toml"]),
  ("text/x-vcard", ["vcf"]),
  ("text/x-yaml", ["yaml", "yml"]),
  ("text/xml", ["xml"]),
  ("video/mp4", ["mp4"]),
  ("video/mpeg", ["mpeg"]),
  ("video/ogg", ["ogv"]),
  ("video/quicktime", ["mov"]),
  ("video/vnd.dlna.mpeg-tts", ["ts"]),
  ("video/webm", ["webm"]),
  ("video/x-msvideo", ["avi"])]

/-- The characters that a character folds to, for those that fold to ASCII; any
other stays.  The unassigned U+1DF95 counts as a sharp s. -/
def foldChar (c : Char) : List Char :=
  if 'A' ≤ c ∧ c ≤ 'Z' then [Char.ofNat (c.toNat + 32)]
  else match c.toNat with
    | 0x00DF | 0x1E9E | 0x1DF95 => ['s', 's']
    | 0x017F => ['s']
    | 0x212A => ['k']
    | 0xFB00 => ['f', 'f']
    | 0xFB01 => ['f', 'i']
    | 0xFB02 => ['f', 'l']
    | 0xFB03 => ['f', 'f', 'i']
    | 0xFB04 => ['f', 'f', 'l']
    | 0xFB05 | 0xFB06 => ['s', 't']
    | _ => [c]

/-- A text with its case folded. -/
def fold (text : String) : String := String.ofList (text.toList.flatMap foldChar)

/-- The media type that the table has for an extension of any case. -/
def lookup? (extension : String) : Option String :=
  (table.find? fun row => row.2.contains (fold extension)).map (·.1)

variable [Platform]

/-- The media type of an extension. -/
def ofExtension (extension : String) : String :=
  if gzipExtensions.contains extension then gzip
  else if otherCompressions.contains extension then octetStream
  else ((lookup? extension).or (Platform.mediaType? extension)).getD octetStream

/-- The media type of the file at a path; an extension that is not UTF-8 counts
as none. -/
def ofPath (p : Path) : String :=
  match p.extension?.bind Utf8.decode? with
  | some extension => ofExtension extension
  | none => octetStream

/-- An extension that the table lists has the media type of the table on any platform, if it
does not tell of a compression. -/
theorem ofExtension_of_lookup? {extension mediaType : String}
    (hgzip : extension ∉ gzipExtensions) (hother : extension ∉ otherCompressions)
    (h : lookup? extension = some mediaType) : ofExtension extension = mediaType := by
  rw [ofExtension, if_neg (by simpa using hgzip), if_neg (by simpa using hother), h]
  rfl

example : ofPath (Path.ofString "a/b.tar.gz/") = "application/gzip" := rfl
example : ofExtension "Kml" = "application/vnd.google-earth.kml+xml" :=
  ofExtension_of_lookup? (by decide) (by decide) (by decide +kernel)

end MediaType
end ComponentHost
