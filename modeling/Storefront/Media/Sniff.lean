import Storefront.Error

/-
  Content types recognised from the first bytes of a file.

  `detect` tries a fixed list of signatures in order (programs, books, images, video, audio,
  fonts, documents, archives, text) and answers the media type of the first that matches.
  Each signature says how many bytes it needs and which bytes must stand where.  An upload
  is accepted only when the detected type is one of the image types the shop serves.
-/

namespace Storefront.Media

/-- Whether `bytes` stand in `b` from offset `off` on. -/
def hasAt (b : ByteArray) (off : Nat) (bytes : List Nat) : Bool :=
  (bytes.zipIdx off).all fun (x, i) => b[i]? |>.map (·.toNat == x) |>.getD false

/-- The codes of the characters of an ASCII text. -/
def ascii (s : String) : List Nat :=
  s.toList.map Char.toNat

/-- Whether an ASCII text stands in `b` from offset `off` on. -/
def hasTextAt (b : ByteArray) (off : Nat) (s : String) : Bool :=
  hasAt b off (ascii s)

/-- The byte at an offset, zero past the end. -/
def byteAt (b : ByteArray) (i : Nat) : Nat :=
  (b[i]?).map UInt8.toNat |>.getD 0

/-- A file type by its signature: the media type and the test of the leading bytes. -/
structure Signature where
  mime : String
  test : ByteArray → Bool

/-- The big-endian number in the `n` bytes from offset `off` on (zero past the end). -/
def bigEndianAt (b : ByteArray) (off n : Nat) : Nat :=
  (List.range n).foldl (fun acc k => acc * 256 + byteAt b (off + k)) 0

/-- The little-endian number in the `n` bytes from offset `off` on (zero past the end). -/
def littleEndianAt (b : ByteArray) (off n : Nat) : Nat :=
  (List.range n).foldr (fun k acc => acc * 256 + byteAt b (off + k)) 0

/-- A byte with ASCII letters put in upper case. -/
def upperAscii (x : Nat) : Nat :=
  if 97 ≤ x && x ≤ 122 then x - 32 else x

/-- Whether an ASCII text stands in `b` from offset `off` on, ignoring the case of letters. -/
def hasTextAtAnyCase (b : ByteArray) (off : Nat) (s : String) : Bool :=
  b.size ≥ off + s.length &&
    ((ascii s).zipIdx off).all fun (x, i) => upperAscii (byteAt b i) == upperAscii x

/-- The offset of the first byte after the blanks (tab, line feed, form feed, carriage return,
space) that start `b`. -/
def afterBlanks (b : ByteArray) : Nat :=
  ((List.range b.size).find? fun i => !([9, 10, 12, 13, 32].contains (byteAt b i))).getD b.size

/-- The offset after the byte-order marks (UTF-8, UTF-16 either way) standing from `off` on;
`fuel` bounds how many are skipped. -/
def afterMarks (b : ByteArray) (off : Nat) : Nat → Nat
  | 0 => off
  | fuel + 1 =>
    if hasAt b off [0xEF, 0xBB, 0xBF] then afterMarks b (off + 3) fuel
    else if hasAt b off [0xFE, 0xFF] || hasAt b off [0xFF, 0xFE] then afterMarks b (off + 2) fuel
    else off

/-- The brands of an ISO media file that holds its whole `ftyp` box: the major brand and the
compatible ones, four bytes each.  A box length of zero counts as held. -/
def ftypBrands (b : ByteArray) : Option (List Nat × List (List Nat)) :=
  if b.size < 16 || !hasTextAt b 4 "ftyp" then none
  else
    let len := bigEndianAt b 0 4
    if b.size < len then none
    else
      let brand (i : Nat) : List Nat := (List.range 4).map fun k => byteAt b (i + k)
      some (brand 8, (List.range ((len - 16 + 3) / 4)).map fun k => brand (16 + 4 * k))

/-- A HEIF image: major brand `heic`, or `mif1`/`msf1` listing `heic` as compatible. -/
def isHeif (b : ByteArray) : Bool :=
  match ftypBrands b with
  | some (major, compatible) =>
    major == ascii "heic" ||
      ((major == ascii "mif1" || major == ascii "msf1") && compatible.contains (ascii "heic"))
  | none => false

/-- An AVIF image: `avif` or `avis` as the major or a compatible brand. -/
def isAvif (b : ByteArray) : Bool :=
  match ftypBrands b with
  | some (major, compatible) =>
    (major :: compatible).any fun x => x == ascii "avif" || x == ascii "avis"
  | none => false

/-- The signature of a zip entry header. -/
def zipEntry : List Nat := [0x50, 0x4B, 0x03, 0x04]

/-- A zip archive whose first entry is the `mimetype` file holding `mime`, in a buffer of more
than 57 bytes. -/
def zipWithMimetype (b : ByteArray) (mime : String) : Bool :=
  b.size > 57 && hasAt b 0 zipEntry && hasTextAt b 30 ("mimetype" ++ mime)

/-- The offset, counted from `start`, of the first zip entry header lying wholly within the
`range` bytes from `start` on. -/
def entryHeaderAfter (b : ByteArray) (start range : Nat) : Option Nat :=
  let stop := min (start + range) b.size
  if start ≥ stop then none
  else (List.range (stop - start)).find? fun i => i + 4 ≤ stop - start && hasAt b (start + i) zipEntry

/-- The kinds of Office Open XML documents, `other` for one whose parts name none of them. -/
inductive OfficeKind where
  | word
  | sheet
  | slides
  | other
  deriving DecidableEq, Repr

/-- The document kind named by the zip entry name at `off`. -/
def officeKindAt (b : ByteArray) (off : Nat) : Option OfficeKind :=
  if hasTextAt b off "word/" then some .word
  else if hasTextAt b off "ppt/" then some .slides
  else if hasTextAt b off "xl/" then some .sheet
  else none

/-- The kind of Office Open XML document a zip archive holds.  The first entry's name decides
when it names a part; when it is a package entry (`[Content_Types].xml`, `_rels`, `docProps`)
the names of the third and fourth entries do, found by scanning up to 6000 bytes for each
entry header, since entries may carry extra fields. -/
def officeKind (b : ByteArray) : Option OfficeKind :=
  if !hasAt b 0 zipEntry then none
  else match officeKindAt b 30 with
  | some k => some k
  | none =>
    if !(["[Content_Types].xml", "_rels/.rels", "docProps", "_rels"].any (hasTextAt b 30)) then none
    else
      let second := (littleEndianAt b 18 4 + 49) % Nat.pow 2 32
      match entryHeaderAfter b second 6000 with
      | none => none
      | some i =>
        let third := second + i + 30
        match entryHeaderAfter b third 6000 with
        | none => none
        | some j =>
          let name := third + j + 30
          match officeKindAt b name with
          | some k => some k
          | none =>
            let fourth := name + 26
            match entryHeaderAfter b fourth 6000 with
            | none => some .other
            | some k => some ((officeKindAt b (fourth + k + 30)).getD .other)

/-- The OpenDocument kind (`text`, `spreadsheet`, `presentation`) a zip archive declares in its
leading `mimetype` entry, skipping the twelve bytes of `application/`. -/
def openDocumentKind (b : ByteArray) : Option String :=
  if hasAt b 0 zipEntry && hasTextAt b 30 "mimetype" then
    ["text", "spreadsheet", "presentation"].find? fun k =>
      hasTextAt b 50 ("vnd.oasis.opendocument." ++ k)
  else none

/-- A Zstandard stream from offset `off` on, possibly behind skippable frames (magic
`0x184D2A50` to `0x184D2A5F`, then the frame's length); `fuel` bounds the frames skipped. -/
def zstdFrom (b : ByteArray) (off : Nat) : Nat → Bool
  | 0 => false
  | fuel + 1 =>
    if hasAt b off [0x28, 0xB5, 0x2F, 0xFD] then true
    else if b.size < off + 8 then false
    else if littleEndianAt b off 4 / 16 != 0x184D2A5 then false
    else zstdFrom b (off + 8 + littleEndianAt b (off + 4) 4) fuel

/-- The brands of an MP4 video. -/
def mp4Brands : List String :=
  ["avc1", "dash", "iso2", "iso3", "iso4", "iso5", "iso6", "isom", "mmp4", "mp41", "mp42",
   "mp4v", "mp71", "MSNV", "NDAS", "NDSC", "NSDC", "NDSH", "NDSM", "NDSP", "NDSS", "NDXC",
   "NDXH", "NDXM", "NDXP", "NDXS", "F4V ", "F4P "]

/-- A leading HTML tag, ignoring case, followed by a blank or `>`. -/
def opensHtml (b : ByteArray) : Bool :=
  let start := afterBlanks b
  let tags := ["<!DOCTYPE HTML", "<HTML", "<HEAD", "<SCRIPT", "<IFRAME", "<H1", "<DIV", "<FONT",
    "<TABLE", "<A", "<STYLE", "<TITLE", "<B", "<BODY", "<BR", "<P", "<!--"]
  tags.any fun tag =>
    b.size > start + tag.length && hasTextAtAnyCase b start tag &&
      [32, 62].contains (byteAt b (start + tag.length))

/-- An XML declaration, ignoring case, after leading blanks and then byte-order marks. -/
def opensXml (b : ByteArray) : Bool :=
  hasTextAtAnyCase b (afterMarks b (afterBlanks b) b.size) "<?xml"

/-- The signatures, in the order they are tried. -/
def signatures : List Signature := [
  ⟨"application/wasm", fun b => hasAt b 0 [0x00, 0x61, 0x73, 0x6D, 0x01, 0x00, 0x00, 0x00]⟩,
  ⟨"application/x-executable", fun b => b.size > 52 && hasAt b 0 [0x7F, 0x45, 0x4C, 0x46]⟩,
  ⟨"application/vnd.microsoft.portable-executable", fun b => hasAt b 0 [0x4D, 0x5A]⟩,
  ⟨"application/java", fun b => b.size ≥ 8 && hasAt b 0 [0xCA, 0xFE, 0xBA, 0xBE] &&
    bigEndianAt b 6 2 ≥ 45⟩,
  ⟨"application/x-llvm", fun b => hasAt b 0 [0x42, 0x43]⟩,
  ⟨"application/x-mach-binary", fun b =>
    hasAt b 0 [0xFE, 0xED, 0xFA, 0xCF] || hasAt b 0 [0xFE, 0xED, 0xFA, 0xCE] ||
    hasAt b 0 [0xCF, 0xFA, 0xED, 0xFE] || hasAt b 0 [0xCE, 0xFA, 0xED, 0xFE] ||
    (b.size ≥ 8 && hasAt b 0 [0xCA, 0xFE, 0xBA, 0xBE] && bigEndianAt b 4 4 < 45)⟩,
  ⟨"application/vnd.android.dex", fun b => b.size > 36 && hasTextAt b 0 "dex\n" &&
    byteAt b 36 == 0x70⟩,
  ⟨"application/vnd.android.dey", fun b => b.size > 100 && hasTextAt b 0 "dey\n" &&
    hasTextAt b 40 "dex\n" && byteAt b 76 == 0x70⟩,
  ⟨"application/x-x509-ca-cert", fun b => b.size > 2 && hasAt b 0 [0x30, 0x82]⟩,
  ⟨"application/x-executable", fun b => b.size > 2 &&
    (hasAt b 0 [0x4C, 0x01] || hasAt b 0 [0x64, 0x86] || hasAt b 0 [0x00, 0x02])⟩,
  ⟨"application/x-x509-ca-cert", fun b => b.size > 11 && hasTextAt b 0 "-----BEGIN"⟩,
  ⟨"application/epub+zip", fun b => zipWithMimetype b "application/epub+zip"⟩,
  ⟨"application/x-mobipocket-ebook", fun b => b.size > 67 && hasTextAt b 60 "BOOKMOBI"⟩,
  ⟨"image/jpeg", fun b => hasAt b 0 [0xFF, 0xD8, 0xFF]⟩,
  ⟨"image/jp2", fun b =>
    hasAt b 0 [0x00, 0x00, 0x00, 0x0C, 0x6A, 0x50, 0x20, 0x20, 0x0D, 0x0A, 0x87, 0x0A, 0x00]⟩,
  ⟨"image/png", fun b => hasAt b 0 [0x89, 0x50, 0x4E, 0x47]⟩,
  ⟨"image/gif", fun b => hasAt b 0 [0x47, 0x49, 0x46]⟩,
  ⟨"image/webp", fun b => hasTextAt b 8 "WEBP"⟩,
  ⟨"image/x-canon-cr2", fun b =>
    (hasAt b 0 [0x49, 0x49, 0x2A, 0x00] || hasAt b 0 [0x4D, 0x4D, 0x00, 0x2A]) &&
    hasAt b 8 [0x43, 0x52, 0x02]⟩,
  ⟨"image/tiff", fun b => b.size > 9 &&
    (hasAt b 0 [0x49, 0x49, 0x2A, 0x00] || hasAt b 0 [0x4D, 0x4D, 0x00, 0x2A]) &&
    byteAt b 8 != 0x43 && byteAt b 9 != 0x52⟩,
  ⟨"image/bmp", fun b => hasAt b 0 [0x42, 0x4D]⟩,
  ⟨"image/vnd.ms-photo", fun b => hasAt b 0 [0x49, 0x49, 0xBC]⟩,
  ⟨"image/vnd.adobe.photoshop", fun b => hasTextAt b 0 "8BPS"⟩,
  ⟨"image/vnd.microsoft.icon", fun b => hasAt b 0 [0x00, 0x00, 0x01, 0x00]⟩,
  ⟨"image/heif", isHeif⟩,
  ⟨"image/avif", isAvif⟩,
  ⟨"image/jxl", fun b => (b.size > 2 && hasAt b 0 [0xFF, 0x0A]) ||
    (b.size > 12 &&
      hasAt b 0 [0x00, 0x00, 0x00, 0x0C, 0x4A, 0x58, 0x4C, 0x20, 0x0D, 0x0A, 0x87, 0x0A])⟩,
  ⟨"image/openraster", fun b => zipWithMimetype b "image/openraster"⟩,
  ⟨"image/vnd.djvu", fun b => b.size > 14 && hasTextAt b 0 "AT&TFORM" && hasTextAt b 12 "DJV"⟩,
  ⟨"video/mp4", fun b => b.size > 11 && hasTextAt b 4 "ftyp" && mp4Brands.any (hasTextAt b 8)⟩,
  ⟨"video/x-m4v", fun b => hasTextAt b 4 "ftypM4V"⟩,
  ⟨"video/x-matroska", fun b =>
    hasAt b 0 [0x1A, 0x45, 0xDF, 0xA3, 0x93, 0x42, 0x82, 0x88] && hasTextAt b 8 "matroska" ||
    hasTextAt b 31 "matroska"⟩,
  ⟨"video/webm", fun b => hasAt b 0 [0x1A, 0x45, 0xDF, 0xA3]⟩,
  ⟨"video/quicktime", fun b => b.size > 15 &&
    (hasAt b 0 [0x00, 0x00, 0x00, 0x14] && hasTextAt b 4 "ftyp" || hasTextAt b 4 "moov" ||
     hasTextAt b 4 "mdat" || hasTextAt b 12 "mdat")⟩,
  ⟨"video/x-msvideo", fun b => hasTextAt b 0 "RIFF" && hasTextAt b 8 "AVI"⟩,
  ⟨"video/x-ms-wmv", fun b =>
    hasAt b 0 [0x30, 0x26, 0xB2, 0x75, 0x8E, 0x66, 0xCF, 0x11, 0xA6, 0xD9]⟩,
  ⟨"video/mpeg", fun b => hasAt b 0 [0x00, 0x00, 0x01] && 0xB0 ≤ byteAt b 3 &&
    byteAt b 3 ≤ 0xBF⟩,
  ⟨"video/x-flv", fun b => hasAt b 0 [0x46, 0x4C, 0x56, 0x01]⟩,
  ⟨"audio/midi", fun b => hasTextAt b 0 "MThd"⟩,
  ⟨"audio/mpeg", fun b => b.size > 2 && (hasTextAt b 0 "ID3" || hasAt b 0 [0xFF, 0xFB])⟩,
  ⟨"audio/m4a", fun b => b.size > 10 && (hasTextAt b 4 "ftypM4A" || hasTextAt b 0 "M4A ")⟩,
  ⟨"audio/opus", fun b => hasTextAt b 0 "OggS" && hasTextAt b 28 "OpusHead"⟩,
  ⟨"audio/ogg", fun b => hasTextAt b 0 "OggS"⟩,
  ⟨"audio/x-flac", fun b => hasTextAt b 0 "fLaC"⟩,
  ⟨"audio/x-wav", fun b => hasTextAt b 0 "RIFF" && hasTextAt b 8 "WAVE"⟩,
  ⟨"audio/amr", fun b => b.size > 11 && hasTextAt b 0 "#!AMR\n"⟩,
  ⟨"audio/aac", fun b => hasAt b 0 [0xFF, 0xF1] || hasAt b 0 [0xFF, 0xF9]⟩,
  ⟨"audio/x-aiff", fun b => hasTextAt b 0 "FORM" && hasTextAt b 8 "AIFF"⟩,
  ⟨"audio/x-dsf", fun b => b.size > 4 && hasTextAt b 0 "DSD "⟩,
  ⟨"audio/x-ape", fun b => b.size > 4 && hasTextAt b 0 "MAC "⟩,
  ⟨"application/font-woff", fun b => hasTextAt b 0 "wOFF" && hasAt b 4 [0x00, 0x01, 0x00, 0x00]⟩,
  ⟨"application/font-woff", fun b => hasTextAt b 0 "wOF2" && hasAt b 4 [0x00, 0x01, 0x00, 0x00]⟩,
  ⟨"application/font-sfnt", fun b => hasAt b 0 [0x00, 0x01, 0x00, 0x00, 0x00]⟩,
  ⟨"application/font-sfnt", fun b => hasAt b 0 [0x4F, 0x54, 0x54, 0x4F, 0x00]⟩,
  ⟨"application/vnd.openxmlformats-officedocument.wordprocessingml.document", fun b =>
    officeKind b == some .word⟩,
  ⟨"application/vnd.openxmlformats-officedocument.spreadsheetml.sheet", fun b =>
    officeKind b == some .sheet⟩,
  ⟨"application/vnd.openxmlformats-officedocument.presentationml.presentation", fun b =>
    officeKind b == some .slides⟩,
  ⟨"application/vnd.oasis.opendocument.text", fun b => openDocumentKind b == some "text"⟩,
  ⟨"application/vnd.oasis.opendocument.spreadsheet", fun b =>
    openDocumentKind b == some "spreadsheet"⟩,
  ⟨"application/vnd.oasis.opendocument.presentation", fun b =>
    openDocumentKind b == some "presentation"⟩,
  ⟨"application/zip", fun b => hasAt b 0 [0x50, 0x4B] &&
    [0x03, 0x05, 0x07].contains (byteAt b 2) && [0x04, 0x06, 0x08].contains (byteAt b 3) ||
    hasAt b 0 [0x50, 0x4B, 0x30, 0x30, 0x50, 0x4B, 0x03, 0x04]⟩,
  ⟨"application/x-tar", fun b => b.size > 261 && hasTextAt b 257 "ustar"⟩,
  ⟨"application/vnd.rar", fun b => hasAt b 0 [0x52, 0x61, 0x72, 0x21, 0x1A, 0x07] &&
    b.size > 6 && (byteAt b 6 == 0 || byteAt b 6 == 1)⟩,
  ⟨"application/gzip", fun b => hasAt b 0 [0x1F, 0x8B, 0x08]⟩,
  ⟨"application/x-bzip2", fun b => hasTextAt b 0 "BZh"⟩,
  ⟨"application/x-7z-compressed", fun b => hasAt b 0 [0x37, 0x7A, 0xBC, 0xAF, 0x27, 0x1C]⟩,
  ⟨"application/x-xz", fun b => hasAt b 0 [0xFD, 0x37, 0x7A, 0x58, 0x5A, 0x00]⟩,
  ⟨"application/pdf", fun b => hasTextAt b 0 "%PDF"⟩,
  ⟨"application/x-shockwave-flash", fun b => hasTextAt b 0 "CWS" || hasTextAt b 0 "FWS"⟩,
  ⟨"application/rtf", fun b => hasTextAt b 0 "\x7b\\rtf"⟩,
  ⟨"application/octet-stream", fun b => b.size > 35 && hasAt b 34 [0x4C, 0x50] &&
    (hasAt b 8 [0x02, 0x00, 0x01] || hasAt b 8 [0x01, 0x00, 0x00] ||
     hasAt b 8 [0x02, 0x00, 0x02])⟩,
  ⟨"application/postscript", fun b => hasTextAt b 0 "%!"⟩,
  ⟨"application/vnd.sqlite3", fun b => hasTextAt b 0 "SQLi"⟩,
  ⟨"application/x-nintendo-nes-rom", fun b => hasAt b 0 [0x4E, 0x45, 0x53, 0x1A]⟩,
  ⟨"application/x-google-chrome-extension", fun b => hasTextAt b 0 "Cr24"⟩,
  ⟨"application/vnd.ms-cab-compressed", fun b => hasTextAt b 0 "MSCF" || hasTextAt b 0 "ISc("⟩,
  ⟨"application/vnd.debian.binary-package", fun b => hasTextAt b 0 "!<arch>\ndebian-binary"⟩,
  ⟨"application/x-unix-archive", fun b => hasTextAt b 0 "!<arch>"⟩,
  ⟨"application/x-compress", fun b => hasAt b 0 [0x1F, 0xA0] || hasAt b 0 [0x1F, 0x9D]⟩,
  ⟨"application/x-lzip", fun b => hasTextAt b 0 "LZIP"⟩,
  ⟨"application/x-rpm", fun b => b.size > 96 && hasAt b 0 [0xED, 0xAB, 0xEE, 0xDB]⟩,
  ⟨"application/dicom", fun b => hasTextAt b 128 "DICM"⟩,
  ⟨"application/zstd", fun b => zstdFrom b 0 (b.size + 1)⟩,
  ⟨"application/x-lz4", fun b => hasAt b 0 [0x04, 0x22, 0x4D, 0x18]⟩,
  ⟨"application/x-ole-storage", fun b =>
    hasAt b 0 [0xD0, 0xCF, 0x11, 0xE0, 0xA1, 0xB1, 0x1A, 0xE1]⟩,
  ⟨"application/x-cpio", fun b => hasAt b 0 [0xC7, 0x71] || hasAt b 0 [0x71, 0xC7] ||
    hasTextAt b 0 "070701"⟩,
  ⟨"text/html", opensHtml⟩,
  ⟨"text/xml", opensXml⟩,
  ⟨"text/x-shellscript", fun b => b.size > 2 && hasTextAt b 0 "#!"⟩
]

/-- The media type of the first signature that the bytes match. -/
def detect (data : ByteArray) : Option String :=
  (signatures.find? fun s => s.test data).map Signature.mime

/-- The image types an upload may have. -/
def acceptedImageTypes : List String := ["image/jpeg", "image/png", "image/jpg", "image/webp"]

/-- The media type of an accepted image, or the refusal naming what the bytes are. -/
def sniffImage (data : ByteArray) : Except Error String :=
  match detect data with
  | some mime =>
    if acceptedImageTypes.contains mime then .ok mime else .error (.unsupportedMediaType mime)
  | none => .error (.unsupportedMediaType "application/octet-stream")

end Storefront.Media
