namespace JpegLs.Host

inductive ImageFormat where
  | png
  | jpeg
  | gif
  | webP
  | pnm
  | tiff
  | tga
  | dds
  | bmp
  | ico
  | hdr
  | openExr
  | farbfeld
  | avif
  | qoi
deriving DecidableEq, Repr

namespace ImageFormat

def name : ImageFormat → String
  | png => "Png"
  | jpeg => "Jpeg"
  | gif => "Gif"
  | webP => "WebP"
  | pnm => "Pnm"
  | tiff => "Tiff"
  | tga => "Tga"
  | dds => "Dds"
  | bmp => "Bmp"
  | ico => "Ico"
  | hdr => "Hdr"
  | openExr => "OpenExr"
  | farbfeld => "Farbfeld"
  | avif => "Avif"
  | qoi => "Qoi"

/-- Letter case does not matter. -/
def ofExtension? (extension : String) : Option ImageFormat :=
  match extension.toLower with
  | "png" | "apng" => some png
  | "jpg" | "jpeg" | "jfif" => some jpeg
  | "gif" => some gif
  | "webp" => some webP
  | "pbm" | "pam" | "ppm" | "pgm" | "pnm" => some pnm
  | "tif" | "tiff" => some tiff
  | "tga" => some tga
  | "dds" => some dds
  | "bmp" => some bmp
  | "ico" => some ico
  | "hdr" => some hdr
  | "exr" => some openExr
  | "ff" => some farbfeld
  | "avif" => some avif
  | "qoi" => some qoi
  | _ => none

/-! First bytes.  A position that may hold any byte has none in the pattern. -/

def exactly (bytes : List UInt8) : List (Option UInt8) :=
  bytes.map some

def anyBytes (count : Nat) : List (Option UInt8) :=
  List.replicate count none

def ascii (text : String) : List (Option UInt8) :=
  exactly (text.toList.map fun c => UInt8.ofNat c.toNat)

def signatures : List (List (Option UInt8) × ImageFormat) :=
  [(exactly [0x89, 0x50, 0x4E, 0x47, 0x0D, 0x0A, 0x1A, 0x0A], png),
    (exactly [0xFF, 0xD8, 0xFF], jpeg),
    (ascii "GIF89a", gif),
    (ascii "GIF87a", gif),
    (ascii "RIFF" ++ anyBytes 4 ++ ascii "WEBP", webP),
    (exactly [0x4D, 0x4D, 0x00, 0x2A], tiff),
    (exactly [0x49, 0x49, 0x2A, 0x00], tiff),
    (ascii "DDS ", dds),
    (ascii "BM", bmp),
    (exactly [0x00, 0x00, 0x01, 0x00], ico),
    (ascii "#?RADIANCE", hdr),
    (exactly [0x00, 0x00] ++ anyBytes 2 ++ ascii "ftypavif", avif),
    (exactly [0x76, 0x2F, 0x31, 0x01], openExr),
    (ascii "qoif", qoi),
    (ascii "P1", pnm),
    (ascii "P2", pnm),
    (ascii "P3", pnm),
    (ascii "P4", pnm),
    (ascii "P5", pnm),
    (ascii "P6", pnm),
    (ascii "P7", pnm),
    (ascii "farbfeld", farbfeld)]

def startsWith (bytes : List UInt8) (pattern : List (Option UInt8)) : Bool :=
  pattern.length ≤ bytes.length &&
    (pattern.zip bytes).all fun (wanted, byte) => wanted.all (· == byte)

def guess? (bytes : List UInt8) : Option ImageFormat :=
  (signatures.find? fun (pattern, _) => startsWith bytes pattern).map (·.2)

end ImageFormat

end JpegLs.Host
