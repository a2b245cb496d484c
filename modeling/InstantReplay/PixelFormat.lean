import InstantReplay.Text.Numeral

/-!
# Pixel formats

A pixel format is a code of four characters, packed into a word with the first character lowest.
A modifier says how the pixels of a buffer are laid out.
-/

namespace InstantReplay

/-- A pixel format code. -/
structure PixelFormat where
  code : UInt32
  deriving DecidableEq

namespace PixelFormat

/-- The code of four characters. -/
def ofChars (a b c d : Char) : PixelFormat :=
  ⟨UInt32.ofNat (a.toNat + 256 * b.toNat + 65536 * c.toNat + 16777216 * d.toNat)⟩

/-- Sixteen bits per pixel. -/
def rgb565 : PixelFormat := ofChars 'R' 'G' '1' '6'

/-- A plane of brightness, then one of colour at half resolution. -/
def nv12 : PixelFormat := ofChars 'N' 'V' '1' '2'

/-- Bytes per pixel of the first plane; four unless the format is known to differ. -/
def bytesPerPixel (format : PixelFormat) : Nat :=
  if format = rgb565 then 2 else if format = nv12 then 1 else 4

/-- The four bytes of the code, lowest first. -/
def bytes (format : PixelFormat) : List UInt8 :=
  [format.code.toUInt8, (format.code >>> 8).toUInt8, (format.code >>> 16).toUInt8,
    (format.code >>> 24).toUInt8]

/-- Whether a byte is a visible ASCII character or a blank. -/
def isVisible (byte : UInt8) : Bool := 32 ≤ byte.toNat && byte.toNat ≤ 126

/-- The name of the format: its characters without trailing blanks if all are visible, else the
code in hexadecimal. -/
def name (format : PixelFormat) : String :=
  if format.bytes.all isVisible then
    let chars := format.bytes.map fun byte => Char.ofNat byte.toNat
    String.ofList (chars.reverse.dropWhile (· = ' ')).reverse
  else "0x" ++ Numeral.hexPadded 8 format.code.toNat

end PixelFormat

/-- A layout modifier of a buffer. -/
abbrev LayoutModifier := UInt64

namespace LayoutModifier

/-- Rows of pixels one after the other. -/
def linear : LayoutModifier := 0

/-- No modifier is known. -/
def unknown : LayoutModifier := 0x00ffffffffffffff

/-- Whether the pixels can be read row by row. Where no modifier is known they can. -/
def isLinear (modifier : LayoutModifier) : Bool := modifier == linear || modifier == unknown

end LayoutModifier

end InstantReplay
