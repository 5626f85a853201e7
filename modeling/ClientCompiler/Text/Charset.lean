import ClientCompiler.Text.Blank
import ClientCompiler.Text.Utf8

/-!
The ways to write text as octets that the type of a content may name. Octets that stand for nothing
read as a mark. Only the ways that are listed here are told apart: text in any other one is read as
UTF-8, as if no way were named.
-/

namespace ClientCompiler.Text

inductive Charset where
  | utf8
  | utf8WithMark
  | utf16 (bigEndian : Bool)
  | utf16WithMark
  | ascii
  | latin
  | windowsLatin
  deriving DecidableEq, Repr

namespace Charset

def plainName (name : List Char) : List Char :=
  let kept (c : Char) : Bool := c.isAlphanum || c = '.'
  let s := (lowerAscii name).map fun c => if kept c then c else ' '
  (splitOn ' ' s).filter (!·.isEmpty) |>.intersperse ['_'] |>.flatten

def names : List (Charset × List String) := [
  (.utf8, ["utf_8", "utf8", "u8", "utf", "cp65001", "utf8_ucs2", "utf8_ucs4"]),
  (.utf8WithMark, ["utf_8_sig"]),
  (.utf16 false, ["utf_16_le", "utf_16le", "unicodelittleunmarked"]),
  (.utf16 true, ["utf_16_be", "utf_16be", "unicodebigunmarked"]),
  (.utf16WithMark, ["utf_16", "utf16", "u16"]),
  (.ascii, ["ascii", "us_ascii", "us", "646", "iso646_us", "iso_ir_6", "cp367", "ibm367", "csascii",
    "ansi_x3.4_1968", "ansi_x3_4_1968", "ansi_x3.4_1986", "iso_646.irv_1991"]),
  (.latin, ["latin_1", "latin1", "latin", "l1", "iso_8859_1", "iso8859_1", "iso8859", "8859", "cp819",
    "ibm819", "iso_ir_100", "iso_8859_1_1987", "csisolatin1"]),
  (.windowsLatin, ["cp1252", "windows_1252", "1252"])]

def ofName? (name : List Char) : Option Charset :=
  (names.find? fun (_, spellings) => spellings.contains (String.ofList (plainName name))).map Prod.fst

/-- The characters of the octets from 128 to 159 on one kind of machine. -/
def windowsSigns : List Char := "€\ufffd‚ƒ„…†‡ˆ‰Š‹Œ\ufffdŽ\ufffd\ufffd‘’“”•–—˜™š›œ\ufffdžŸ".toList

def fromUnits : List Nat → List Char
  | [] => []
  | [n] => [if n.isValidChar then Char.ofNat n else replacement]
  | n :: m :: rest =>
    if 0xD800 ≤ n && n < 0xDC00 && 0xDC00 ≤ m && m < 0xE000 then
      Char.ofNat (0x10000 + (n - 0xD800) * 1024 + (m - 0xDC00)) :: fromUnits rest
    else (if n.isValidChar then Char.ofNat n else replacement) :: fromUnits (m :: rest)

/-- Numbers of two octets each. An octet too many is half of a number that stands for nothing. -/
def units (bigEndian : Bool) : List UInt8 → List Nat
  | [] => []
  | [_] => [0xD800]
  | a :: b :: rest =>
    (if bigEndian then a.toNat * 256 + b.toNat else b.toNat * 256 + a.toNat) :: units bigEndian rest

def decode (octets : List UInt8) : Charset → List Char
  | .utf8 => decodeAny octets
  | .utf8WithMark => match octets with
    | 0xEF :: 0xBB :: 0xBF :: rest => decodeAny rest
    | _ => decodeAny octets
  | .utf16 bigEndian => fromUnits (units bigEndian octets)
  | .utf16WithMark => match octets with
    | 0xFE :: 0xFF :: rest => fromUnits (units true rest)
    | 0xFF :: 0xFE :: rest => fromUnits (units false rest)
    | _ => fromUnits (units false octets)
  | .ascii => octets.map fun a => if a.toNat < 0x80 then Char.ofNat a.toNat else replacement
  | .latin => octets.map fun a => Char.ofNat a.toNat
  | .windowsLatin => octets.map fun a =>
    (if 0x80 ≤ a.toNat then windowsSigns[a.toNat - 0x80]? else none).getD (Char.ofNat a.toNat)

def named? (part : List Char) : Option (List Char) :=
  let (key, value) := part.span (· ≠ '=')
  if lowerAscii (trim key) = "charset".toList then some (trim (value.drop 1)) else none

/-- The way to write text that the type of a content names, which is UTF-8 where it names none that is
known. -/
def ofContentType (contentType : List Char) : Charset :=
  match (splitOn ';' contentType).findSome? named? with
  | some name => (ofName? name).getD .utf8
  | none => .utf8

end Charset
end ClientCompiler.Text
