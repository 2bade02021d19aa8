/-
Texts as bytes. The encodings are those of Unicode, ASCII and Latin-1, by all of their names. A character that an
encoding lacks is an error, unless something is written in its place.
-/
import BadgeEngine.Text.Quoted

namespace BadgeEngine.Text

/-- the order of the bytes of a unit -/
inductive ByteOrder where
  | little
  | big
  deriving DecidableEq

/-- how characters are written as bytes -/
inductive Encoding where
  | utf8
  /-- units of two or of four bytes in an order, with or without a mark in front -/
  | wide (four : Bool) (order : ByteOrder) (mark : Bool)
  /-- one byte for each of the first characters, up to a limit -/
  | narrow (name : String) (limit : Nat)

/-- the lowest bytes of a number in an order -/
def bytesIn (order : ByteOrder) (count n : Nat) : List Nat :=
  let bs := (List.range count).map fun k => n / Nat.pow 256 k % 256
  match order with
  | .little => bs
  | .big => bs.reverse

namespace Encoding

/-- the name of an encoding with its marks and capitals taken away -/
def plainName (s : String) : String :=
  let cs := s.toList.map fun c => if c.isAlphanum || c = '.' then c.toLower else '_'
  "_".intercalate ((String.ofList cs).splitOn "_" |>.filter (· ≠ ""))

def ofName? (s : String) : Option Encoding :=
  let name := plainName s
  if ["utf_8", "utf8", "u8", "utf", "utf8_ucs2", "utf8_ucs4", "cp65001"].contains name then some utf8
  else if ["utf_16", "utf16", "u16"].contains name then some (wide false .little true)
  else if ["utf_16_le", "utf_16le", "unicodelittleunmarked"].contains name then some (wide false .little false)
  else if ["utf_16_be", "utf_16be", "unicodebigunmarked"].contains name then some (wide false .big false)
  else if ["utf_32", "utf32", "u32"].contains name then some (wide true .little true)
  else if ["utf_32_le", "utf_32le"].contains name then some (wide true .little false)
  else if ["utf_32_be", "utf_32be"].contains name then some (wide true .big false)
  else if ["ascii", "646", "ansi_x3.4_1968", "ansi_x3_4_1968", "ansi_x3.4_1986", "cp367", "csascii", "ibm367",
      "iso646_us", "iso_646.irv_1991", "iso_ir_6", "us", "us_ascii"].contains name then some (narrow "ascii" 128)
  else if ["latin_1", "8859", "cp819", "csisolatin1", "ibm819", "iso8859", "iso8859_1", "iso_8859_1",
      "iso_8859_1_1987", "iso_ir_100", "l1", "latin", "latin1"].contains name then some (narrow "latin-1" 256)
  else none

def char? (e : Encoding) (c : Char) : Option (List Nat) :=
  match e with
  | utf8 => some (c.toString.toUTF8.toList.map UInt8.toNat)
  | wide true order _ => some (bytesIn order 4 c.toNat)
  | wide false order _ =>
    if c.toNat < 0x10000 then some (bytesIn order 2 c.toNat)
    else
      let n := c.toNat - 0x10000
      some (bytesIn order 2 (0xd800 + n / 0x400) ++ bytesIn order 2 (0xdc00 + n % 0x400))
  | narrow _ limit => if c.toNat < limit then some [c.toNat] else none

def front : Encoding → List Nat
  | wide four order true => bytesIn order (if four then 4 else 2) 0xfeff
  | _ => []

end Encoding

/-- why a text cannot be encoded -/
inductive EncodeError where
  | lacking (text : String)
  | noSuchHandler (text : String)

/-- the error of some characters, one after another, that an encoding lacks -/
def lackingText (name : String) (limit start : Nat) (cs : List Char) : String :=
  let which :=
    match cs with
    | [c] => " character '" ++ String.ofList (escapeCode c) ++ "' in position " ++ toString start
    | cs => " characters in position " ++ toString start ++ "-" ++ toString (start + cs.length - 1)
  "'" ++ name ++ "' codec can't encode" ++ which ++ ": ordinal not in range(" ++ toString limit ++ ")"

/-- what is written in place of a character that an encoding lacks -/
def replacement? (handler : String) (c : Char) : Option (List Nat) :=
  let bytes (s : String) : List Nat := s.toUTF8.toList.map UInt8.toNat
  match handler with
  | "ignore" => some []
  | "replace" => some (bytes "?")
  | "xmlcharrefreplace" => some (bytes ("&#" ++ toString c.toNat ++ ";"))
  | "backslashreplace" => some (bytes (String.ofList (escapeCode c)))
  | _ => none

/-- the bytes of the characters from a position on -/
def encodeFrom (e : Encoding) (handler : String) : Nat → List Char → Except EncodeError (List Nat)
  | _, [] => .ok []
  | i, c :: cs =>
    match (e.char? c).or (replacement? handler c) with
    | some bs => do return bs ++ (← encodeFrom e handler (i + 1) cs)
    | none =>
      match e with
      | .narrow name limit =>
        if ["strict", "surrogateescape", "surrogatepass"].contains handler then
          .error (.lacking (lackingText name limit i (c :: cs.takeWhile fun c => limit ≤ c.toNat)))
        else .error (.noSuchHandler ("unknown error handler name '" ++ handler ++ "'"))
      | _ => .ok []

def encode (e : Encoding) (handler s : String) : Except EncodeError (List Nat) := do
  return e.front ++ (← encodeFrom e handler 0 s.toList)

end BadgeEngine.Text
