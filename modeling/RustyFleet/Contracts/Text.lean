import RustyFleet.Contracts.Violation
import RustyFleet.Support.Results
import RustyFleet.Support.Words

namespace RustyFleet

abbrev Bytes := List UInt8

/-- The digest crate: SHA-256 in lower-case hexadecimal. -/
class Sha256Hex where
  sha256Hex : Bytes → String

export Sha256Hex (sha256Hex)

/-- A domain and the values it separates, each closed by a zero byte. -/
def separatedBytes (domain : String) (values : List String) : Bytes :=
  (domain :: values).flatMap fun value => value.toUTF8.toList ++ [0]

/-- `u64::to_le_bytes`. -/
def u64LeBytes (value : Nat) : Bytes := (List.range 8).map fun index => UInt8.ofNat (value / 256 ^ index)

/-- `i64::to_le_bytes`, in two's complement. -/
def i64LeBytes (value : Int) : Bytes := u64LeBytes (value % 2 ^ 64).toNat

def trim (text : List Char) : List Char :=
  ((text.dropWhile isWhitespace).reverse.dropWhile isWhitespace).reverse

def trimmed (value : String) : List Char := trim value.toList

def splitWhitespace (text : List Char) : List (List Char) := Words.words isWhitespace text

def asciiLower (c : Char) : Char := if asciiUppercase c then Char.ofNat (c.toNat + 32) else c

def eqIgnoreAsciiCase (left right : List Char) : Bool := left.map asciiLower == right.map asciiLower

def asciiUpper (c : Char) : Char := if asciiLowercase c then Char.ofNat (c.toNat - 32) else c

def toAsciiLowercase (value : String) : String := String.ofList (value.toList.map asciiLower)

def toAsciiUppercase (value : String) : String := String.ofList (value.toList.map asciiUpper)

end RustyFleet
