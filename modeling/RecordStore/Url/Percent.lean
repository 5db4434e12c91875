/-
RecordStore.Url.Percent -- bytes written as a percent sign and two digits

Each part of a URL has a set of characters that must not stand in it as they
are.  These characters, the controls and everything outside ASCII are written as
the bytes of their encoding.  Decoding takes a percent sign before two digits as
a byte and leaves all else alone.
-/
import RecordStore.Text.Hex

namespace RecordStore.Url

set_option autoImplicit false

open RecordStore.Text

/-- A set of ASCII characters. -/
abbrev CharSet := Char → Bool

namespace CharSet

/-- Controls, and everything that is not ASCII. -/
def controls : CharSet := fun c => c.toNat < 0x20 || 0x7F ≤ c.toNat

/-- A set with some more characters. -/
def adding (set : CharSet) (more : List Char) : CharSet := fun c => set c || more.contains c

def fragment : CharSet := controls.adding [' ', '"', '<', '>', Char.ofNat 0x60]

def path : CharSet := fragment.adding ['#', '?', '\x7b', '\x7d']

def userinfo : CharSet := path.adding ['/', ':', ';', '=', '@', '[', '\\', ']', '^', '|']

def query : CharSet := controls.adding [' ', '"', '#', '<', '>']

def specialQuery : CharSet := query.adding [Char.ofNat 0x27]

end CharSet

/-- A byte as a percent sign and two digits. -/
def percentByte (b : UInt8) : List Char :=
  '%' :: (Hex.ofByte b).map Char.toUpper

/-- A character as it stands in a part of a URL. -/
def encodeChar (set : CharSet) (c : Char) : List Char :=
  if set c then (String.singleton c).toUTF8.toList.flatMap percentByte else [c]

def percentEncode (set : CharSet) (cs : List Char) : List Char :=
  cs.flatMap (encodeChar set)

/-- The bytes that a text denotes. -/
def percentDecode : List Char → List UInt8
  | [] => []
  | '%' :: a :: b :: rest =>
    match Hex.value? a, Hex.value? b with
    | some hi, some lo => UInt8.ofNat (hi * 16 + lo) :: percentDecode rest
    | _, _ => 0x25 :: percentDecode (a :: b :: rest)
  | c :: rest => (String.singleton c).toUTF8.toList ++ percentDecode rest

end RecordStore.Url
