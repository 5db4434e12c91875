/-
RecordStore.Url.Host -- the host of a URL

Brackets hold an address of eight pieces.  In URLs of the well-known schemes any
other host is a domain name, or an address of four bytes when it ends in a
number.  In all other URLs the host is taken as it is written.
-/
import RecordStore.Url.Address
import RecordStore.Url.Domain
import RecordStore.Url.Fault
import RecordStore.Url.Percent

namespace RecordStore.Url

set_option autoImplicit false

open RecordStore.Text

inductive Host
  | domain (name : String)
  | ipv4 (address : Nat)
  | ipv6 (pieces : List Nat)
  deriving DecidableEq

namespace Host

/-- The host as it stands in a URL. -/
def text : Host → String
  | .domain name => name
  | .ipv4 address => String.ofList (ipv4Chars address)
  | .ipv6 pieces => String.ofList ('[' :: ipv6Chars pieces ++ [']'])

/-- What stands after an opening bracket. -/
def readBracketed (cs : List Char) : Except Fault Host :=
  if cs.getLast? = some ']' then
    match readIpv6? cs.dropLast with
    | some pieces => .ok (.ipv6 pieces)
    | none => .error .invalidIpv6
  else .error .invalidIpv6

/-- A domain name, or an address that is written like one. -/
def readDomain (cs : List Char) : Except Fault Host :=
  let bytes := percentDecode cs
  match (String.fromUTF8? ⟨bytes.toArray⟩).bind domainToAscii with
  | none => .error .invalidDomainName
  | some name =>
    let parts := splitAt (· == '.') name.toList
    if name.isEmpty then .error .emptyHost
    else if endsInNumber parts then
      match readIpv4? parts with
      | some address => .ok (.ipv4 address)
      | none => .error .invalidIpv4
    else .ok (.domain name)

/-- Characters that no host may hold. -/
def isForbidden (c : Char) : Bool :=
  ['\t', '\n', '\r', ' ', '#', '/', ':', '<', '>', '?', '@', '[', '\\', ']', '^', '|'].contains c
    || c.toNat == 0

/-- The host of a URL of a well-known scheme. -/
def readSpecial : List Char → Except Fault Host
  | '[' :: rest => readBracketed rest
  | cs => readDomain cs

/-- The host of any other URL. -/
def readOpaque : List Char → Except Fault Host
  | '[' :: rest => readBracketed rest
  | cs =>
    if cs.any isForbidden then .error .invalidDomainCharacter
    else .ok (.domain (String.ofList (percentEncode .controls cs)))

end Host

end RecordStore.Url
