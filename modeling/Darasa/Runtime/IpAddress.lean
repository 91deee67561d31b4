import Darasa.Runtime.Regex
import Mathlib.Algebra.Group.Nat.Defs

/-!
The part of Python's `ipaddress` that tells public addresses from the others: how a text is
read as an address of either version, and the networks an address is looked up in.
-/

namespace Darasa

/-- `IPv4Address` or `IPv6Address`, by its number. -/
inductive IpAddress where
  | v4 (ip : ℕ)
  | v6 (ip : ℕ) (scopeId : Option (List Char))
  deriving DecidableEq, Repr

namespace IpAddress

/-! ## Reading an address -/

/-- `_parse_octet`. -/
def parseOctet (octet : List Char) : Option ℕ :=
  if octet.isEmpty || !octet.all Regex.asciiDigit || 3 < octet.length ||
      (octet != ['0'] && octet.head? == some '0') then
    none
  else
    let value := Nat.ofDigitChars 10 octet 0
    if 255 < value then none else some value

/-- `IPv4Address(address)`. -/
def ipv4Address (address : List Char) : Option ℕ :=
  let octets := address.splitOn '.'
  if address.contains '/' || octets.length != 4 then none
  else (octets.mapM parseOctet).map (List.foldl (fun ip octet => ip * 256 + octet) 0)

/-- `int(c, 16)`, of a character of `_HEX_DIGITS`. -/
def hexDigit? (c : Char) : Option ℕ :=
  if Regex.asciiDigit c then some (c.toNat - '0'.toNat)
  else if 'a' ≤ c && c ≤ 'f' then some (c.toNat - 'a'.toNat + 10)
  else if 'A' ≤ c && c ≤ 'F' then some (c.toNat - 'A'.toNat + 10)
  else none

/-- `_parse_hextet`; the empty text has only hexadecimal digits and is no number. -/
def parseHextet (hextet : List Char) : Option ℕ :=
  if hextet.isEmpty || 4 < hextet.length then none
  else (hextet.mapM hexDigit?).map (List.foldl (fun value digit => value * 16 + digit) 0)

/-- The hextets of an address whose last part is written as an IPv4 address. -/
def withoutIpv4Suffix (parts : List (List Char)) : Option (List (List Char)) :=
  let last := parts.getLastD []
  if last.contains '.' then
    (ipv4Address last).map fun ip =>
      parts.dropLast ++ [Nat.toDigits 16 (ip / 65536 % 65536), Nat.toDigits 16 (ip % 65536)]
  else some parts

/-- How many parts stand before and after the zeros an address leaves out, and how many
zeros these are. -/
def layout (parts : List (List Char)) : Option (ℕ × ℕ × ℕ) :=
  let skips := (List.range' 1 (parts.length - 2)).filter fun i => (parts.getD i []).isEmpty
  let leading := (parts.headD []).isEmpty
  let trailing := (parts.getLastD []).isEmpty
  match skips with
  | [] => if parts.length != 8 || leading || trailing then none else some (8, 0, 0)
  | [skipIndex] =>
    -- a colon at either end belongs to the `::`
    let partsHi := if leading then skipIndex - 1 else skipIndex
    let partsLo := parts.length - skipIndex - 1 - if trailing then 1 else 0
    if (leading && partsHi != 0) || (trailing && partsLo != 0) || 8 ≤ partsHi + partsLo then none
    else some (partsHi, partsLo, 8 - (partsHi + partsLo))
  -- at most one `::`
  | _ :: _ :: _ => none

/-- The number a run of hextets adds to. -/
def appendHextets (ip : ℕ) (hextets : List (List Char)) : Option ℕ :=
  (hextets.mapM parseHextet).map (List.foldl (fun ip hextet => ip * 65536 + hextet) ip)

/-- `_BaseV6._ip_int_from_string`. -/
def ipv6FromString (text : List Char) : Option ℕ := do
  let parts := text.splitOn ':'
  guard (3 ≤ parts.length)
  let parts ← withoutIpv4Suffix parts
  guard (parts.length ≤ 9)
  let (partsHi, partsLo, partsSkipped) ← layout parts
  let high ← appendHextets 0 (parts.take partsHi)
  appendHextets (high * 65536 ^ partsSkipped) (parts.drop (parts.length - partsLo))

/-- `IPv6Address(address)`: the number and the scope. -/
def ipv6Address (address : List Char) : Option (ℕ × Option (List Char)) :=
  if address.contains '/' then none
  else
    match address.splitOn '%' with
    | [text] => (ipv6FromString text).map fun ip => (ip, none)
    | [text, scopeId] =>
      if scopeId.isEmpty then none else (ipv6FromString text).map fun ip => (ip, some scopeId)
    | _ => none

/-- `ip_address(address)`, `none` where it raises `ValueError`. -/
def ipAddress (address : List Char) : Option IpAddress :=
  match ipv4Address address with
  | some ip => some (.v4 ip)
  | none => (ipv6Address address).map fun found => .v6 found.1 found.2

/-! ## Networks -/

/-- `self in IPv4Network(...)`: the address has the first bits of the network. -/
def inNetwork (width : ℕ) (ip : ℕ) (network : ℕ × ℕ) : Bool :=
  ip >>> (width - network.2) == network.1 >>> (width - network.2)

/-- The number of a dotted address. -/
def dotted (a b c d : ℕ) : ℕ := ((a * 256 + b) * 256 + c) * 256 + d

/-- `_IPv4Constants._private_networks`. -/
def privateNetworksV4 : List (ℕ × ℕ) :=
  [(dotted 0 0 0 0, 8), (dotted 10 0 0 0, 8), (dotted 127 0 0 0, 8), (dotted 169 254 0 0, 16),
    (dotted 172 16 0 0, 12), (dotted 192 0 0 0, 24), (dotted 192 0 0 170, 31),
    (dotted 192 0 2 0, 24), (dotted 192 168 0 0, 16), (dotted 198 18 0 0, 15),
    (dotted 198 51 100 0, 24), (dotted 203 0 113 0, 24), (dotted 240 0 0 0, 4),
    (dotted 255 255 255 255, 32)]

/-- `_IPv4Constants._private_networks_exceptions`. -/
def privateExceptionsV4 : List (ℕ × ℕ) := [(dotted 192 0 0 9, 32), (dotted 192 0 0 10, 32)]

/-- The number of an address by its first four hextets. -/
def hextets (a b c d : ℕ) : ℕ := (((a * 65536 + b) * 65536 + c) * 65536 + d) * 65536 ^ 4

/-- `_IPv6Constants._private_networks`. -/
def privateNetworksV6 : List (ℕ × ℕ) :=
  [(1, 128), (0, 128), (0xffff * 65536 ^ 2, 96), (hextets 0x64 0xff9b 1 0, 48),
    (hextets 0x100 0 0 0, 64), (hextets 0x2001 0 0 0, 23), (hextets 0x2001 0xdb8 0 0, 32),
    (hextets 0x2002 0 0 0, 16), (hextets 0xfc00 0 0 0, 7), (hextets 0xfe80 0 0 0, 10)]

/-- `_IPv6Constants._private_networks_exceptions`. -/
def privateExceptionsV6 : List (ℕ × ℕ) :=
  [(hextets 0x2001 1 0 0 + 1, 128), (hextets 0x2001 1 0 0 + 2, 128), (hextets 0x2001 3 0 0, 32),
    (hextets 0x2001 4 0x112 0, 48), (hextets 0x2001 0x20 0 0, 28), (hextets 0x2001 0x30 0 0, 28)]

/-- `_IPv6Constants._reserved_networks`. -/
def reservedNetworksV6 : List (ℕ × ℕ) :=
  [(0, 8), (hextets 0x100 0 0 0, 8), (hextets 0x200 0 0 0, 7), (hextets 0x400 0 0 0, 6),
    (hextets 0x800 0 0 0, 5), (hextets 0x1000 0 0 0, 4), (hextets 0x4000 0 0 0, 3),
    (hextets 0x6000 0 0 0, 3), (hextets 0x8000 0 0 0, 3), (hextets 0xa000 0 0 0, 3),
    (hextets 0xc000 0 0 0, 3), (hextets 0xe000 0 0 0, 4), (hextets 0xf000 0 0 0, 5),
    (hextets 0xf800 0 0 0, 6), (hextets 0xfe00 0 0 0, 9)]

/-- `IPv4Address.is_private`. -/
def isPrivateV4 (ip : ℕ) : Bool :=
  privateNetworksV4.any (inNetwork 32 ip) && !privateExceptionsV4.any (inNetwork 32 ip)

/-- `is_private`. -/
def isPrivate : IpAddress → Bool
  | v4 ip => isPrivateV4 ip
  | v6 ip _ =>
    -- `ipv4_mapped`
    if ip >>> 32 == 0xffff then isPrivateV4 (ip % 2 ^ 32)
    else privateNetworksV6.any (inNetwork 128 ip) && !privateExceptionsV6.any (inNetwork 128 ip)

/-- `is_loopback`. -/
def isLoopback : IpAddress → Bool
  | v4 ip => inNetwork 32 ip (dotted 127 0 0 0, 8)
  | v6 ip _ => ip == 1

/-- `is_link_local`. -/
def isLinkLocal : IpAddress → Bool
  | v4 ip => inNetwork 32 ip (dotted 169 254 0 0, 16)
  | v6 ip _ => inNetwork 128 ip (hextets 0xfe80 0 0 0, 10)

/-- `is_multicast`. -/
def isMulticast : IpAddress → Bool
  | v4 ip => inNetwork 32 ip (dotted 224 0 0 0, 4)
  | v6 ip _ => inNetwork 128 ip (hextets 0xff00 0 0 0, 8)

/-- `is_reserved`. -/
def isReserved : IpAddress → Bool
  | v4 ip => inNetwork 32 ip (dotted 240 0 0 0, 4)
  | v6 ip _ => reservedNetworksV6.any (inNetwork 128 ip)

/-- `is_unspecified`. -/
def isUnspecified : IpAddress → Bool
  | v4 ip => ip == 0
  | v6 ip _ => ip == 0

/-- `str(address)`, of an IPv4 address; an IPv6 address is written with colons. -/
def textV4 (ip : ℕ) : String :=
  toString (ip / 256 ^ 3 % 256) ++ "." ++ toString (ip / 256 ^ 2 % 256) ++ "." ++
    toString (ip / 256 % 256) ++ "." ++ toString (ip % 256)

end IpAddress

end Darasa
