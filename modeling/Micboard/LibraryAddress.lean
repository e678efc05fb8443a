import Micboard.LibraryText
import Mathlib.Algebra.Ring.Nat

/-! The `ipaddress` module of the Python standard library: parsing IPv4 and IPv6 addresses, their
canonical text, and the hosts of a network. The parsers accept exactly what `ipaddress.ip_address`
and `ipaddress.ip_network(strict=False)` accept and the texts are those of `str`; the only host of a
network of one IPv6 address keeps the zone of the text. -/

namespace Library.Address

open Library.Text

/-- `IPv4Address._parse_octet`: at most three digits, no leading zero, at most 255. -/
def parseOctet (octet : List Char) : Option Nat :=
  if octet = [] || !octet.all isDigit || 3 < octet.length ||
      (octet ≠ ['0'] && octet.head? = some '0') || 255 < decimalValue octet then
    none
  else
    some (decimalValue octet)

/-- `IPv4Address._ip_int_from_string`. -/
def parseIPv4 (text : List Char) : Option Nat :=
  match (text.splitOn '.').mapM parseOctet with
  | some [a, b, c, d] => some (((a * 256 + b) * 256 + c) * 256 + d)
  | _ => none

/-- `IPv4Address._string_from_ip_int`. -/
def formatIPv4 (address : Nat) : List Char :=
  join '.' [decimal (address / 256 ^ 3 % 256), decimal (address / 256 ^ 2 % 256),
    decimal (address / 256 % 256), decimal (address % 256)]

/-- `IPv6Address._parse_hextet`: at most four hexadecimal digits. -/
def parseHextet (hextet : List Char) : Option Nat :=
  if hextet.all isHexDigit && hextet.length ≤ 4 then some (hexValue hextet) else none

/-- An IPv4 suffix counts as the last two hextets. -/
def expandIPv4Suffix (parts : List (List Char)) : Option (List (List Char)) :=
  match parts.getLast? with
  | some suffix =>
    if '.' ∈ suffix then
      (parseIPv4 suffix).map fun address =>
        parts.dropLast ++ [hexadecimal (address / 65536), hexadecimal (address % 65536)]
    else
      some parts
  | none => some parts

/-- The positions of the empty inner parts: the places where the text says `::`. -/
def skipIndices (parts : List (List Char)) : List Nat :=
  (List.range parts.length).filter fun i =>
    1 ≤ i && i + 1 < parts.length && parts.getD i ['0'] = []

/-- The hextets written before and after `::`, with the number of zero hextets it stands for. -/
def hextetLayout (parts : List (List Char)) :
    Option (List (List Char) × Nat × List (List Char)) :=
  match skipIndices parts with
  | [] =>
    if parts.length = 8 && parts.head? ≠ some [] && parts.getLast? ≠ some [] then
      some (parts, 0, [])
    else
      none
  | [skip] =>
    let hi := parts.take skip
    let lo := parts.drop (skip + 1)
    -- A single colon at either end is only allowed as part of `::`.
    if (hi.head? = some [] && 1 < hi.length) || (lo.getLast? = some [] && 1 < lo.length) then none
    else
      let hi := if hi.head? = some [] then [] else hi
      let lo := if lo.getLast? = some [] then [] else lo
      if hi.length + lo.length < 8 then some (hi, 8 - (hi.length + lo.length), lo) else none
  | _ => none

def pushHextet (value hextet : Nat) : Nat := value * 65536 + hextet

/-- `IPv6Address._ip_int_from_string`. -/
def parseIPv6 (text : List Char) : Option Nat := do
  let parts := text.splitOn ':'
  if parts.length < 3 then none
  let parts ← expandIPv4Suffix parts
  if 9 < parts.length then none
  let (hi, skipped, lo) ← hextetLayout parts
  let hi ← hi.mapM parseHextet
  let lo ← lo.mapM parseHextet
  some (lo.foldl pushHextet (hi.foldl pushHextet 0 * 65536 ^ skipped))

/-- `IPv6Address._split_scope_id`: the address and its scope, if the text names one. -/
def splitScopeId (text : List Char) : Option (List Char × Option (List Char)) :=
  match text.splitOn '%' with
  | [address] => some (address, none)
  | [address, scope] => if scope = [] then none else some (address, some scope)
  | _ => none

def hextets (address : Nat) : List Nat :=
  (List.range 8).map fun i => address / 65536 ^ (7 - i) % 65536

/-- One hextet of the scan for zeros: the best run so far, the start and the length of the current one
and the index. -/
def zeroRunStep (state : (Nat × Nat) × Nat × Nat × Nat) (hextet : Nat) :
    (Nat × Nat) × Nat × Nat × Nat :=
  let (best, start, length, index) := state
  if hextet = 0 then
    let start := if length = 0 then index else start
    (if best.2 < length + 1 then (start, length + 1) else best, start, length + 1, index + 1)
  else
    (best, 0, 0, index + 1)

/-- The start and the length of the longest run of zero hextets, the first one among equals. -/
def longestZeroRun (parts : List Nat) : Nat × Nat := (parts.foldl zeroRunStep ((0, 0), 0, 0, 0)).1

/-- `IPv6Address._compress_hextets` and the join over the parts it leaves. -/
def formatHextets (parts : List Nat) : List Char :=
  let (start, length) := longestZeroRun parts
  if 1 < length then
    join ':' ((parts.take start).map hexadecimal) ++ [':', ':'] ++
      join ':' ((parts.drop (start + length)).map hexadecimal)
  else
    join ':' (parts.map hexadecimal)

/-- `IPv6Address.__str__` without the scope: an IPv4-mapped address shows its IPv4 part. -/
def formatIPv6 (address : Nat) : List Char :=
  if address / 2 ^ 32 = 0xFFFF then
    formatHextets (hextets (address / 2 ^ 32)) ++ [':'] ++ formatIPv4 (address % 2 ^ 32)
  else
    formatHextets (hextets address)

/-- `str(ipaddress.IPv6Address(int(ipaddress.IPv6Address(text))))`: the scope is dropped. A
framework that refuses longer texts than an address column holds, of 39 characters, cleans the
others so. -/
def cleanIPv6 (text : String) : Option String := do
  if '/' ∈ text.toList then none
  let (address, _) ← splitScopeId text.toList
  let address ← parseIPv6 address
  some (String.ofList (formatIPv6 address))

/-- `str(ipaddress.ip_address(text))`. -/
def ipAddress (text : String) : Option String :=
  match parseIPv4 text.toList with
  | some address => some (String.ofList (formatIPv4 address))
  | none => do
    if '/' ∈ text.toList then none
    let (address, scope) ← splitScopeId text.toList
    let address ← parseIPv6 address
    match scope with
    | none => some (String.ofList (formatIPv6 address))
    | some scope => some (String.ofList (formatIPv6 address ++ ['%'] ++ scope))

/-- The prefix length a mask has, when its ones are followed by zeros only. -/
def prefixOfMask (width mask : Nat) : Option Nat :=
  (List.range (width + 1)).find? fun length => mask = 2 ^ width - 2 ^ (width - length)

def parsePrefix (width : Nat) (text : List Char) : Option Nat :=
  if text ≠ [] && text.all isDigit && decimalValue text ≤ width then some (decimalValue text)
  else none

/-- `IPv4Network._make_netmask`: a prefix length, a netmask or a hostmask. -/
def parseNetmask (text : List Char) : Option Nat :=
  (parsePrefix 32 text).orElse fun _ => do
    let mask ← parseIPv4 text
    (prefixOfMask 32 mask).orElse fun _ => prefixOfMask 32 (2 ^ 32 - 1 - mask)

/-- The addresses `first, first + 1, …, last`. -/
def addressRange (first last : Nat) : List Nat :=
  (List.range (last + 1 - first)).map (first + ·)

/-- `IPv4Network.hosts`: the network and broadcast addresses are left out of ordinary networks. -/
def hostsIPv4 (address length : Nat) : List Nat :=
  let size := 2 ^ (32 - length)
  let network := address / size * size
  let broadcast := network + size - 1
  if length = 32 then [address]
  else if length = 31 then addressRange network broadcast
  else addressRange (network + 1) (broadcast - 1)

/-- `IPv6Network.hosts`: the subnet-router anycast address is left out of ordinary networks. -/
def hostsIPv6 (address length : Nat) : List Nat :=
  let size := 2 ^ (128 - length)
  let network := address / size * size
  let broadcast := network + size - 1
  if length = 128 then [address]
  else if length = 127 then addressRange network broadcast
  else addressRange (network + 1) broadcast

/-- The hosts of `ipaddress.ip_network(text, strict=False)` as texts, if `text` is a network. -/
def networkHosts (text : String) : Option (List String) :=
  let parts := text.toList.splitOn '/'
  let network4 : Option (List String) := do
    let (address, mask) ← match parts with
      | [address] => some (address, some 32)
      | [address, mask] => some (address, parseNetmask mask)
      | _ => none
    let address ← parseIPv4 address
    let length ← mask
    some ((hostsIPv4 address length).map fun host => String.ofList (formatIPv4 host))
  let network6 : Option (List String) := do
    let (address, mask) ← match parts with
      | [address] => some (address, some 128)
      | [address, mask] => some (address, parsePrefix 128 mask)
      | _ => none
    let (address, scope) ← splitScopeId address
    let address ← parseIPv6 address
    let length ← mask
    -- the one host of a full prefix is read from the text again, with its zone
    let zone := if length = 128 then (scope.map fun scope => '%' :: scope).getD [] else []
    some ((hostsIPv6 address length).map fun host => String.ofList (formatIPv6 host ++ zone))
  network4.orElse fun _ => network6

example : ipAddress "2001:0DB8:0:0:0:0:0:1" = some "2001:db8::1" := by decide +kernel

example : networkHosts "10.0.0.5/30" = some ["10.0.0.5", "10.0.0.6"] := by decide +kernel

example : networkHosts "FE80::1%eth0/128" = some ["fe80::1%eth0"] := by decide +kernel

end Library.Address
