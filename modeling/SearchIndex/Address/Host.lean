import SearchIndex.Address.Ipv6
import SearchIndex.Address.Name
import SearchIndex.Address.Percent

/-!
# Hosts

A host is a name or a number. What a number looks like is settled by the text alone, so a name whose
last label is a number is refused unless all of it is one.
-/

namespace SearchIndex.Address

/-! ## Problems with addresses -/

/-- Why a text is no address. -/
inductive Problem where
  /-- It does not start with a scheme. -/
  | relative
  | emptyHost
  /-- The host is no name. -/
  | badName
  /-- The host has a character that no host has. -/
  | badCharacter
  /-- The host is meant as four bytes, but is no such number. -/
  | badIpv4
  /-- The host is in brackets, but is no number of eight pieces. -/
  | badIpv6
  | badPort
deriving DecidableEq, Repr

/-- The problem in words. -/
def Problem.reason : Problem → String
  | .relative => "relative URL without a base"
  | .emptyHost => "empty host"
  | .badName => "invalid international domain name"
  | .badCharacter => "invalid domain character"
  | .badIpv4 => "invalid IPv4 address"
  | .badIpv6 => "invalid IPv6 address"
  | .badPort => "invalid port number"

/-! ## Hosts -/

/-- A host. -/
inductive Host where
  | name (text : List Char)
  /-- A number of four bytes. -/
  | ipv4 (number : Nat)
  /-- A number of eight pieces. -/
  | ipv6 (pieces : List Nat)
deriving DecidableEq, Repr

namespace Host

/-- The standard form of a host. -/
def text : Host → List Char
  | .name text => text
  | .ipv4 number => (Ipv4.text number).toList
  | .ipv6 pieces => '[' :: (Ipv6.text pieces).toList ++ [']']

/-- Reads a number between brackets from what is behind the opening one. -/
def ofBracketed (text : List Char) : Except Problem Host :=
  if text.getLast? = some ']' then
    match Ipv6.ofText? text.dropLast with
    | some pieces => .ok (.ipv6 pieces)
    | none => .error .badIpv6
  else .error .badIpv6

/-- Reads a host in ASCII. -/
def ofAscii (ascii : List Char) : Except Problem Host :=
  if ascii.isEmpty then .error .emptyHost
  else if Ipv4.isMeant ascii then
    match Ipv4.ofName? ascii with
    | some number => .ok (.ipv4 number)
    | none => .error .badIpv4
  else .ok (.name ascii)

/-- Reads a host on a network. -/
def ofText (text : List Char) : Except Problem Host :=
  match text with
  | '[' :: rest => ofBracketed rest
  | _ =>
    match (decodeText? text).bind asciiName? with
    | some ascii => ofAscii ascii
    | none => .error .badName

/-- A character that no host has, whatever its scheme takes hosts for. -/
def isForbidden (c : Char) : Bool :=
  c == '\x00' || c == '\t' || c == '\n' || c == '\r' || c == ' ' || c == '#' || c == '/' ||
    c == ':' || c == '<' || c == '>' || c == '?' || c == '@' || c == '[' || c == '\\' || c == ']' ||
    c == '^' || c == '|'

/-- Reads a host of a scheme for which hosts are names of its own. -/
def ofForeign (text : List Char) : Except Problem Host :=
  match text with
  | '[' :: rest => ofBracketed rest
  | _ =>
    if text.any isForbidden then .error .badCharacter
    else .ok (.name (encode (fun _ => false) text))

end Host

end SearchIndex.Address
