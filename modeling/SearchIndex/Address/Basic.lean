import SearchIndex.Address.Host
import SearchIndex.Decimal.Layout

/-!
# Addresses

An address has a scheme, perhaps an authority with a host, a path, and perhaps a query and a fragment.
All parts are held in their standard form, so that the text of an address is its parts with marks
between. Requests go to addresses of the web whose text can be sent.
-/

namespace SearchIndex

/-- The name of a user and perhaps a password, with percent codes. -/
structure Address.Login where
  name : List Char
  password : Option (List Char)
deriving DecidableEq, Repr

/-- Where an address is to be found. -/
structure Address.Authority where
  login : Option Address.Login
  host : Option Address.Host
  /-- The port, unless the scheme implies it. -/
  port : Option Nat
deriving DecidableEq, Repr

/-- An absolute address. -/
structure Address where
  scheme : List Char
  authority : Option Address.Authority
  /-- The path; if it is not empty, it starts with a slash or there is no authority. -/
  path : List Char
  query : Option (List Char)
  fragment : Option (List Char)
deriving DecidableEq, Repr

namespace Address

/-! ## Text -/

/-- An optional part behind its mark. -/
def marked (mark : Char) : Option (List Char) → List Char
  | some part => mark :: part
  | none => []

/-- A login in front of a host. -/
def Login.text (l : Login) : List Char :=
  l.name ++ marked ':' l.password ++ ['@']

/-- An authority as it stands in an address. -/
def Authority.text (a : Authority) : List Char :=
  (a.login.map Login.text).getD [] ++ (a.host.map Host.text).getD [] ++
    marked ':' (a.port.map Decimal.naturalDigits)

/-- What stands between the scheme and the path. -/
def beforePath (a : Address) : List Char :=
  match a.authority with
  | some authority => '/' :: '/' :: authority.text
  -- Without an authority two slashes would start one.
  | none => if ['/', '/'].isPrefixOf a.path then ['/', '.'] else []

/-- The text of an address. -/
def text (a : Address) : String :=
  String.ofList (a.scheme ++ ':' :: a.beforePath ++ a.path ++ marked '?' a.query ++
    marked '#' a.fragment)

/-! ## Logins -/

/-- A login can be sent apart from the address: its percent codes are those of a text. -/
def Login.isReadable (l : Login) : Bool :=
  match decodeText? l.name with
  | none => false
  | some [] => l.password.any fun password => (decodeText? password).isSome
  | some _ => true

/-- The address without a login that is sent apart from it. -/
def withoutLogin (a : Address) : Address :=
  { a with authority := a.authority.map fun authority =>
      { authority with login := authority.login.filter fun l => !l.isReadable } }

/-! ## What can be sent -/

/-- Why no request goes to an address. -/
inductive Refusal where
  /-- It is no address of the web. -/
  | otherScheme
  /-- Its text cannot be sent. -/
  | badText
deriving DecidableEq, Repr

/-- The refusal in words. -/
def Refusal.reason : Refusal → String
  | .otherScheme => "URL scheme is not allowed"
  | .badText => "Parsed Url is not a valid Uri"

/-- The host of an address. -/
def host? (a : Address) : Option Host :=
  a.authority.bind Authority.host

/-- The schemes of the web. -/
def webSchemes : List String :=
  ["http", "https"]

/-- A character of a host that cannot be sent. -/
def isUnsendable (c : Char) : Bool :=
  c == '"' || c.toNat == 0x60 || c == '\x7b' || c == '\x7d'

/-- The length of the longest text that can be sent. -/
def maxLength : Nat := 65534

/-- Why no request goes to the address, unless requests do. -/
def refusal? (a : Address) : Option Refusal :=
  match a.host? with
  | none => some .otherScheme
  | some host =>
    if !webSchemes.contains (String.ofList a.scheme) then some .otherScheme
    else if host.text.any isUnsendable || maxLength < a.text.length then some .badText
    else none

end Address

end SearchIndex
