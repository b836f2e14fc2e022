import SearchIndex.Address.Basic
import SearchIndex.Address.Path

/-!
# Reading addresses

Schemes of networks always name a host, for files the host may be left out, and all other schemes have
names of their own in place of hosts and may do without an authority. Where there is one, it ends at
the first slash, which for networks and files may lean either way.
-/

namespace SearchIndex.Address

/-! ## Schemes -/

/-- What kind of addresses a scheme has. -/
inductive SchemeKind where
  /-- Addresses on a network, with the port that the scheme implies. -/
  | network (port : Nat)
  | file
  | foreign
deriving DecidableEq, Repr

/-- The schemes of networks, with the ports that they imply. -/
def networkSchemes : List (String × Nat) :=
  [("http", 80), ("https", 443), ("ftp", 21), ("ws", 80), ("wss", 443)]

namespace SchemeKind

/-- The kind of a scheme. -/
def ofScheme (scheme : List Char) : SchemeKind :=
  if String.ofList scheme = "file" then .file
  else
    match networkSchemes.lookup (String.ofList scheme) with
    | some port => .network port
    | none => .foreign

/-- The port that the scheme implies. -/
def port? : SchemeKind → Option Nat
  | .network port => some port
  | _ => none

/-- A slash in addresses of the kind. -/
def isSlash : SchemeKind → Char → Bool
  | .foreign, c => c == '/'
  | _, c => c == '/' || c == '\\'

/-- Reads a host of the kind. -/
def readHost : SchemeKind → List Char → Except Problem Host
  | .foreign, text => Host.ofForeign text
  | _, text => Host.ofText text

end SchemeKind

/-- Drops leading and trailing controls and spaces, and tabs and line breaks everywhere. -/
def clean (cs : List Char) : List Char :=
  let outer (c : Char) : Bool := c.toNat ≤ 0x20
  ((cs.dropWhile outer).reverse.dropWhile outer).reverse.filter fun c =>
    c != '\t' && c != '\n' && c != '\r'

/-- The scheme of an address in lower case, and what follows its colon. -/
def splitScheme? (cs : List Char) : Option (List Char × List Char) :=
  let inScheme (c : Char) : Bool := c.isAlphanum || c == '+' || c == '-' || c == '.'
  if cs.head?.any Char.isAlpha then
    match cs.span inScheme with
    | (scheme, ':' :: rest) => some (scheme.map Char.toLower, rest)
    | _ => none
  else none

/-! ## Authorities -/

/-- What follows the last of a character, if there is one, and what precedes it. -/
def splitLast? (mark : Char) (cs : List Char) : Option (List Char × List Char) :=
  match cs.reverse.span (· != mark) with
  | (behind, _ :: before) => some (before.reverse, behind.reverse)
  | (_, []) => none

/-- The login in front of a host. A name without a password may have a colon behind it. -/
def Login.ofText? (text : List Char) : Option Login :=
  let (name, rest) := text.span (· != ':')
  let name := encode specialInLogin name
  match rest with
  | _ :: c :: password => some ⟨name, some (encode specialInLogin (c :: password))⟩
  | _ => if name.isEmpty then none else some ⟨name, none⟩

/-- Parts a text at the first colon that is not in brackets, which is left to what follows. -/
def splitHost (inBrackets : Bool) : List Char → List Char × List Char
  | [] => ([], [])
  | c :: rest =>
    if c = ':' && !inBrackets then ([], c :: rest)
    else
      let (host, behind) := splitHost (if c = '[' then true else inBrackets && c != ']') rest
      (c :: host, behind)

/-- The number of decimal digits. -/
def numberOf (digits : List Char) : Nat :=
  digits.foldl (fun n c => 10 * n + (c.toNat - '0'.toNat)) 0

/-- Reads the port behind a colon, and gives what follows it. No port is the one that is implied. -/
def readPort (implied : Option Nat) (text : List Char) :
    Except Problem (Option Nat × List Char) :=
  let (digits, rest) := text.span Char.isDigit
  let number := numberOf digits
  if 0x10000 ≤ number then .error .badPort
  -- A slash of any direction may follow.
  else if rest.head?.any (· != '\\') then .error .badPort
  else .ok (if digits.isEmpty || implied == some number then none else some number, rest)

/-- Reads a host and perhaps a port behind it, and gives what follows. Only foreign schemes do without
a host, and not next to a login or a port. -/
def readHostAndPort (kind : SchemeKind) (login : Option Login) (text : List Char) :
    Except Problem (Authority × List Char) :=
  let (host, behind) := splitHost false text
  if host.isEmpty then
    if kind = .foreign ∧ login.isNone ∧ behind.isEmpty then .ok (⟨none, none, none⟩, [])
    else .error .emptyHost
  else
    match kind.readHost host, behind with
    | .error problem, _ => .error problem
    | .ok host, _ :: port =>
      (readPort kind.port? port).map fun (port, rest) => (⟨login, some host, port⟩, rest)
    | .ok host, [] => .ok (⟨login, some host, none⟩, [])

/-- Reads an authority behind its two slashes, and gives what follows. -/
def readAuthority (kind : SchemeKind) (text : List Char) :
    Except Problem (Authority × List Char) :=
  let (block, behind) := text.span fun c => !kind.isSlash c && c != '?' && c != '#'
  let read (login : Option Login) (host : List Char) : Except Problem (Authority × List Char) :=
    (readHostAndPort kind login host).map fun (authority, rest) => (authority, rest ++ behind)
  match splitLast? '@' block with
  | none => read none block
  | some (login, host) =>
    -- Nothing at all around the mark of a login is no way to leave out the host.
    if login.isEmpty && host.isEmpty && !behind.isEmpty then .error .emptyHost
    else read (Login.ofText? login) host

/-! ## What follows the authority -/

/-- The query and the fragment of what follows a path. -/
def readTail (kind : SchemeKind) (tail : List Char) : Option (List Char) × Option (List Char) :=
  let special (c : Char) : Bool := specialInQuery c || (kind != .foreign && c == '\'')
  let (query, fragment) := tail.span (· != '#')
  (query.head?.map fun _ => encode special query.tail,
    fragment.head?.map fun _ => encode specialInFragment fragment.tail)

/-- The address of a path with what follows it. -/
def assemble (kind : SchemeKind) (scheme : List Char) (authority : Option Authority)
    (path : List Char → List Char) (text : List Char) : Address :=
  let (before, tail) := text.span fun c => c != '?' && c != '#'
  let (query, fragment) := readTail kind tail
  ⟨scheme, authority, path before, query, fragment⟩

/-- A path in standard form. Only foreign schemes have an empty one. -/
def pathOf (kind : SchemeKind) (text : List Char) : List Char :=
  if kind = .foreign ∧ text = [] then []
  else Path.text (Path.resolve false [] (Path.segments kind.isSlash text))

/-- A path of a foreign scheme without an authority. It has segments only behind a slash. -/
def loosePath (text : List Char) : List Char :=
  if text.head? = some '/' then pathOf .foreign text else encode (fun _ => false) text

/-! ## Files -/

/-- The segments of the path of a file. -/
def fileSegments (text : List Char) : List Segment :=
  Path.resolve true [] (Path.segments (SchemeKind.isSlash .file) text)

/-- The path of a file has no empty segments at its start. -/
def filePath (text : List Char) : List Char :=
  match (fileSegments text).dropWhile List.isEmpty with
  | [] => ['/']
  | segments => Path.text segments

/-- The host of a file. The own one is left out. -/
def readFileHost (text : List Char) : Except Problem (Option Host) :=
  if text.isEmpty then .ok none
  else
    (Host.ofText text).map fun host =>
      if host = .name "localhost".toList then none else some host

/-- The address of a file behind its scheme. A drive belongs to no host. -/
def readFile (scheme text : List Char) : Except Problem Address :=
  let isSlash := SchemeKind.isSlash .file
  let whole (host : Option Host) (text : List Char) : Address :=
    assemble .file scheme (some ⟨none, host, none⟩) filePath text
  match text with
  | a :: b :: rest =>
    if isSlash a && isSlash b then
      let (host, behind) := rest.span fun c => !isSlash c && c != '?' && c != '#'
      if Segment.isDrive host then .ok (whole none rest)
      else
        (readFileHost host).map fun host =>
          let onDrive := (fileSegments (behind.takeWhile fun c => c != '?' && c != '#')).head?.any
            Segment.isDrive
          whole (if onDrive then none else host) behind
    else .ok (whole none text)
  | _ => .ok (whole none text)

/-! ## Addresses -/

/-- Reads an address from its scheme and what is behind it. -/
def ofScheme (scheme rest : List Char) : Except Problem Address :=
  let kind := SchemeKind.ofScheme scheme
  let withAuthority (rest : List Char) : Except Problem Address :=
    (readAuthority kind rest).map fun (authority, rest) =>
      assemble kind scheme (some authority) (pathOf kind) rest
  match kind, rest with
  | .file, _ => readFile scheme rest
  | .network _, _ => withAuthority (rest.dropWhile kind.isSlash)
  | .foreign, '/' :: '/' :: rest => withAuthority rest
  | .foreign, _ => .ok (assemble kind scheme none loosePath rest)

/-- Reads an absolute address. -/
def ofText (text : String) : Except Problem Address :=
  match splitScheme? (clean text.toList) with
  | some (scheme, rest) => ofScheme scheme rest
  | none => .error .relative

end SearchIndex.Address
