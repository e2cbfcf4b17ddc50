import MemoryShell.Address.Internet
import MemoryShell.Text.Literal
import MemoryShell.Text.Lowercase

/-!
The parts of a URL that name a server: its authority and its path. Leading control characters and
spaces and every tab and line break are passed over. A scheme starts with a letter; an authority
follows two slashes and reaches to the next slash, question mark or hash; the query and the fragment
do not count.
-/

set_option autoImplicit false

namespace MemoryShell

/-- Why a text is no URL. -/
inductive Url.Error
  | brackets
  | futureAddress
  | versionFourInBrackets
  | notAddress (shown : String)
  | lookalike (authority : String)
  deriving DecidableEq

/-- The authority and the path of a URL. -/
structure Url where
  authority : List Char
  path : List Char

namespace Url

def Error.message : Error → String
  | .brackets => "Invalid IPv6 URL"
  | .futureAddress => "IPvFuture address is invalid"
  | .versionFourInBrackets => "An IPv4 address cannot be in brackets"
  | .notAddress shown => shown ++ " does not appear to be an IPv4 or IPv6 address"
  | .lookalike authority =>
    "netloc '" ++ authority ++ "' contains invalid characters under NFKC normalization"

def isPassedOver (c : Char) : Bool :=
  c = '\t' || c = '\r' || c = '\n'

def significant (cs : List Char) : List Char :=
  (cs.dropWhile fun c => c.toNat ≤ 0x20).filter fun c => !isPassedOver c

def isSchemeChar (c : Char) : Bool :=
  c.isAlphanum || c = '+' || c = '-' || c = '.'

/-- The scheme in lower case, if there is one, and the rest. -/
def splitScheme (cs : List Char) : List Char × List Char :=
  match Text.cut ':' cs with
  | (scheme, some rest) =>
    if (scheme.head?.map Char.isAlpha).getD false && scheme.all isSchemeChar then
      (scheme.map Char.toLower, rest)
    else ([], cs)
  | (_, none) => ([], cs)

def endsAuthority (c : Char) : Bool :=
  c = '/' || c = '?' || c = '#'

def splitAuthority : List Char → List Char × List Char
  | '/' :: '/' :: cs =>
    (cs.takeWhile fun c => !endsAuthority c, cs.dropWhile fun c => !endsAuthority c)
  | cs => ([], cs)

/-- What is wrong with a host that is to be an address in brackets. -/
def addressError? (host : List Char) : Option Error :=
  if host.head? = some 'v' then
    if Internet.isVersionFuture host then none else some .futureAddress
  else if Internet.isVersionFour host then some .versionFourInBrackets
  else if Internet.isVersionSix host then none
  else some (.notAddress (Literal.ofString (String.ofList host)))

def hostinfo (authority : List Char) : List Char :=
  (Text.cutLast '@' authority).2

/-- The host of an authority in which both brackets occur. A bracket that opens the host has nothing
in front of it, and nothing but a service follows the closing one. -/
def bracketedHost? (authority : List Char) : Option (List Char) :=
  match Text.cut '[' (hostinfo authority) with
  | ([], some inner) =>
    match Text.past ']' inner with
    | [] => some (Text.upTo ']' inner)
    | ':' :: _ => some (Text.upTo ']' inner)
    | _ => none
  | (_, some _) => none
  | (host, none) => some (Text.upTo ':' host)

/-- What is wrong with the brackets of an authority: they come together, and where they occur, be
it beside the host, the host is an address. -/
def bracketError? (authority : List Char) : Option Error :=
  match authority.contains '[', authority.contains ']' with
  | false, false => none
  | true, true =>
    match bracketedHost? authority with
    | none => some .brackets
    | some host => addressError? host
  | _, _ => some .brackets

def lookalikes : List Nat := [
  0x2047, 0x2048, 0x2049, 0x2100, 0x2101, 0x2105, 0x2106, 0x2A74, 0xFE13, 0xFE16, 0xFE55, 0xFE56,
  0xFE5F, 0xFE6B, 0xFF03, 0xFF0F, 0xFF1A, 0xFF1F, 0xFF20]

def authorityError? (authority : List Char) : Option Error :=
  match bracketError? authority with
  | some e => some e
  | none =>
    if authority.any fun c => lookalikes.contains c.toNat then
      some (.lookalike (String.ofList authority))
    else none

def schemesWithParameters : List String := [
  "", "ftp", "hdl", "prospero", "http", "imap", "https", "shttp", "rtsp", "rtspu", "sip", "sips",
  "mms", "sftp", "tel"]

def dropParameters (path : List Char) : List Char :=
  match Text.cutLast '/' path with
  | (some before, last) => before ++ '/' :: Text.upTo ';' last
  | (none, last) => Text.upTo ';' last

def parse (s : String) : Except Error Url :=
  let (scheme, rest) := splitScheme (significant s.toList)
  let (authority, rest) := splitAuthority rest
  match authorityError? authority with
  | some e => .error e
  | none =>
    let path := Text.upTo '?' (Text.upTo '#' rest)
    .ok ⟨authority,
      if schemesWithParameters.contains (String.ofList scheme) then dropParameters path else path⟩

def userinfo? (u : Url) : Option (List Char) :=
  (Text.cutLast '@' u.authority).1

def password? (u : Url) : Option String :=
  (u.userinfo?.bind fun i => (Text.cut ':' i).2).map String.ofList

def hostAndService (u : Url) : List Char × List Char :=
  match Text.cut '[' (hostinfo u.authority) with
  | (_, some inner) => (Text.upTo ']' inner, Text.past ':' (Text.past ']' inner))
  | (host, none) => (Text.upTo ':' host, Text.past ':' host)

/-- The host in lower case, if there is one; a zone is left as it is. -/
def host? (u : Url) : Option String :=
  match u.hostAndService.1 with
  | [] => none
  | host =>
    let name := Text.lowerChars (Text.upTo '%' host)
    some (String.ofList (match (Text.cut '%' host).2 with
      | none => name
      | some zone => name ++ '%' :: zone))

end Url

end MemoryShell
