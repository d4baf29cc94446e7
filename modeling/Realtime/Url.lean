import Realtime.Url.Domain

/-!
# Which addresses are URLs

An address has to be absolute: a scheme, and then what the scheme calls for.
Schemes of the web need a host, which is read as a domain name or a numeric
address; a file may have one; of other schemes only what follows two slashes is
a host, and it is taken as it stands. After the host and the port everything is
allowed.

Blanks and control characters around an address do not count, nor do tabs and
line breaks inside it.
-/

namespace Realtime.Url

/-! ## Schemes -/

/-- What kind of address a scheme calls for. -/
inductive SchemeKind where
  /-- A scheme of the web, which needs a host. -/
  | web
  | file
  | other
  deriving DecidableEq, Repr

/-- The kind of a scheme, which is given in lower case. -/
def SchemeKind.of (scheme : String) : SchemeKind :=
  if scheme ∈ ["http", "https", "ws", "wss", "ftp"] then .web
  else if scheme = "file" then .file
  else .other

/-- A character that may stand in a scheme after its first letter. -/
def isSchemeChar (c : Char) : Bool :=
  c.isAlphanum || c = '+' || c = '-' || c = '.'

/-- The scheme in lower case, and what follows its colon. -/
def scheme? (text : List Char) : Option (String × List Char) :=
  match text with
  | [] => none
  | first :: _ =>
    match text.span isSchemeChar with
    | (name, ':' :: rest) =>
      if first.isAlpha then some (String.ofList (name.map Char.toLower), rest) else none
    | _ => none

/-- A character that is left out wherever it stands. -/
def isIgnored (c : Char) : Bool :=
  c = '\t' || c = '\n' || c = '\r'

/-- A control character or space, which is left out at both ends. -/
def isEdge (c : Char) : Bool :=
  c.toNat ≤ 0x20

/-- The characters of an address that count. -/
def significant (text : String) : List Char :=
  let trimmed := ((text.toList.dropWhile isEdge).reverse.dropWhile isEdge).reverse
  trimmed.filter fun c => !isIgnored c

/-! ## Authorities -/

/-- A character that ends the authority. -/
def endsAuthority (special : Bool) (c : Char) : Bool :=
  c = '/' || c = '?' || c = '#' || (special && c = '\\')

/-- Cuts a text after the last `@`, if there is one. -/
def cutAfterLastAt (text : List Char) : Option (List Char × List Char) :=
  if '@' ∈ text then
    let after := (text.reverse.takeWhile (· ≠ '@')).reverse
    some (text.take (text.length - after.length - 1), after)
  else none

/-- Whether a text before the `@` names a user or gives a password. -/
def namesUser (credentials : List Char) : Bool :=
  match credentials with
  | [] => false
  | [':'] => false
  | _ => true

/-- The host at the front of a text, up to a colon outside brackets. -/
def hostAndRest (special inBrackets : Bool) : List Char → List Char × List Char
  | [] => ([], [])
  | c :: rest =>
    if (c = ':' && !inBrackets) || endsAuthority special c then ([], c :: rest)
    else
      let (host, after) :=
        hostAndRest special (if c = '[' then true else if c = ']' then false else inBrackets) rest
      (c :: host, after)

/-- Checks a port, which ends where the authority does. -/
def checkPort (number : Nat) : List Char → Except Fault Unit
  | [] => .ok ()
  | c :: rest =>
    if c.isDigit then
      let longer := number * 10 + hexDigitValue c
      if 65535 < longer then .error .invalidPort else checkPort longer rest
    else if endsAuthority true c then .ok ()
    else .error .invalidPort

/-- What stands between brackets, if the text starts with one. -/
def bracketed (host : List Char) : Option (Except Fault Unit) :=
  match host with
  | '[' :: inner =>
    some <|
      if inner.getLast? = some ']' ∧ isIpv6 inner.dropLast then .ok () else .error .invalidIpv6
  | _ => none

/-- Checks a host that is a domain name or an address. -/
def checkDomain (host : List Char) : Except Fault Unit :=
  match bracketed host with
  | some answer => answer
  | none =>
    match hostName? (percentDecode (Utf8.encode (String.ofList host))) with
    | none => .error .internationalName
    | some [] => .error .emptyHost
    | some name =>
      if endsInNumber name && !isIpv4 name then .error .invalidIpv4 else .ok ()

/-- A character that no host may hold. -/
def isForbiddenHostChar (c : Char) : Bool :=
  "\x00\t\n\r #/:<>?@[\\]^|".toList.contains c

/-- Checks a host that is taken as it stands. -/
def checkOpaque (host : List Char) : Except Fault Unit :=
  match bracketed host with
  | some answer => answer
  | none => if host.any isForbiddenHostChar then .error .domainCharacter else .ok ()

/-- Checks what follows a host. -/
def checkAfterHost (after : List Char) : Except Fault Unit :=
  match after with
  | ':' :: port => checkPort 0 port
  | _ => .ok ()

/-- Checks host and port. A port needs a host, and so does a user. -/
def checkHostAndPort (special user : Bool) (text : List Char) : Except Fault Unit :=
  let (host, after) := hostAndRest special false text
  if host = [] then
    if special ∨ user ∨ after.head? = some ':' then .error .emptyHost else .ok ()
  else
    match if special then checkDomain host else checkOpaque host with
    | .error fault => .error fault
    | .ok () => checkAfterHost after

/-- Checks what follows two slashes. Nothing but a host may follow an `@` that
stands alone. -/
def checkAuthority (special : Bool) (text : List Char) : Except Fault Unit :=
  let authority := text.takeWhile fun c => !endsAuthority special c
  let path := text.dropWhile fun c => !endsAuthority special c
  match cutAfterLastAt authority with
  | none => checkHostAndPort special false text
  | some (credentials, host) =>
    if credentials = [] ∧ host = [] ∧ path ≠ [] then .error .emptyHost
    else checkHostAndPort special (namesUser credentials) (host ++ path)

/-! ## Files -/

/-- `/` or, in a special address, `\`. -/
def isSlash (c : Char) : Bool :=
  c = '/' || c = '\\'

/-- A letter and a colon or bar, which names a drive and not a host. -/
def isDriveLetter (text : List Char) : Bool :=
  match text with
  | [letter, mark] => letter.isAlpha && (mark = ':' || mark = '|')
  | _ => false

/-- Checks the address of a file after the colon. -/
def checkFile (text : List Char) : Except Fault Unit :=
  match text with
  | first :: second :: rest =>
    if isSlash first && isSlash second then
      let host := rest.takeWhile fun c => !endsAuthority true c
      if host = [] ∨ isDriveLetter host then .ok () else checkDomain host
    else .ok ()
  | _ => .ok ()

/-! ## Whole addresses -/

/-- Refuses what is no URL. -/
def check (text : String) : Except Fault Unit :=
  match scheme? (significant text) with
  | none => .error .noScheme
  | some (scheme, rest) =>
    match SchemeKind.of scheme with
    | .web => checkAuthority true (rest.dropWhile isSlash)
    | .file => checkFile rest
    | .other =>
      match rest with
      | '/' :: '/' :: authority => checkAuthority false authority
      | _ => .ok ()

end Realtime.Url
