import PageHarvest.Url.Host
import PageHarvest.Url.Path

/-!
# Addresses

`Url.parse` reads an address. Of a web address, one with the scheme `http` or `https`, it keeps all parts in their
normal form, and `Web.href` writes them side by side. Of any other address it keeps the scheme, having checked the host
if there is one to be checked.
-/

namespace PageHarvest.Url

/-- The schemes of the web. -/
inductive Scheme where
  | http
  | https
  deriving DecidableEq, Repr

/-- The written form of a scheme. -/
def Scheme.name : Scheme → Text
  | .http => "http".toList
  | .https => "https".toList

/-- Ports may be left out: this one is meant then. -/
def Scheme.defaultPort : Scheme → Nat
  | .http => 80
  | .https => 443

/-- A web address. All texts are percent-encoded; `path` begins with a slash. -/
structure Web where
  scheme : Scheme
  userinfo : Text
  host : Host
  portNumber : Option Nat
  path : Text
  query : Option Text
  fragment : Option Text
  deriving DecidableEq, Repr

/-- The written form of a web address. -/
def Web.href (w : Web) : Text :=
  w.scheme.name ++ [':', '/', '/'] ++ w.userinfo ++ w.host.print ++
    (match w.portNumber with | some p => ':' :: (toString p).toList | none => []) ++ w.path ++
    (match w.query with | some q => '?' :: q | none => []) ++
    (match w.fragment with | some f => '#' :: f | none => [])

/-- An address: a web address, or the scheme of another one. -/
inductive Address where
  | web (w : Web)
  | other (scheme : Text)
  deriving DecidableEq, Repr

/-- How the part behind a scheme is read. -/
inductive Kind where
  | web (scheme : Scheme)
  | file
  | authority
  | ordinary

/-- The kind of a scheme. -/
def Kind.ofScheme (scheme : Text) : Kind :=
  if scheme = Scheme.http.name then .web .http
  else if scheme = Scheme.https.name then .web .https
  else if scheme = "file".toList then .file
  else if scheme ∈ ["ftp".toList, "ws".toList, "wss".toList] then .authority
  else .ordinary

/-- Does a backslash separate like a slash? -/
def Kind.isSpecial : Kind → Bool
  | .ordinary => false
  | _ => true

/-! ## Parts of an address -/

/-- May a character stand in a scheme, behind its first one? -/
def isSchemeChar (c : Char) : Bool := c.isAlphanum || c == '+' || c == '-' || c == '.'

/-- Splits off the scheme, in lower case. -/
def scheme? (t : Text) : Option (Text × Text) :=
  match t with
  | [] => none
  | c :: _ =>
    match t.dropWhile isSchemeChar with
    | ':' :: rest => if c.isAlpha then some ((t.takeWhile isSchemeChar).map Char.toLower, rest) else none
    | _ => none

/-- Does a character end the authority? -/
def endsAuthority (special : Bool) (c : Char) : Bool := c == '/' || c == '?' || c == '#' || (special && c == '\\')

/-- The user name and password, encoded and followed by `@`; nothing if both are empty. -/
def userinfo (t : Text) : Text :=
  let name := t.takeWhile (· ≠ ':')
  let password := (t.dropWhile (· ≠ ':')).drop 1
  if name = [] ∧ password = [] then []
  else
    encode userinfoSet name ++ (if password = [] then [] else ':' :: encode userinfoSet password) ++ ['@']

/-- The part of a text in front of its last `@` and the part behind it. -/
def splitAtLastAt (t : Text) : Option (Text × Text) :=
  if '@' ∈ t then
    let behind := (t.reverse.takeWhile (· ≠ '@')).reverse
    some (t.take (t.length - behind.length - 1), behind)
  else none

/-- The host at the beginning of an authority: what stands in front of the first colon outside brackets. -/
def hostPart : Bool → Text → Text × Text
  | _, [] => ([], [])
  | inside, c :: t =>
    if c = ':' ∧ ¬ inside then ([], c :: t)
    else
      let (host, rest) := hostPart (c = '[' || (inside && c ≠ ']')) t
      (c :: host, rest)

/-- The greatest of the ports. -/
def maxPort : Nat := 65535

/-- Reads the digits behind a host's colon. There may be none, and then none are kept. -/
def portNumber (t : Text) : Except Error (Option Nat) :=
  if t = [] then .ok none
  else
    match Text.digits? 10 t with
    | some n => if n ≤ maxPort then .ok (some n) else .error .invalidPort
    | none => .error .invalidPort

/-- The parts of an authority as they are written: user information, host, and the digits behind its colon. -/
structure Authority where
  userinfo : Text
  host : Text
  portDigits : Text

/-- Splits off the authority of an address. A host must not be empty if the scheme demands one, if there is user
information, or if a colon follows. -/
def authority (special : Bool) (t : Text) : Except Error (Authority × Text) :=
  let whole := t.takeWhile fun c => !endsAuthority special c
  let rest := t.dropWhile fun c => !endsAuthority special c
  let (before, place) := (splitAtLastAt whole).getD ([], whole)
  let (host, behind) := hostPart false place
  let info := userinfo before
  if host = [] ∧ (special ∨ behind ≠ [] ∨ info ≠ [] ∨ (place.length < whole.length ∧ before = [] ∧ rest ≠ [])) then
    .error .emptyHost
  else .ok (⟨info, host, behind.drop 1⟩, rest)

/-- A web address in normal form, from its parts and from the text behind the authority. -/
def finish (scheme : Scheme) (userinfo : Text) (host : Host) (portNumber : Option Nat) (rest : Text) : Web :=
  let path := rest.takeWhile fun c => c ≠ '?' ∧ c ≠ '#'
  let behindPath := rest.dropWhile fun c => c ≠ '?' ∧ c ≠ '#'
  let query := behindPath.takeWhile (· ≠ '#')
  let fragment := behindPath.dropWhile (· ≠ '#')
  { scheme, userinfo, host
    portNumber := if portNumber = some scheme.defaultPort then none else portNumber
    path := Path.normalize (match path with | '/' :: p => p | '\\' :: p => p | p => p)
    query := if query = [] then none else some (encode querySet (query.drop 1))
    fragment := if fragment = [] then none else some (encode fragmentSet (fragment.drop 1)) }

/-- The text behind all slashes of either kind. -/
def dropSlashes (t : Text) : Text := t.dropWhile fun c => c = '/' ∨ c = '\\'

/-- Reads the part behind a web scheme. -/
def web (scheme : Scheme) (t : Text) : Except Error Web := do
  let (a, rest) ← authority true (dropSlashes t)
  let host ← Host.parse a.host
  let p ← portNumber a.portDigits
  return finish scheme a.userinfo host p rest

/-- Checks the host behind the two slashes of a file address. -/
def checkFileHost (t : Text) : Except Error Unit := do
  let host := t.takeWhile fun c => !endsAuthority true c
  if host = [] ∨ Path.isDrive host then return ()
  else
    let _ ← Host.parse host

/-- Checks the part behind a scheme that is none of the web. -/
def checkOther (kind : Kind) (t : Text) : Except Error Unit := do
  match kind, t with
  | .file, a :: b :: rest =>
    if (a = '/' ∨ a = '\\') ∧ (b = '/' ∨ b = '\\') then checkFileHost rest
  | .authority, t =>
    let (a, _) ← authority true (dropSlashes t)
    let _ ← Host.parse a.host
    let _ ← portNumber a.portDigits
  | .ordinary, '/' :: '/' :: rest =>
    let (a, _) ← authority false rest
    Host.checkOpaque a.host
    let _ ← portNumber a.portDigits
  | _, _ => return ()

/-- Is a character a control or a space, which may stand around an address? -/
def isPadding (c : Char) : Bool := c.toNat ≤ 0x20

/-- An address without what may stand around it and without the line breaks and tabs in it. -/
def clean (t : Text) : Text :=
  (((t.dropWhile isPadding).reverse.dropWhile isPadding).reverse).filter fun c => c ≠ '\t' ∧ c ≠ '\n' ∧ c ≠ '\r'

/-- Reads an address. -/
def parse (t : Text) : Except Error Address :=
  match scheme? (clean t) with
  | none => .error .noScheme
  | some (scheme, rest) =>
    match Kind.ofScheme scheme with
    | .web s => (web s rest).map .web
    | kind => (checkOther kind rest).map fun _ => .other scheme

end PageHarvest.Url
