import TapeMachine.Network.Escape
import TapeMachine.Network.IpLiteral
import TapeMachine.Text.Quoted

/-!
Addresses of resources in the form `scheme://user@host:port/path?query#fragment`: how they are read,
and how they are written down again.
-/

namespace TapeMachine.Network

/-- What is wrong with the address of a resource. -/
inductive UrlFault where
  | controlCharacter
  | missingScheme
  | colonInFirstSegment
  | badPort (port : List UInt8)
  | missingBracket
  | badLiteral (host : List UInt8) (fault : IpFault)
  /-- Between brackets stands what is no long address. -/
  | noLongLiteral
  | escape (fault : EscapeFault)
  | badUser
  deriving DecidableEq, Inhabited

/-- The words for a fault. -/
def UrlFault.message : UrlFault → String
  | .controlCharacter => "net/url: invalid control character in URL"
  | .missingScheme => "missing protocol scheme"
  | .colonInFirstSegment => "first path segment in URL cannot contain colon"
  | .badPort port => "invalid port " ++ Text.quotedBytes port ++ " after host"
  | .missingBracket => "missing ']' in host"
  | .badLiteral host fault => "invalid host: " ++ fault.message host
  | .noLongLiteral => "invalid IP-literal"
  | .escape (.badEscape bytes) => "invalid URL escape " ++ Text.quotedBytes bytes
  | .escape (.badHostByte byte) =>
    "invalid character " ++ Text.quotedBytes [byte] ++ " in host name"
  | .badUser => "net/url: invalid userinfo"

/-- Who asks for a resource. -/
structure UrlUser where
  name : List UInt8
  password : Option (List UInt8) := none
  deriving DecidableEq, Inhabited

/-- The address of a resource. The scheme is in lower case; user and host stand for themselves;
path, query and fragment are as they were written.
-/
structure Url where
  scheme : String
  /-- What follows the scheme if that is not a path. -/
  opaquePart : List UInt8 := []
  user : Option UrlUser := none
  host : List UInt8 := []
  path : List UInt8 := []
  query : Option (List UInt8) := none
  fragment : List UInt8 := []
  deriving DecidableEq, Inhabited

namespace Url

/-- The bytes of a text. -/
def bytesOf (text : String) : List UInt8 := text.toUTF8.data.toList

/-- The text of bytes that are well formed. -/
def textOf (bytes : List UInt8) : String := (String.fromUTF8? ⟨bytes.toArray⟩).getD ""

/-- What stands before the first of some bytes, and that with what follows it. -/
def splitBefore (byte : UInt8) (bytes : List UInt8) : List UInt8 × List UInt8 :=
  (bytes.takeWhile (· ≠ byte), bytes.dropWhile (· ≠ byte))

/-- What stands before the last of some bytes, and what stands behind it. -/
def cutLast (byte : UInt8) (bytes : List UInt8) : Option (List UInt8 × List UInt8) :=
  match splitBefore byte bytes.reverse with
  | (last, _ :: front) => some (front.reverse, last.reverse)
  | (_, []) => none

/-- The bytes that a part stands for. -/
def plain (part : UrlPart) (raw : List UInt8) : Except UrlFault (List UInt8) :=
  (unescape part raw).mapError .escape

/-- A byte may stand in front of the host. -/
def isUserByte (byte : UInt8) : Bool :=
  UrlPart.isAlphanumeric byte || UrlPart.isOneOf "-._:~!$&'()*+,;=%@" byte

/-- A port with its colon is a run of digits; it may be missing. -/
def checkPort (port : List UInt8) : Except UrlFault Unit :=
  match port with
  | [] => .ok ()
  | colon :: digits =>
    if colon = UrlPart.byteOf ':' && digits.all IpForm.isDecimal then .ok ()
    else .error (.badPort port)

/-- What stands before `%25`, and that with what follows it. -/
def cutZone : List UInt8 → List UInt8 × List UInt8
  | 0x25 :: 0x32 :: 0x35 :: rest => ([], 0x25 :: 0x32 :: 0x35 :: rest)
  | byte :: rest => ((byte :: (cutZone rest).1), (cutZone rest).2)
  | [] => ([], [])

/-- The host between brackets, which is a long address and may have a zone. -/
def readLiteral (inside : List UInt8) : Except UrlFault (List UInt8) := do
  let (address, zone) := cutZone inside
  let host := (← plain .host address) ++ (← plain .zone zone)
  match IpForm.ofBytes host with
  | .error fault => throw (.badLiteral host fault)
  | .ok .short => throw .noLongLiteral
  | .ok .long => return host

/-- A host with its port. Brackets are for a host at its start. -/
def readHost (text : List UInt8) : Except UrlFault (List UInt8) := do
  let opening := UrlPart.byteOf '['
  let closing := UrlPart.byteOf ']'
  match cutLast opening text with
  | some ([], behind) =>
    match cutLast closing behind with
    | none => throw .missingBracket
    | some (inside, port) =>
      checkPort port
      return opening :: (← readLiteral inside) ++ closing :: port
  | some _ => throw .noLongLiteral
  | none =>
    if let some (_, port) := cutLast (UrlPart.byteOf ':') text then
      checkPort (UrlPart.byteOf ':' :: port)
    plain .host text

/-- What stands in front of the host. -/
def readUser (text : List UInt8) : Except UrlFault UrlUser := do
  if !text.all isUserByte then throw .badUser
  match splitBefore (UrlPart.byteOf ':') text with
  | (name, _ :: password) =>
    return { name := ← plain .user name, password := some (← plain .user password) }
  | (name, []) => return { name := ← plain .user name }

/-- What stands between the slashes and the path. -/
def readAuthority (text : List UInt8) : Except UrlFault (Option UrlUser × List UInt8) := do
  match cutLast (UrlPart.byteOf '@') text with
  | none => return (none, ← readHost text)
  | some (user, host) =>
    let host ← readHost host
    return (some (← readUser user), host)

/-- The scheme that a text begins with, and what follows its colon. -/
def cutScheme (text : List UInt8) : Except UrlFault (List UInt8 × List UInt8) :=
  let isPart (byte : UInt8) : Bool :=
    UrlPart.isAlphanumeric byte || UrlPart.isOneOf "+-." byte
  match text.takeWhile isPart, text.dropWhile isPart with
  | [], 0x3a :: _ => .error .missingScheme
  | first :: scheme, 0x3a :: rest =>
    if (Char.ofNat first.toNat).isAlpha then .ok (first :: scheme, rest) else .ok ([], text)
  | _, _ => .ok ([], text)

/-- An address without its fragment. -/
def readPlain (text : List UInt8) : Except UrlFault Url := do
  if text.any fun byte => byte < 0x20 || byte == 0x7f then throw .controlCharacter
  let (scheme, rest) ← cutScheme text
  let (rest, question) := splitBefore (UrlPart.byteOf '?') rest
  let url : Url :=
    { scheme := (textOf scheme).toLower
      query := if question.isEmpty then none else some question.tail }
  match rest with
  | 0x2f :: 0x2f :: behind =>
    if url.scheme.isEmpty && behind.head? == some 0x2f then
      let _ ← plain .path rest
      return { url with path := rest }
    let (authority, path) := splitBefore 0x2f behind
    let (user, host) ← readAuthority authority
    let _ ← plain .path path
    return { url with user, host, path }
  | 0x2f :: _ =>
    let _ ← plain .path rest
    return { url with path := rest }
  | _ =>
    if !url.scheme.isEmpty then return { url with opaquePart := rest }
    if (splitBefore 0x2f rest).1.contains (UrlPart.byteOf ':') then throw .colonInFirstSegment
    let _ ← plain .path rest
    return { url with path := rest }

/-- Reads an address. The error is the text that is told about it. -/
def parse (text : String) : Except String Url :=
  let complain (shown : List UInt8) (fault : UrlFault) : String :=
    "parse " ++ Text.quotedBytes shown ++ ": " ++ fault.message
  let (front, fragment) := splitBefore (UrlPart.byteOf '#') (bytesOf text)
  match readPlain front with
  | .error fault => .error (complain front fault)
  | .ok url =>
    match plain .fragment fragment.tail with
    | .error fault => .error (complain (bytesOf text) fault)
    | .ok _ => .ok { url with fragment := fragment.tail }

/-- The same address without a colon that no port follows. -/
def withoutEmptyPort (url : Url) : Url :=
  if url.host.getLast? == some 0x3a then { url with host := url.host.dropLast } else url

/-- The address written down. A password is shown as stars, and a user with a password by the plain
name.
-/
def render (url : Url) : List UInt8 :=
  let ascii (chars : List Char) : List UInt8 := chars.map UrlPart.byteOf
  let user := match url.user with
    | none => []
    | some ⟨name, none⟩ => ascii (escape .user name) ++ bytesOf "@"
    | some ⟨name, some _⟩ => name ++ bytesOf ":***@"
  let front := if url.scheme.isEmpty then [] else bytesOf (url.scheme ++ ":")
  let slashes :=
    if url.host.isEmpty && url.path.isEmpty && url.user.isNone then [] else bytesOf "//"
  let middle := if url.opaquePart.isEmpty then
      slashes ++ user ++ ascii (escape .host url.host ++ escapedOnce .path url.path)
    else url.opaquePart
  let query := match url.query with
    | none => []
    | some query => bytesOf "?" ++ query
  let fragment := if url.fragment.isEmpty then []
    else bytesOf "#" ++ ascii (escapedOnce .fragment url.fragment)
  front ++ middle ++ query ++ fragment

end Url

end TapeMachine.Network
