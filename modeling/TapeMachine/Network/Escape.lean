import TapeMachine.Network.IpAddress
import TapeMachine.Text.Utf8

/-!
Escapes in addresses of resources: a percent sign and two hexadecimal digits stand for a byte. Each
part of an address has its own rule for the bytes that may stand there as they are.
-/

namespace TapeMachine.Network

/-- The parts of an address. -/
inductive UrlPart where
  | user
  | host
  | zone
  | path
  | fragment
  deriving DecidableEq, Inhabited

namespace UrlPart

/-- The byte of a character of ASCII. -/
def byteOf (c : Char) : UInt8 := c.toNat.toUInt8

/-- A byte is that of one of the characters, all of ASCII. -/
def isOneOf (characters : String) (byte : UInt8) : Bool :=
  byte < 0x80 && characters.contains (Char.ofNat byte.toNat)

/-- A letter or digit of ASCII. -/
def isAlphanumeric (byte : UInt8) : Bool :=
  byte < 0x80 && (Char.ofNat byte.toNat).isAlphanum

/-- A byte is written as it is when a part is written down. -/
def isPlain (part : UrlPart) (byte : UInt8) : Bool :=
  isAlphanumeric byte || isOneOf "-_.~" byte
    || match part with
      | .user => isOneOf "$&+,;=" byte
      | .host => isOneOf "!$&'()*+,;=:[]<>\"" byte
      | .zone => isOneOf "!$&'()*+,;=:[]<>\"" byte
      | .path => isOneOf "$&+,/:;=@" byte
      | .fragment => isOneOf "$&+,/:;=?@!()*" byte

/-- A byte may be left as it is when it was written so. -/
def isTolerated (part : UrlPart) (byte : UInt8) : Bool :=
  isPlain part byte || isOneOf "!$&'()*+,;=:@[]%" byte

/-- An escaped byte may stand in a part. In a host only the percent sign and bytes of other
characters than those of ASCII are escaped; in a zone, what could not stand there otherwise.
-/
def allowsEscape (part : UrlPart) (byte : UInt8) : Bool :=
  match part with
  | .host => 0x80 ≤ byte || byte == 0x25
  | .zone => byte == 0x25 || byte == 0x20 || isPlain .host byte
  | _ => true

end UrlPart

/-- What is wrong with the escapes in a part. -/
inductive EscapeFault where
  | badEscape (escape : List UInt8)
  /-- A byte that must not stand in a host. -/
  | badHostByte (byte : UInt8)
  deriving DecidableEq, Inhabited

/-- The value of the byte of a hexadecimal digit. -/
def hexValue? (byte : UInt8) : Option UInt8 :=
  (Text.hexDigit? (Char.ofNat byte.toNat)).map (·.toUInt8)

/-- The bytes that a part stands for. -/
def unescape (part : UrlPart) : List UInt8 → Except EscapeFault (List UInt8)
  | [] => .ok []
  | first :: rest =>
    if first = UrlPart.byteOf '%' then
      let fault : EscapeFault := .badEscape ((first :: rest).take 3)
      match rest with
      | high :: low :: others =>
        match hexValue? high, hexValue? low with
        | some high, some low =>
          if part.allowsEscape (high * 16 + low) then
            (unescape part others).map ((high * 16 + low) :: ·)
          else .error fault
        | _, _ => .error fault
      | _ => .error fault
    else if (part = .host || part = .zone) && first < 0x80 && !part.isPlain first then
      .error (.badHostByte first)
    else (unescape part rest).map (first :: ·)

/-- The escape of a byte. -/
def escapeByte (byte : UInt8) : List Char :=
  '%' :: (Text.hexDigits 2 byte.toNat).map Char.toUpper

/-- Bytes written down in a part. -/
def escape (part : UrlPart) (bytes : List UInt8) : List Char :=
  bytes.flatMap fun byte =>
    if part.isPlain byte then [Char.ofNat byte.toNat] else escapeByte byte

/-- A part, whose escapes are good, as it is written down again: as it was if that will do. -/
def escapedOnce (part : UrlPart) (raw : List UInt8) : List Char :=
  if raw.all part.isTolerated then raw.map fun byte => Char.ofNat byte.toNat
  else escape part ((unescape part raw).toOption.getD raw)

end TapeMachine.Network
