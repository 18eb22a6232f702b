import TapeMachine.Text.Split
import TapeMachine.Text.Utf8

/-!
Why a text is no internet address. The text is read from left to right, and the first thing that
cannot belong to an address is named.
-/

namespace TapeMachine.Network

/-- What keeps a text from being an address. -/
inductive IpCause where
  | noAddress
  | missingAddress
  | leadingZero
  | byteTooGreat
  | emptyByte
  | shortTooLong
  | unexpected
  | shortTooShort
  | emptyZone
  | groupTooLong
  | emptyGroup
  | misplacedShort
  | noRoomForShort
  | missingColon
  | lastColon
  | secondDouble
  | garbage
  | tooShort
  | needlessDouble
  deriving DecidableEq, Inhabited

/-- The words for a cause. -/
def IpCause.message : IpCause → String
  | .noAddress => "unable to parse IP"
  | .missingAddress => "missing IPv6 address"
  | .leadingZero => "IPv4 field has octet with leading zero"
  | .byteTooGreat => "IPv4 field has value >255"
  | .emptyByte => "IPv4 field must have at least one digit"
  | .shortTooLong => "IPv4 address too long"
  | .unexpected => "unexpected character"
  | .shortTooShort => "IPv4 address too short"
  | .emptyZone => "zone must be a non-empty string"
  | .groupTooLong => "each group must have 4 or less digits"
  | .emptyGroup => "each colon-separated field must have at least one digit"
  | .misplacedShort => "embedded IPv4 address must replace the final 2 fields of the address"
  | .noRoomForShort =>
    "too many hex fields to fit an embedded IPv4 at the end of the address"
  | .missingColon => "unexpected character, want colon"
  | .lastColon => "colon must be followed by more characters"
  | .secondDouble => "multiple :: in address"
  | .garbage => "trailing garbage after address"
  | .tooShort => "address string too short"
  | .needlessDouble => "the :: must expand to at least one field of zeros"

/-- A cause, and what was left of the text where it was found, if that is told. -/
structure IpFault where
  cause : IpCause
  rest : List UInt8 := []
  deriving DecidableEq, Inhabited

/-- The text of the fault of a text. -/
def IpFault.message (text : List UInt8) (fault : IpFault) : String :=
  let place := if fault.rest.isEmpty then "" else " (at " ++ Text.quotedBytes fault.rest ++ ")"
  "ParseAddr(" ++ Text.quotedBytes text ++ "): " ++ fault.cause.message ++ place

/-- The two forms of addresses. -/
inductive IpForm where
  | short
  | long
  deriving DecidableEq, Inhabited

namespace IpForm

/-- The byte of a decimal digit. -/
def isDecimal (byte : UInt8) : Bool := 0x30 ≤ byte && byte ≤ 0x39

/-- The byte of a hexadecimal digit. -/
def isHexadecimal (byte : UInt8) : Bool :=
  isDecimal byte || (0x41 ≤ byte && byte ≤ 0x46) || (0x61 ≤ byte && byte ≤ 0x66)

/-- Reads the rest of a short address: `value` and `digits` are the value and the number of digits
of the byte at hand, `points` the number of points so far.
-/
def checkShortFrom (value digits points : Nat) : List UInt8 → Except IpFault Unit
  | [] => if points < 3 then .error ⟨.shortTooShort, []⟩ else .ok ()
  | byte :: rest =>
    if isDecimal byte then
      if digits = 1 && value = 0 then .error ⟨.leadingZero, []⟩
      else
        let value := value * 10 + (byte.toNat - 0x30)
        if 255 < value then .error ⟨.byteTooGreat, []⟩
        else checkShortFrom value (digits + 1) points rest
    else if byte = 0x2e then
      if digits = 0 || rest.isEmpty then .error ⟨.emptyByte, byte :: rest⟩
      else if points = 3 then .error ⟨.shortTooLong, []⟩
      else checkShortFrom 0 0 (points + 1) rest
    else .error ⟨.unexpected, byte :: rest⟩

/-- Reads a short address. -/
def checkShort (text : List UInt8) : Except IpFault Unit := checkShortFrom 0 0 0 text

/-- The end of a long address, with the number of groups and whether a double colon was seen. -/
def checkCount (groups : Nat) (hasDouble : Bool) : Except IpFault Unit :=
  if groups < 8 then if hasDouble then .ok () else .error ⟨.tooShort, []⟩
  else if hasDouble then .error ⟨.needlessDouble, []⟩ else .ok ()

/-- Reads the rest of a long address. The first argument is the number of groups that may still
come.
-/
def checkGroups : Nat → Bool → List UInt8 → Except IpFault Unit
  | 0, hasDouble, text =>
    if text.isEmpty then checkCount 8 hasDouble else .error ⟨.garbage, text⟩
  | left + 1, hasDouble, text =>
    let groups := 7 - left
    let digits := text.takeWhile isHexadecimal
    let behind := text.drop digits.length
    if 4 < digits.length then .error ⟨.groupTooLong, text⟩
    else if digits.isEmpty then .error ⟨.emptyGroup, text⟩
    else
      match behind with
      | [] => checkCount (groups + 1) hasDouble
      | 0x2e :: _ =>
        if !hasDouble && groups ≠ 6 then .error ⟨.misplacedShort, text⟩
        else if 6 < groups then .error ⟨.noRoomForShort, text⟩
        else do
          checkShort text
          checkCount (groups + 2) hasDouble
      | [0x3a] => .error ⟨.lastColon, behind⟩
      | 0x3a :: 0x3a :: rest =>
        if hasDouble then .error ⟨.secondDouble, 0x3a :: rest⟩
        else if rest.isEmpty then checkCount (groups + 1) true
        else checkGroups left true rest
      | 0x3a :: rest => checkGroups left hasDouble rest
      | _ => .error ⟨.missingColon, behind⟩

/-- Reads a long address without its zone. -/
def checkLong (text : List UInt8) : Except IpFault Unit :=
  match text with
  | [0x3a, 0x3a] => .ok ()
  | 0x3a :: 0x3a :: rest => checkGroups 8 true rest
  | _ => checkGroups 8 false text

/-- The form of the address that a text denotes, where a long address may have a zone behind a
percent sign; or why it denotes none.
-/
def ofBytes (text : List UInt8) : Except IpFault IpForm :=
  match text.find? fun byte => byte = 0x2e || byte = 0x3a || byte = 0x25 with
  | some 0x2e => (checkShort text).map fun _ => .short
  | some 0x3a =>
    let address := text.takeWhile (· ≠ 0x25)
    if text.length = address.length + 1 then .error ⟨.emptyZone, []⟩
    else (checkLong address).map fun _ => .long
  | some _ => .error ⟨.missingAddress, []⟩
  | none => .error ⟨.noAddress, []⟩

end IpForm

end TapeMachine.Network
