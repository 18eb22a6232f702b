import TapeMachine.Text.Hexadecimal
import TapeMachine.Text.Split

/-!
Internet addresses and the texts that denote them. An address has 128 bits; the older addresses of
32 bits are kept in the block that is set aside for them.
-/

namespace TapeMachine.Network

/-- An internet address. -/
structure IpAddress where
  bits : BitVec 128
  deriving DecidableEq, Inhabited

namespace IpAddress

/-- The number of the short address with four given bytes. -/
def shortNumber (a b c d : Nat) : Nat :=
  0xffff00000000 + ((a * 256 + b) * 256 + c) * 256 + d

/-- The address with four given bytes. -/
def ofBytes (a b c d : Nat) : IpAddress := ⟨BitVec.ofNat 128 (shortNumber a b c d)⟩

/-- The number that groups of 16 bits make up, the first being the highest. -/
def groupsNumber (groups : List Nat) : Nat :=
  groups.foldl (fun number group => number * 0x10000 + group) 0

/-- The address with eight given groups. -/
def ofGroups (groups : List Nat) : IpAddress := ⟨BitVec.ofNat 128 (groupsNumber groups)⟩

/-- The byte that a decimal numeral without needless zeros denotes. -/
def byte? (digits : List Char) : Option Nat :=
  let value : Nat := digits.foldl (fun value c => value * 10 + (c.toNat - '0'.toNat)) 0
  let isPlain := !digits.isEmpty && digits.all Char.isDigit && digits.length ≤ 3
  let hasNeedlessZero := 1 < digits.length && digits.head? == some '0'
  if isPlain && !hasNeedlessZero && value ≤ 255 then some value else none

/-- The four bytes of a short address. -/
def shortBytes? (chars : List Char) : Option (Nat × Nat × Nat × Nat) :=
  match Text.pieces '.' chars with
  | [a, b, c, d] => do return (← byte? a, ← byte? b, ← byte? c, ← byte? d)
  | _ => none

/-- The group that one to four hexadecimal digits denote. -/
def group? (digits : List Char) : Option Nat :=
  if digits.isEmpty || 4 < digits.length then none
  else digits.foldlM (fun value c => (Text.hexDigit? c).map (value * 16 + ·)) 0

/-- The groups that pieces between colons denote. The last piece may be a short address, which makes
two groups, if `atEnd` says that nothing follows.
-/
def groups? (atEnd : Bool) : List (List Char) → Option (List Nat)
  | [] => some []
  | [piece] =>
    if atEnd && piece.contains '.' then do
      let (a, b, c, d) ← shortBytes? piece
      return [a * 256 + b, c * 256 + d]
    else (group? piece).map ([·])
  | piece :: rest => do return (← group? piece) :: (← groups? atEnd rest)

/-- What stands before the first double colon and what stands behind it. -/
def cutDouble : List Char → Option (List Char × List Char)
  | ':' :: ':' :: rest => some ([], rest)
  | c :: rest => (cutDouble rest).map fun (front, back) => (c :: front, back)
  | [] => none

/-- The groups that a text without a double colon denotes; none if it is empty. -/
def side? (atEnd : Bool) (chars : List Char) : Option (List Nat) :=
  if chars.isEmpty then some [] else groups? atEnd (Text.pieces ':' chars)

/-- The address of a text with colons. A double colon, of which there may be one, stands for the
groups that are missing, of which there must be one at least.
-/
def long? (chars : List Char) : Option IpAddress :=
  match cutDouble chars with
  | none => do
    let groups ← side? true chars
    if groups.length = 8 then some (ofGroups groups) else none
  | some (front, back) => do
    let high ← side? false front
    let low ← side? true back
    if high.length + low.length ≤ 7 then
      some (ofGroups (high ++ List.replicate (8 - high.length - low.length) 0 ++ low))
    else none

/-- The address that a text denotes. -/
def ofChars? (chars : List Char) : Option IpAddress :=
  match chars.find? fun c => c == '.' || c == ':' with
  | some '.' => (shortBytes? chars).map fun (a, b, c, d) => ofBytes a b c d
  | some _ => long? chars
  | none => none

/-- The address that a text denotes, where a long address may have a zone behind a percent sign. -/
def ofZonedChars? (chars : List Char) : Option IpAddress :=
  match Text.cut '%' chars with
  | (address, some (_ :: _)) => long? address
  | (_, some []) => none
  | (address, none) => ofChars? address

end IpAddress

/-- All addresses that agree with the first one up to the free bits at the end. -/
structure AddressRange where
  first : Nat
  freeBits : Nat
  deriving DecidableEq, Inhabited

/-- An address lies in a range. -/
def AddressRange.contains (range : AddressRange) (address : IpAddress) : Bool :=
  let block := Nat.pow 2 range.freeBits
  address.bits.toNat / block == range.first / block

/-- The ranges of addresses that lead back to the host or stay within its own network. -/
def localRanges : List AddressRange :=
  [⟨IpAddress.shortNumber 127 0 0 0, 24⟩,
    ⟨IpAddress.shortNumber 10 0 0 0, 24⟩,
    ⟨IpAddress.shortNumber 172 16 0 0, 20⟩,
    ⟨IpAddress.shortNumber 192 168 0 0, 16⟩,
    ⟨1, 0⟩,
    ⟨0xfc000000000000000000000000000000, 121⟩]

/-- An address leads back to the host or stays within its own network. -/
def IpAddress.isLocal (address : IpAddress) : Bool :=
  localRanges.any (·.contains address)

end TapeMachine.Network
