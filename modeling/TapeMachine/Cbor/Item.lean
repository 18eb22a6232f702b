/-!
Data items of the Concise Binary Object Representation and how they are written. Numbers and
lengths are written with the shortest head that holds them, and lengths are always stated.
-/

namespace TapeMachine.Cbor

/-- A data item. -/
inductive Item where
  | unsigned (value : Nat)
  /-- The number `-1 - value`. -/
  | negative (value : Nat)
  | bytes (content : List UInt8)
  /-- A text in one or more pieces, each meant to be UTF-8. -/
  | text (pieces : List (List UInt8))
  | array (items : List Item)
  | map (entries : List (Item × Item))
  | tag (number : Nat) (content : Item)
  /-- A value without content, such as false, true, null and undefined. -/
  | simple (code : Nat)
  /-- A floating-point number: the width of its head and its bits. -/
  | float (width : Nat) (bits : Nat)
  deriving Inhabited

namespace Item

/-- The item that stands for no value. -/
def null : Item := simple 22

/-- The code of a simple value stands for null or for undefined. -/
def isNullCode (code : Nat) : Bool := code = 22 || code = 23

/-- A signed number. -/
def int (value : Int) : Item :=
  if value < 0 then negative (-value - 1).toNat else unsigned value.toNat

/-- A text in one piece. -/
def string (text : String) : Item :=
  .text [text.toUTF8.toList]

end Item

/-- A number as `width` bytes, the most significant first. -/
def bigEndian : Nat → Nat → List UInt8
  | 0, _ => []
  | width + 1, number => UInt8.ofNat (number / Nat.pow 256 width) :: bigEndian width number

/-- The head of an item: its major type and the shortest form of its argument. -/
def head (major argument : Nat) : List UInt8 :=
  if argument < 24 then [UInt8.ofNat (major * 32 + argument)]
  else if argument < 0x100 then UInt8.ofNat (major * 32 + 24) :: bigEndian 1 argument
  else if argument < 0x10000 then UInt8.ofNat (major * 32 + 25) :: bigEndian 2 argument
  else if argument < 0x100000000 then UInt8.ofNat (major * 32 + 26) :: bigEndian 4 argument
  else UInt8.ofNat (major * 32 + 27) :: bigEndian 8 argument

mutual

/-- The bytes of an item. -/
def Item.encode : Item → List UInt8
  | .unsigned value => head 0 value
  | .negative value => head 1 value
  | .bytes content => head 2 content.length ++ content
  | .text pieces => head 3 pieces.flatten.length ++ pieces.flatten
  | .array items => head 4 items.length ++ encodeAll items
  | .map entries => head 5 entries.length ++ encodeEntries entries
  | .tag number content => head 6 number ++ content.encode
  | .simple code => head 7 code
  | .float width bits =>
    UInt8.ofNat (7 * 32 + (if width = 2 then 25 else if width = 4 then 26 else 27))
      :: bigEndian width bits

/-- The bytes of several items. -/
def encodeAll : List Item → List UInt8
  | [] => []
  | item :: rest => item.encode ++ encodeAll rest

/-- The bytes of the entries of a map. -/
def encodeEntries : List (Item × Item) → List UInt8
  | [] => []
  | (key, value) :: rest => key.encode ++ value.encode ++ encodeEntries rest

end

end TapeMachine.Cbor
