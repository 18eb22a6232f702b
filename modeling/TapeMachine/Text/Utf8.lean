import TapeMachine.Text.Quoted

/-!
Bytes read as UTF-8, with a place for bytes that belong to no character.
-/

namespace TapeMachine.Text

/-- The number of bytes behind a lead byte, and the range of the first of them. Overlong forms,
surrogates and code points that are too great are ruled out by that range.
-/
def continuation (lead : UInt8) : Option (Nat × UInt8 × UInt8) :=
  if lead < 0xc2 then none
  else if lead < 0xe0 then some (1, 0x80, 0xbf)
  else if lead = 0xe0 then some (2, 0xa0, 0xbf)
  else if lead = 0xed then some (2, 0x80, 0x9f)
  else if lead < 0xf0 then some (2, 0x80, 0xbf)
  else if lead = 0xf0 then some (3, 0x90, 0xbf)
  else if lead < 0xf4 then some (3, 0x80, 0xbf)
  else if lead = 0xf4 then some (3, 0x80, 0x8f)
  else none

/-- The character of a lead byte and the bytes that must follow it. -/
def assemble (lead : UInt8) (following : List UInt8) : Char :=
  let low := lead.toNat % Nat.pow 2 (6 - following.length)
  Char.ofNat (following.foldl (fun code byte => code * 64 + byte.toNat % 64) low)

/-- What bytes begin with: a character, or a byte that belongs to none. -/
def nextChar : List UInt8 → Option ((Char ⊕ UInt8) × List UInt8)
  | [] => none
  | lead :: rest =>
    if lead < 0x80 then some (.inl (Char.ofNat lead.toNat), rest)
    else
      match continuation lead with
      | none => some (.inr lead, rest)
      | some (count, low, high) =>
        let following := rest.take count
        let firstFits := match following with
          | first :: _ => low ≤ first && first ≤ high
          | [] => false
        let restFits := following.all fun byte => 0x80 ≤ byte && byte ≤ 0xbf
        if firstFits && following.length == count && restFits then
          some (.inl (assemble lead following), rest.drop count)
        else some (.inr lead, rest)

/-- The characters of bytes; a byte that belongs to none gives the replacement character. The first
argument bounds the number of characters.
-/
def charsOf : Nat → List UInt8 → List Char
  | 0, _ => []
  | fuel + 1, bytes =>
    match nextChar bytes with
    | none => []
    | some (.inl c, rest) => c :: charsOf fuel rest
    | some (.inr _, rest) => '\ufffd' :: charsOf fuel rest

/-- The characters of bytes. -/
def decode (bytes : List UInt8) : List Char :=
  charsOf bytes.length bytes

/-- The bytes of characters. -/
def encode (chars : List Char) : List UInt8 :=
  chars.flatMap fun c => String.utf8EncodeChar c

/-- Bytes between quotes: characters as in a quoted text, other bytes as escapes. The first argument
bounds the number of characters.
-/
def quotedPieces : Nat → List UInt8 → List Char
  | 0, _ => []
  | fuel + 1, bytes =>
    match nextChar bytes with
    | none => []
    | some (.inl c, rest) => quotedChar c ++ quotedPieces fuel rest
    | some (.inr byte, rest) => '\\' :: 'x' :: hexDigits 2 byte.toNat ++ quotedPieces fuel rest

/-- Bytes between quotes. -/
def quotedBytes (bytes : List UInt8) : String :=
  String.ofList ('"' :: quotedPieces bytes.length bytes ++ ['"'])

end TapeMachine.Text
