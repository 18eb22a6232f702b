import TapeMachine.Settings.Number
import TapeMachine.Text.Letter

/-!
The tokens of the settings language. A line that ends in a token that can end a value also ends
the declaration. Texts may hold expressions between brackets, so the tokens of these are part of a
text.
-/

namespace TapeMachine.Settings

mutual

/-- The smallest parts of a text in the settings language. -/
inductive Token where
  | name (text : String)
  | number (value : Number)
  /-- A text, or bytes, between quotes. -/
  | quoted (isBytes : Bool) (pieces : List Piece)
  | mark (symbol : String)
  /-- The end of a line behind a token that can end a value. -/
  | lineEnd
  /-- A remark for programs that use the value, which does not change it. -/
  | attribute

/-- A part of a text between quotes. -/
inductive Piece where
  | text (bytes : List UInt8)
  | code (tokens : List Token)

end

instance : Inhabited Token := ⟨.lineEnd⟩

/-- How a text is put in quotes. -/
structure Quoting where
  quote : Char
  /-- The number of hash signs that an escape and the closing quote need. -/
  hashes : Nat := 0
  isMultiLine : Bool := false
  deriving DecidableEq, Inhabited

namespace Quoting

/-- What closes a text. -/
def closing (quoting : Quoting) : List Char :=
  List.replicate (if quoting.isMultiLine then 3 else 1) quoting.quote
    ++ List.replicate quoting.hashes '#'

/-- What opens an escape. -/
def opening (quoting : Quoting) : List Char := '\\' :: List.replicate quoting.hashes '#'

end Quoting

/-- What is found one after the other between quotes. -/
inductive QuotedItem where
  /-- A character that stands for itself. -/
  | plain (c : Char)
  /-- The end of a line. -/
  | newline
  /-- A character that is written as an escape. -/
  | escaped (code : Nat)
  | byte (value : UInt8)
  /-- The end of a line that does not count. -/
  | joint
  | code (tokens : List Token)

namespace Token

/-- A line may end behind the token. -/
def endsValue : Token → Bool
  | .mark symbol => [")", "]", "\x7d", "...", "?", "_|_"].contains symbol
  | .lineEnd => false
  | _ => true

/-- The marks, the longer ones before those they begin with. -/
def marks : List String :=
  ["...", "_|_", "<=", ">=", "==", "!=", "=~", "!~", "&&", "||", "\x7b", "\x7d", "[", "]", "(", ")",
    ",", ":", "?", "!", "&", "|", "*", "/", ">", "<", "=", "-", "+", "."]

/-- A character may stand in a name. -/
def isNameChar (c : Char) : Bool :=
  Text.isLetter c || Text.isDecimalDigit c || c == '_' || c == '$'

/-- A name may begin with the character. -/
def startsName (c : Char) : Bool := Text.isLetter c || c == '_' || c == '$' || c == '#'

/-- The name that a text begins with, and what follows it. A hash sign may stand in front, and an
underscore in front of that.
-/
def scanName (chars : List Char) : String × List Char :=
  let (front, rest) := match chars with
    | '_' :: '#' :: rest => (['_', '#'], rest)
    | '#' :: rest => (['#'], rest)
    | _ => ([], chars)
  (String.ofList (front ++ rest.takeWhile isNameChar), rest.dropWhile isNameChar)

/-- Surrogates come in pairs that denote one character. -/
def isHighSurrogate (code : Nat) : Bool := 0xd800 ≤ code && code < 0xdc00

/-- The second half of a pair. -/
def isLowSurrogate (code : Nat) : Bool := 0xdc00 ≤ code && code < 0xe000

/-- The code that `count` digits of a base denote, and what follows them. -/
def scanCode (base count : Nat) (chars : List Char) : Option (Nat × List Char) := do
  let digits := chars.take count
  if digits.length ≠ count then none
  return (← digitsValue? base digits, chars.drop count)

/-- The escape whose backslash and hash signs were read, and what follows it. Single bytes can be
written only among bytes.
-/
def scanEscape (quoting : Quoting) : List Char → Option (QuotedItem × List Char)
  | 'a' :: rest => some (.escaped 0x07, rest)
  | 'b' :: rest => some (.escaped 0x08, rest)
  | 'f' :: rest => some (.escaped 0x0c, rest)
  | 'n' :: rest => some (.escaped 0x0a, rest)
  | 'r' :: rest => some (.escaped 0x0d, rest)
  | 't' :: rest => some (.escaped 0x09, rest)
  | 'v' :: rest => some (.escaped 0x0b, rest)
  | '/' :: rest => some (.escaped 0x2f, rest)
  | '\\' :: rest => some (.escaped 0x5c, rest)
  | 'u' :: rest => (scanCode 16 4 rest).map fun (code, rest) => (.escaped code, rest)
  | 'U' :: rest => do
    let (code, rest) ← scanCode 16 8 rest
    if code < 0x110000 then some (.escaped code, rest) else none
  | 'x' :: rest => do
    let (code, rest) ← scanCode 16 2 rest
    if quoting.quote = '"' then none else some (.byte code.toUInt8, rest)
  | '\n' :: rest => if quoting.isMultiLine then some (.joint, rest) else none
  | '\r' :: '\n' :: rest => if quoting.isMultiLine then some (.joint, rest) else none
  | c :: rest =>
    if c = quoting.quote then some (.escaped c.toNat, rest)
    else if '0' ≤ c && c ≤ '7' then do
      let (code, rest) ← scanCode 8 3 (c :: rest)
      if quoting.quote = '"' || 0x100 ≤ code then none else some (.byte code.toUInt8, rest)
    else none
  | [] => none

/-- How the text is put in quotes that characters begin with, and what follows the opening. A text
of several lines begins behind the end of the first.
-/
def scanOpening (chars : List Char) : Option (Quoting × List Char) :=
  let hashes := (chars.takeWhile (· == '#')).length
  match chars.drop hashes with
  | quote :: rest =>
    if quote ≠ '"' && quote ≠ '\x27' then none
    else
      match rest with
      | second :: third :: '\n' :: behind =>
        if second = quote && third = quote then some (⟨quote, hashes, true⟩, behind)
        else some (⟨quote, hashes, false⟩, rest)
      | second :: third :: '\r' :: '\n' :: behind =>
        if second = quote && third = quote then some (⟨quote, hashes, true⟩, behind)
        else some (⟨quote, hashes, false⟩, rest)
      | _ => some (⟨quote, hashes, false⟩, rest)
  | [] => none

/-- The blanks at the start of a line that all lines have in common are left out. The lines of a
text with the given blanks in front of its closing quotes: a line must begin with them or be empty.
-/
def unindent (blanks : List Char) : Nat → List QuotedItem → Option (List QuotedItem)
  | 0, _ => none
  | fuel + 1, items =>
    let isPlain (c : Char) : QuotedItem → Bool
      | .plain d => c == d
      | _ => false
    let isLineEnd : QuotedItem → Bool
      | .newline => true
      | .joint => true
      | _ => false
    let starts := blanks.length ≤ items.length
      && (List.zipWith isPlain blanks items).all id
    let isEmptyLine := match items with
      | .newline :: _ => true
      | _ => false
    let body : Option (List QuotedItem) := if starts then some (items.drop blanks.length)
      else if isEmptyLine then some items else none
    match body with
    | none => none
    | some body =>
      let line := body.takeWhile (!isLineEnd ·)
      match body.dropWhile (!isLineEnd ·) with
      | [] => some line
      | ending :: rest => (unindent blanks fuel rest).map fun rest => line ++ ending :: rest

/-- The items of a text of several lines without what only lays it out: the blanks in front of each
line and the end of the last line.
-/
def layOut (items : List QuotedItem) : Option (List QuotedItem) :=
  let isNewline : QuotedItem → Bool
    | .newline => true
    | _ => false
  let last := (items.reverse.takeWhile (!isNewline ·)).reverse
  let blanks := last.filterMap fun
    | .plain c => if c == ' ' || c == '\t' then some c else none
    | _ => none
  if blanks.length ≠ last.length then none
  else
    match unindent blanks (items.length + 1) items with
    | none => none
    | some laid =>
      -- The end of the last line belongs to the layout, unless it is written as a joint.
      match laid.reverse with
      | .newline :: rest => some rest.reverse
      | .joint :: _ => none
      | rest => some rest.reverse

/-- The bytes and expressions that items denote. Bytes that stand side by side are one piece. -/
def piecesOf : List QuotedItem → Option (List Piece)
  | [] => some []
  | .escaped high :: .escaped low :: rest =>
    if isHighSurrogate high then
      if isLowSurrogate low then
        (piecesOf rest).map (put (0x10000 + (high - 0xd800) * 0x400 + (low - 0xdc00)))
      else none
    else if isLowSurrogate high then none
    else (piecesOf (.escaped low :: rest)).map (put high)
  | .escaped code :: rest =>
    if isHighSurrogate code || isLowSurrogate code then none else (piecesOf rest).map (put code)
  | .plain c :: rest => (piecesOf rest).map (put c.toNat)
  | .newline :: rest => (piecesOf rest).map (put 0x0a)
  | .joint :: rest => piecesOf rest
  | .byte value :: rest => (piecesOf rest).map (prepend [value])
  | .code tokens :: rest => (piecesOf rest).map (.code tokens :: ·)
where
  prepend (bytes : List UInt8) : List Piece → List Piece
    | .text more :: rest => .text (bytes ++ more) :: rest
    | pieces => .text bytes :: pieces
  put (code : Nat) : List Piece → List Piece :=
    prepend (String.singleton (Char.ofNat code)).toUTF8.data.toList

/-- The token of a text that was read to its end. -/
def ofItems? (quoting : Quoting) (items : List QuotedItem) : Option Token := do
  let items ← if quoting.isMultiLine then layOut items else some items
  return .quoted (quoting.quote ≠ '"') (← piecesOf items)

/-- The text behind an attribute, whose opening bracket was read. The brackets that are open are
counted, and the first argument bounds the number of steps.
-/
def skipAttribute : Nat → List Char → List Char → Option (List Char)
  | 0, _, _ => none
  | fuel + 1, closers, chars =>
    match chars with
    | [] => none
    | '(' :: rest => skipAttribute fuel (')' :: closers) rest
    | '[' :: rest => skipAttribute fuel (']' :: closers) rest
    | '\x7b' :: rest => skipAttribute fuel ('\x7d' :: closers) rest
    | c :: rest =>
      if c == '"' || c == '\x27' then
        match (rest.dropWhile fun d => d ≠ c && d ≠ '\n') with
        | d :: rest => if d = c then skipAttribute fuel closers rest else none
        | [] => none
      else if c == ')' || c == ']' || c == '\x7d' then
        match closers with
        | closer :: outer =>
          if c ≠ closer then none
          else if outer.isEmpty then some rest else skipAttribute fuel outer rest
        | [] => none
      else skipAttribute fuel closers rest

/-- The attribute behind an at sign. -/
def scanAttribute (chars : List Char) : Option (List Char) :=
  match scanName chars with
  | ("", _) => none
  | (_, '(' :: rest) => skipAttribute (rest.length + 1) [')'] rest
  | _ => none

mutual

/-- The items up to the closing quotes, and what follows these. -/
def scanItems : Nat → Quoting → List Char → Option (List QuotedItem × List Char)
  | 0, _, _ => none
  | fuel + 1, quoting, chars =>
    let closing := quoting.closing
    let opening := quoting.opening
    if closing.isPrefixOf chars then some ([], chars.drop closing.length)
    else if opening.isPrefixOf chars then
      match chars.drop opening.length with
      | '(' :: rest => do
        let (tokens, rest) ← scanTokens fuel 1 false rest
        let (items, rest) ← scanItems fuel quoting rest
        return (.code tokens :: items, rest)
      | rest => do
        let (item, rest) ← scanEscape quoting rest
        let (items, rest) ← scanItems fuel quoting rest
        return (item :: items, rest)
    else
      match chars with
      | [] => none
      | '\n' :: rest =>
        if quoting.isMultiLine then (scanItems fuel quoting rest).map fun (items, rest) =>
          (.newline :: items, rest)
        else none
      | '\r' :: rest => if quoting.isMultiLine then scanItems fuel quoting rest else none
      | c :: rest =>
        (scanItems fuel quoting rest).map fun (items, rest) => (.plain c :: items, rest)

/-- The tokens of a text up to its end, or up to the bracket that closes the last of `depth` open
ones, and what follows. `ending` says that the line may end here. The first argument bounds the
number of steps.
-/
def scanTokens : Nat → Nat → Bool → List Char → Option (List Token × List Char)
  | 0, _, _, _ => none
  | fuel + 1, depth, ending, chars =>
    let endLine (tokens : List Token × List Char) : List Token × List Char :=
      if ending then (.lineEnd :: tokens.1, tokens.2) else tokens
    let add (token : Token) (rest : List Char) (depth : Nat) : Option (List Token × List Char) :=
      (scanTokens fuel depth token.endsValue rest).map fun (tokens, rest) => (token :: tokens, rest)
    match chars with
    | [] => if depth = 0 then some (endLine ([], [])) else none
    | '\n' :: rest => (scanTokens fuel depth false rest).map endLine
    | ' ' :: rest => scanTokens fuel depth ending rest
    | '\t' :: rest => scanTokens fuel depth ending rest
    | '\r' :: rest => scanTokens fuel depth ending rest
    | '/' :: '/' :: rest => scanTokens fuel depth ending (rest.dropWhile (· ≠ '\n'))
    | '@' :: rest => do add .attribute (← scanAttribute rest) depth
    | '_' :: '|' :: '_' :: rest => add (.mark "_|_") rest depth
    | '(' :: rest => add (.mark "(") rest (if depth = 0 then 0 else depth + 1)
    | ')' :: rest => if depth = 1 then some ([], rest) else add (.mark ")") rest (depth - 1)
    | c :: rest =>
      match scanOpening chars with
      | some (quoting, rest) => do
        let (items, rest) ← scanItems fuel quoting rest
        add (← ofItems? quoting items) rest depth
      | none =>
        if c.isDigit || (c == '.' && rest.head?.any Char.isDigit) then do
          let (value, rest) ← scanNumber chars
          add (.number value) rest depth
        else if startsName c then
          let (word, rest) := scanName chars
          add (.name word) rest depth
        else
          match marks.find? fun symbol => symbol.toList.isPrefixOf chars with
          | some symbol => add (.mark symbol) (chars.drop symbol.length) depth
          | none => none

end

/-- The tokens of a text, if it has only such. A mark of the byte order may stand in front. -/
def scan (text : String) : Option (List Token) :=
  let chars := match text.toList with
    | '\ufeff' :: rest => rest
    | chars => chars
  if chars.any fun c => c == '\x00' || c == '\ufeff' then none
  else (scanTokens (2 * chars.length + 2) 0 false chars).map (·.1)

end Token

end TapeMachine.Settings
