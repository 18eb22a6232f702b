import TapeMachine.Shell.Line
import TapeMachine.Shell.Literal
import TapeMachine.Text.Letter

/-!
Reading tokens from lines. A line is taken when it is needed and not earlier: a statement that is
complete leaves the lines behind it for the next one.
-/

namespace TapeMachine.Shell

/-- Why no statement was read. -/
inductive ReadingFault where
  /-- Something at a place is not as it should be. -/
  | complaint (place : Place) (message : String)
  /-- There are no more lines. -/
  | ended
  /-- The line editor brought the whole program down. -/
  | breakdown
  deriving DecidableEq, Inhabited

/-- The state of reading a statement. -/
structure Reader where
  /-- The rest of the line at hand. A line ends in a line break. -/
  rest : List Char := []
  /-- The lines that were not yet taken. -/
  later : List Line := []
  /-- What the editor wrote while the lines were typed that were taken. -/
  echo : String := ""
  place : Place := {}
  /-- How many brackets are open. -/
  depth : Nat := 0
  /-- How far the open blocks are set in, the innermost first. -/
  indents : List Nat := [0]
  /-- How many changes of indentation are still to be told, below zero those to the left. -/
  dents : Int := 0
  atLineStart : Bool := true
  deriving Inhabited

/-- Steps that read. -/
abbrev Scan := EStateM ReadingFault Reader

namespace Reader

/-- Complains about a place. -/
def complain {α : Type} (place : Place) (message : String) : Scan α :=
  throw (.complaint place message)

/-- The next character, for which a further line is taken if need be. -/
def peek : Scan Char := do
  let reader ← get
  match reader.rest, reader.later with
  | c :: _, _ => return c
  | [], [] => throw .ended
  | [], line :: later =>
    let reader := { reader with later, echo := reader.echo ++ line.echo }
    match line.ending with
    | .entered =>
      let rest := line.chars ++ ['\n']
      set { reader with rest }
      return rest.headD '\n'
    | .interrupted =>
      set reader
      complain reader.place "Interrupt"
    | .endOfInput =>
      set reader
      throw .ended
    | .breakdown =>
      set reader
      throw .breakdown

/-- Takes the next character. -/
def take : Scan Char := do
  let c ← peek
  modify fun reader =>
    { reader with
      rest := reader.rest.drop 1
      place := if c = '\n' then reader.place.nextLine else reader.place.forward 1 }
  return c

/-- Takes characters of the line at hand. -/
def skip (count : Nat) : Scan Unit :=
  modify fun reader =>
    { reader with rest := reader.rest.drop count, place := reader.place.forward count }

/-- A blank within a line. -/
def isGap (c : Char) : Bool := c = ' ' || c = '\t'

/-- How far a line is set in that begins with blanks. A tab goes to the next multiple of eight. -/
def indentOf (blanks : List Char) : Nat :=
  (blanks.foldl (fun (width, column) c =>
    if c = '\t' then (width + (8 - column % 8), column + 1) else (width + 1, column + 1))
    ((0 : Nat), (0 : Nat))).1

/-- Takes note of how far a line is set in. -/
def settleIndent (width : Nat) : Scan Unit := do
  let reader ← get
  let current := reader.indents.headD 0
  if current < width then
    set { reader with indents := width :: reader.indents, dents := reader.dents + 1 }
  else if width < current then
    let kept := reader.indents.dropWhile fun indent => decide (width < indent)
    let closed := reader.indents.length - kept.length
    set { reader with indents := kept, dents := reader.dents - closed }
    if kept.head? ≠ some width then
      complain reader.place "unindent does not match any outer indentation level"

/-- Takes the blanks that a line begins with; says whether the line is blank. -/
def startLine : Scan Bool := do
  let _ ← peek
  let blanks := (← get).rest.takeWhile isGap
  modify fun reader => { reader with atLineStart := false }
  skip blanks.length
  let c ← peek
  let isEmpty := c = '#' || c = '\n'
  if !isEmpty && (← get).depth = 0 then settleIndent (indentOf blanks)
  return isEmpty

/-- A name may begin with the character. -/
def startsName (c : Char) : Bool := c = '_' || Text.isLetter c

/-- A name may hold the character. -/
def isNameChar (c : Char) : Bool := c.isDigit || startsName c

/-- A character in single quotes. -/
def shown (c : Char) : String :=
  let written := if c = '\'' then ['\\', '\''] else if c = '"' then ['"'] else Text.quotedChar c
  "'" ++ String.ofList written ++ "'"

/-- Takes a text in single quotation marks from behind the first; gives what was taken. The first
argument bounds the number of characters.
-/
def quotedRest (start : Place) (quote : Char) : Nat → Scan (List Char)
  | 0 => complain start "unexpected EOF in string"
  | fuel + 1 => do
    let c ← take
    if c = quote then return [c]
    else if c = '\n' then complain start "unexpected newline in string"
    else if c = '\\' then
      let escaped ← take
      return c :: escaped :: (← quotedRest start quote fuel)
    else return c :: (← quotedRest start quote fuel)

/-- Takes a text in threefold quotation marks from behind the first three, with so many marks in a
row before. The first argument bounds the number of characters.
-/
def tripleRest (start : Place) (quote : Char) : Nat → Nat → Scan (List Char)
  | 0, _ => complain start "unexpected EOF in string"
  | fuel + 1, row => do
    let c ← take
    if c = quote then
      if row = 2 then return [c] else return c :: (← tripleRest start quote fuel (row + 1))
    else if c = '\\' then
      let escaped ← take
      return c :: escaped :: (← tripleRest start quote fuel 0)
    else return c :: (← tripleRest start quote fuel 0)

/-- How many characters are left. -/
def size (reader : Reader) : Nat :=
  reader.later.foldl (fun total line => total + line.chars.length + 1) reader.rest.length

/-- The beginning of a text that is left when a rest is taken from its length, or how much longer
the rest is. Lengths are those of UTF-8.
-/
def cutBy (whole rest : List Char) : Except Nat (List Char) :=
  let bytes := Text.encode whole
  let excess := (Text.encode rest).length
  if bytes.length < excess then .error (excess - bytes.length)
  else .ok (Text.decode (bytes.take (bytes.length - excess)))

/-- Takes a text in quotation marks with so many letters in front of it. A text that goes on in the
next line without three quotation marks is cut: what that line has left is taken from its length.
-/
def quotation (letters : Nat) : Scan Token := do
  let whole := (← get).rest
  let start := (← get).place
  skip letters
  let quote := (← get).rest.headD '"'
  let literalPlace := (← get).place
  let fuel := (← get).size
  let isTriple := [quote, quote, quote].isPrefixOf (← get).rest
  let written ← if isTriple then do
      skip 3
      pure (whole.take (letters + 3) ++ (← tripleRest start quote fuel 0))
    else do
      skip 1
      let _ ← quotedRest start quote fuel
      match cutBy whole (← get).rest with
      | .ok written => pure written
      | .error excess =>
        complain (← get).place
          s!"internal error: runtime error: slice bounds out of range [:-{excess}]"
  match Literal.quotation written with
  | .ok token => return token
  | .error message => complain literalPlace message

/-- Takes a token that is neither the end of a line nor a change of indentation. -/
def visible (c : Char) : Scan Token := do
  let reader ← get
  let second := (reader.rest.drop 1).headD '\n'
  let third := (reader.rest.drop 2).headD '\n'
  let isQuote (c : Char) : Bool := c = '"' || c = '\''
  if isQuote c then quotation 0
  else if (c = 'r' || c = 'b') && isQuote second then quotation 1
  else if c = 'r' && second = 'b' && isQuote third then quotation 2
  else if startsName c then
    let name := reader.rest.takeWhile isNameChar
    skip name.length
    return .ofWord (String.ofList name)
  else if c = '[' || c = '(' || c.toNat = 0x7b then
    set { reader with depth := reader.depth + 1 }
    skip 1
    return .mark (String.singleton c)
  else if c = ']' || c = ')' || c.toNat = 0x7d then
    if reader.depth = 0 then
      complain reader.place ("unexpected '" ++ String.singleton c ++ "'")
    set { reader with depth := reader.depth - 1 }
    skip 1
    return .mark (String.singleton c)
  else if c.isDigit || (c = '.' && second.isDigit) then
    match Literal.number reader.rest with
    | .ok (token, length) =>
      skip length
      return token
    | .error fault => complain (reader.place.forward fault.offset) fault.message
  else if c = '.' then
    skip 1
    return .mark "."
  else
    match markAt? reader.rest with
    | some symbol =>
      skip symbol.length
      return .mark symbol
    | none => complain reader.place ("unexpected input character " ++ shown c)

/-- Takes the next token; gives it with the place where it begins. The first argument bounds the
number of lines that hold nothing.
-/
def nextWithin : Nat → Scan (Token × Place)
  | 0 => throw .ended
  | fuel + 1 => do
    let isBlankLine ← if (← get).atLineStart then startLine else pure false
    let reader ← get
    if reader.dents < 0 then
      set { reader with dents := reader.dents + 1 }
      return (.outdent, reader.place)
    else if 0 < reader.dents then
      set { reader with dents := reader.dents - 1 }
      return (.indent, reader.place)
    else
      let _ ← peek
      skip ((← get).rest.takeWhile isGap).length
      if (← peek) = '#' then skip ((← get).rest.takeWhile (· ≠ '\n')).length
      let c ← peek
      if c = '\n' then
        modify fun reader => { reader with atLineStart := true }
        let reader ← get
        if 0 < reader.depth then
          let _ ← take
          nextWithin fuel
        else if isBlankLine && 1 < reader.indents.length then
          set { reader with dents := 1 - (reader.indents.length : Int), indents := [0] }
          nextWithin fuel
        else
          let _ ← take
          return (.endOfLine, reader.place)
      else if c = '\\' then
        let _ ← take
        if (← peek) ≠ '\n' then complain (← get).place "stray backslash in program"
        let _ ← take
        nextWithin fuel
      else
        let start := (← get).place
        return (← visible c, start)

/-- Takes the next token. -/
def next : Scan (Token × Place) := do
  nextWithin (2 * (← get).size + 4)

end Reader

end TapeMachine.Shell
