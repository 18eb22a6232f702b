import TapeMachine.Text.Hexadecimal
import TapeMachine.Text.Pattern

/-!
How patterns are written: the syntax of regular expressions without back references.
-/

namespace TapeMachine.Text.Pattern

/-- The switches that hold for a part of a pattern. -/
structure Mode where
  foldsCase : Bool := false
  /-- Line starts and line ends are anchors too. -/
  isMultiLine : Bool := false
  /-- A point stands for a line end too. -/
  pointTakesAll : Bool := false
  /-- Repetitions are as short as they can be; whether there is a match does not hang on it. -/
  isLazy : Bool := false
  deriving DecidableEq, Inhabited

/-- The greatest number of repetitions that may be asked for. -/
def maxRepeat : Nat := 1000

/-- The last code point. -/
def lastCode : Nat := 0x10ffff

/-- The digits of the first alphabet. -/
def digitItems : List CharItem := [.range 0x30 0x39]

/-- Blanks of the first alphabet. -/
def spaceItems : List CharItem := [.range 0x09 0x0a, .range 0x0c 0x0d, .range 0x20 0x20]

/-- Letters, digits and the underscore of the first alphabet. -/
def wordItems : List CharItem :=
  [.range 0x30 0x39, .range 0x41 0x5a, .range 0x5f 0x5f, .range 0x61 0x7a]

/-- The ranges that the given ascending ranges leave out, from a code point on. -/
def gaps : Nat → List CharItem → List CharItem
  | start, [] => [.range start lastCode]
  | start, .range low high :: rest =>
    (if start < low then [.range start (low - 1)] else []) ++ gaps (high + 1) rest
  | start, _ :: rest => gaps start rest

/-- The class that a letter behind a backslash names. -/
def escapedClass? : Char → Option (List CharItem)
  | 'd' => some digitItems
  | 'D' => some (gaps 0 digitItems)
  | 's' => some spaceItems
  | 'S' => some (gaps 0 spaceItems)
  | 'w' => some wordItems
  | 'W' => some (gaps 0 wordItems)
  | _ => none

/-- The classes that have a name between brackets and colons. -/
def namedClasses : List (String × List CharItem) :=
  [("alnum", [.range 0x30 0x39, .range 0x41 0x5a, .range 0x61 0x7a]),
    ("alpha", [.range 0x41 0x5a, .range 0x61 0x7a]),
    ("ascii", [.range 0 0x7f]),
    ("blank", [.range 0x09 0x09, .range 0x20 0x20]),
    ("cntrl", [.range 0 0x1f, .range 0x7f 0x7f]),
    ("digit", digitItems),
    ("graph", [.range 0x21 0x7e]),
    ("lower", [.range 0x61 0x7a]),
    ("print", [.range 0x20 0x7e]),
    ("punct", [.range 0x21 0x2f, .range 0x3a 0x40, .range 0x5b 0x60, .range 0x7b 0x7e]),
    ("space", [.range 0x09 0x0d, .range 0x20 0x20]),
    ("upper", [.range 0x41 0x5a]),
    ("word", wordItems),
    ("xdigit", [.range 0x30 0x39, .range 0x41 0x46, .range 0x61 0x66])]

/-- What is written behind an opening bracket and a colon: a named class, and what follows. -/
def scanNamedClass (chars : List Char) : Option (List CharItem × List Char) :=
  let (isNegated, chars) := match chars with
    | '^' :: rest => (true, rest)
    | _ => (false, chars)
  let name := String.ofList (chars.takeWhile Char.isAlpha)
  match chars.dropWhile Char.isAlpha with
  | ':' :: ']' :: rest =>
    (namedClasses.lookup name).map fun items => (if isNegated then gaps 0 items else items, rest)
  | _ => none

/-- The number that hexadecimal digits spell. -/
def hexNumber? (digits : List Char) : Option Nat :=
  if digits.isEmpty then none
  else digits.foldl (fun total c => do return (← total) * 16 + (← hexDigit? c)) (some 0)

/-- The code point that is written behind a backslash, and what follows. -/
def scanEscaped : List Char → Option (Nat × List Char)
  | 'a' :: rest => some (7, rest)
  | 'f' :: rest => some (12, rest)
  | 'n' :: rest => some (10, rest)
  | 'r' :: rest => some (13, rest)
  | 't' :: rest => some (9, rest)
  | 'v' :: rest => some (11, rest)
  | 'x' :: '\x7b' :: rest => do
    let code ← hexNumber? (rest.takeWhile (· ≠ '\x7d'))
    match rest.dropWhile (· ≠ '\x7d') with
    | _ :: rest => if code ≤ lastCode then some (code, rest) else none
    | [] => none
  | 'x' :: first :: second :: rest => (hexNumber? [first, second]).map (·, rest)
  | c :: rest =>
    let octal := (c :: rest).take 3 |>.takeWhile fun c => '0' ≤ c && c ≤ '7'
    let isOctal := c == '0' || ('1' ≤ c && c ≤ '7' && 1 < octal.length)
    if isOctal then
      some (octal.foldl (fun total c => total * 8 + (c.toNat - '0'.toNat)) 0,
        (c :: rest).drop octal.length)
    else if c.toNat < 0x80 && !c.isAlphanum then some (c.toNat, rest)
    else none
  | [] => none

/-- The property that is named behind `\p` or `\P`, and what follows. -/
def scanProperty (isNegated : Bool) (chars : List Char) : Option (List CharItem × List Char) :=
  let (name, rest) := match chars with
    | '\x7b' :: rest => (rest.takeWhile (· ≠ '\x7d'), (rest.dropWhile (· ≠ '\x7d')).drop 1)
    | c :: rest => ([c], rest)
    | [] => ([], [])
  let (isNegated, name) := match name with
    | '^' :: name => (!isNegated, name)
    | _ => (isNegated, name)
  match String.ofList name with
  | "L" => some ([.property .letter isNegated], rest)
  | "N" => some ([.property .decimalDigit isNegated], rest)
  | "Nd" => some ([.property .decimalDigit isNegated], rest)
  | _ => none

/-- The items of a class up to its closing bracket, and what follows. The first argument bounds the
number of items.
-/
def scanClassItems : Nat → Bool → List CharItem → List Char → Option (List CharItem × List Char)
  | 0, _, _, _ => none
  | fuel + 1, isFirst, items, chars =>
    let one : List Char → Option (Nat × List Char)
      | '\\' :: rest => scanEscaped rest
      | c :: rest => some (c.toNat, rest)
      | [] => none
    let single : Option (List CharItem × List Char) := do
      let (low, rest) ← one chars
      match rest with
      | '-' :: ']' :: _ => scanClassItems fuel false (items ++ [.range low low]) rest
      | '-' :: rest =>
        let (high, rest) ← one rest
        if high < low then none else scanClassItems fuel false (items ++ [.range low high]) rest
      | _ => scanClassItems fuel false (items ++ [.range low low]) rest
    match chars with
    | [] => none
    | ']' :: rest => if isFirst then single else some (items, rest)
    | '[' :: ':' :: rest =>
      match scanNamedClass rest with
      | some (named, rest) => scanClassItems fuel false (items ++ named) rest
      | none => none
    | '\\' :: 'p' :: rest => do
      let (found, rest) ← scanProperty false rest
      scanClassItems fuel false (items ++ found) rest
    | '\\' :: 'P' :: rest => do
      let (found, rest) ← scanProperty true rest
      scanClassItems fuel false (items ++ found) rest
    | '\\' :: c :: rest =>
      match escapedClass? c with
      | some found => scanClassItems fuel false (items ++ found) rest
      | none => single
    | _ => single

/-- The class behind an opening bracket, and what follows it. -/
def scanClass (mode : Mode) (chars : List Char) : Option (CharClass × List Char) := do
  let (isNegated, chars) := match chars with
    | '^' :: rest => (true, rest)
    | _ => (false, chars)
  let (items, rest) ← scanClassItems (chars.length + 1) true [] chars
  return ({ items, isNegated, foldsCase := mode.foldsCase }, rest)

/-- The switches in front of a colon or a closing bracket, and what follows with its first
character.
-/
def scanMode (mode : Mode) (setsOn : Bool) : List Char → Option (Mode × List Char)
  | 'i' :: rest => scanMode { mode with foldsCase := setsOn } setsOn rest
  | 'm' :: rest => scanMode { mode with isMultiLine := setsOn } setsOn rest
  | 's' :: rest => scanMode { mode with pointTakesAll := setsOn } setsOn rest
  | 'U' :: rest => scanMode { mode with isLazy := setsOn } setsOn rest
  | '-' :: rest =>
    if !setsOn || rest.isEmpty || rest.head? == some ':' || rest.head? == some ')' then none
    else scanMode mode false rest
  | ':' :: rest => some (mode, ':' :: rest)
  | ')' :: rest => some (mode, ')' :: rest)
  | _ => none

/-- How often something is to be repeated, as written between braces, and what follows. -/
def scanCounts (chars : List Char) : Option (Nat × Option Nat × List Char) :=
  let number (digits : List Char) : Option Nat :=
    if digits.isEmpty || (1 < digits.length && digits.head? == some '0') then none
    else some (digits.foldl (fun total c => total * 10 + (c.toNat - '0'.toNat)) 0)
  match number (chars.takeWhile Char.isDigit), chars.dropWhile Char.isDigit with
  | some least, '\x7d' :: rest => some (least, some least, rest)
  | some least, ',' :: '\x7d' :: rest => some (least, none, rest)
  | some least, ',' :: rest =>
    match number (rest.takeWhile Char.isDigit), rest.dropWhile Char.isDigit with
    | some most, '\x7d' :: rest => some (least, some most, rest)
    | _, _ => none
  | _, _ => none

/-- The repetition that is asked for behind a pattern, and what follows. -/
def scanRepeat : List Char → Option (Nat × Option Nat × List Char)
  | '*' :: rest => some (0, none, rest)
  | '+' :: rest => some (1, none, rest)
  | '?' :: rest => some (0, some 1, rest)
  | '\x7b' :: rest => scanCounts rest
  | _ => none

/-- A pattern with the repetition behind it, if there is one. A repetition cannot be repeated. -/
def scanRepeated (body : Pattern) (chars : List Char) : Option (Pattern × List Char) :=
  match scanRepeat chars with
  | none => some (body, chars)
  | some (least, most, rest) =>
    let rest := match rest with
      | '?' :: rest => rest
      | _ => rest
    let tooOften := maxRepeat < least || most.any (maxRepeat < ·)
    let inverted := most.any (· < least)
    if tooOften || inverted || (scanRepeat rest).isSome then none
    else some (.repeated body least most, rest)

/-- The class of one character. -/
def literal (mode : Mode) (code : Nat) : Pattern :=
  .one { items := [.range code code], foldsCase := mode.foldsCase }

/-- The anchor that a letter behind a backslash names. -/
def escapedAnchor? : Char → Option Anchor
  | 'A' => some .textStart
  | 'z' => some .textEnd
  | 'b' => some (.wordEdge false)
  | 'B' => some (.wordEdge true)
  | _ => none

/-- The pattern of a text that stands for itself. -/
def ofLiteral (mode : Mode) (chars : List Char) : Pattern :=
  chars.foldr (fun c rest => .sequence (literal mode c.toNat) rest) .empty

/-- The characters up to a closing mark that ends a literal text, and what follows it. -/
def scanVerbatim : List Char → List Char × List Char
  | '\\' :: 'E' :: rest => ([], rest)
  | c :: rest => let (taken, rest) := scanVerbatim rest; (c :: taken, rest)
  | [] => ([], [])

mutual

/-- Alternatives up to a closing bracket or the end, and what follows. -/
def scanAlternatives : Nat → Mode → List Char → Option (Pattern × List Char)
  | 0, _, _ => none
  | fuel + 1, mode, chars => do
    let (mode, first, rest) ← scanSequence fuel mode .empty chars
    match rest with
    | '|' :: rest =>
      let (second, rest) ← scanAlternatives fuel mode rest
      return (.either first second, rest)
    | _ => return (first, rest)

/-- A sequence behind what was read before, with the switches that hold at its end. -/
def scanSequence : Nat → Mode → Pattern → List Char → Option (Mode × Pattern × List Char)
  | 0, _, _, _ => none
  | fuel + 1, mode, before, chars =>
    let continueWith (body : Pattern) (rest : List Char) : Option (Mode × Pattern × List Char) := do
      let (body, rest) ← scanRepeated body rest
      scanSequence fuel mode (.sequence before body) rest
    match chars with
    | [] => some (mode, before, [])
    | '|' :: _ => some (mode, before, chars)
    | ')' :: _ => some (mode, before, chars)
    | '^' :: rest =>
      continueWith (.anchor (if mode.isMultiLine then .lineStart else .textStart)) rest
    | '$' :: rest => continueWith (.anchor (if mode.isMultiLine then .lineEnd else .textEnd)) rest
    | '.' :: rest =>
      let items : List CharItem := if mode.pointTakesAll then [.range 0 lastCode]
        else [.range 0 9, .range 11 lastCode]
      continueWith (.one { items }) rest
    | '[' :: rest => do
      let (cls, rest) ← scanClass mode rest
      continueWith (.one cls) rest
    | '(' :: '?' :: rest =>
      match rest with
      | 'P' :: '<' :: rest => scanGroup fuel mode before ((rest.dropWhile (· ≠ '>')).drop 1)
      | '<' :: rest => scanGroup fuel mode before ((rest.dropWhile (· ≠ '>')).drop 1)
      | _ => do
        let (inner, rest) ← scanMode mode true rest
        match rest with
        | ':' :: rest =>
          let (body, rest) ← scanAlternatives fuel inner rest
          match rest with
          | ')' :: rest => continueWith body rest
          | _ => none
        | _ :: rest => scanSequence fuel inner before rest
        | [] => none
    | '(' :: rest => scanGroup fuel mode before rest
    | '\\' :: 'Q' :: rest =>
      let (taken, rest) := scanVerbatim rest
      scanSequence fuel mode (.sequence before (ofLiteral mode taken)) rest
    | '\\' :: 'C' :: rest => continueWith (.one { items := [.range 0 lastCode] }) rest
    | '\\' :: 'p' :: rest => do
      let (items, rest) ← scanProperty false rest
      continueWith (.one { items }) rest
    | '\\' :: 'P' :: rest => do
      let (items, rest) ← scanProperty true rest
      continueWith (.one { items }) rest
    | '\\' :: c :: rest =>
      match escapedAnchor? c, escapedClass? c with
      | some place, _ => continueWith (.anchor place) rest
      | none, some items => continueWith (.one { items }) rest
      | none, none => do
        let (code, rest) ← scanEscaped (c :: rest)
        continueWith (literal mode code) rest
    | c :: rest =>
      if c == '\\' || c == '*' || c == '+' || c == '?' then none
      else continueWith (literal mode c.toNat) rest

/-- A group whose bracket was read, and the rest of the sequence. -/
def scanGroup : Nat → Mode → Pattern → List Char → Option (Mode × Pattern × List Char)
  | 0, _, _, _ => none
  | fuel + 1, mode, before, chars => do
    let (body, rest) ← scanAlternatives fuel mode chars
    match rest with
    | ')' :: rest =>
      let (body, rest) ← scanRepeated body rest
      scanSequence fuel mode (.sequence before body) rest
    | _ => none

end

/-- The pattern that a text describes, if it describes one. Every step takes a character or goes one
level down, which bounds the recursion.
-/
def ofText? (text : String) : Option Pattern :=
  match scanAlternatives (4 * text.length + 4) {} text.toList with
  | some (pattern, []) => some pattern
  | _ => none

end TapeMachine.Text.Pattern
