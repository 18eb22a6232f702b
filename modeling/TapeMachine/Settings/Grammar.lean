import TapeMachine.Settings.Expr
import TapeMachine.Settings.Token

/-!
The grammar of the settings language. A text is a record without its braces; declarations are
separated by commas or ends of lines.
-/

namespace TapeMachine.Settings

/-- A text in the settings language: what it imports, under which names, and what it declares. -/
structure Source where
  imports : List (String × String) := []
  declarations : List Declaration := []
  deriving Inhabited

namespace Grammar

/-- The tiers of operations, those that bind least first. -/
def tiers : List (List (String × Operation)) :=
  [[("|", .either)], [("&", .both)], [("||", .or)], [("&&", .and)],
    [("==", .equal), ("!=", .unequal), ("<", .less), ("<=", .atMost), (">", .greater),
      (">=", .atLeast), ("=~", .isMatch), ("!~", .isNoMatch)],
    [("+", .add), ("-", .subtract)],
    [("*", .multiply), ("/", .divide), ("div", .div), ("mod", .mod), ("quo", .quo), ("rem", .rem)]]

/-- The operations that are written as words. -/
def wordOperations : List String := ["div", "mod", "quo", "rem"]

/-- How an operation is written, if the token is one. -/
def operationWord? : Token → Option String
  | .mark symbol => some symbol
  | .name word => if wordOperations.contains word then some word else none
  | _ => none

/-- The marks in front of a value. -/
def signs : List (String × Sign) :=
  [("+", .plus), ("-", .minus), ("!", .not), ("*", .preferred), ("<", .bound .less),
    ("<=", .bound .atMost), (">", .bound .greater), (">=", .bound .atLeast),
    ("!=", .bound .different), ("=~", .bound .matching), ("!~", .bound .notMatching)]

/-- The words that are no names where a value is expected. -/
def reserved : List String := ["if", "for", "in", "let"]

/-- The tokens behind a bracket that was opened, given the brackets that are open. -/
def behindBrackets : List String → List Token → Option (List Token)
  | _, [] => none
  | closers, .mark symbol :: rest =>
    match symbol with
    | "(" => behindBrackets (")" :: closers) rest
    | "[" => behindBrackets ("]" :: closers) rest
    | "\x7b" => behindBrackets ("\x7d" :: closers) rest
    | _ =>
      match closers with
      | closer :: outer =>
        if symbol = closer then
          if outer.isEmpty then some rest else behindBrackets outer rest
        else behindBrackets closers rest
      | [] => none
  | closers, _ :: rest => behindBrackets closers rest

/-- How the marks behind a label say whether the field is there, and what follows the colon. -/
def presenceBehind : List Token → Option (Presence × List Token)
  | .mark ":" :: rest => some (.present, rest)
  | .mark "?" :: .mark ":" :: rest => some (.optional, rest)
  | .mark "!" :: .mark ":" :: rest => some (.required, rest)
  | _ => none

/-- Tokens begin with a label, not with a value. -/
def startsLabel : List Token → Bool
  | .name _ :: rest => (presenceBehind rest).isSome
  | .quoted false _ :: rest => (presenceBehind rest).isSome
  | .mark "(" :: rest => ((behindBrackets [")"] rest).bind presenceBehind).isSome
  | .mark "[" :: rest => ((behindBrackets ["]"] rest).bind presenceBehind).isSome
  | _ => false

/-- The tokens behind attributes. -/
def skipAttributes : List Token → List Token
  | .attribute :: rest => skipAttributes rest
  | tokens => tokens

/-- The tokens behind a separator, if there is one. -/
def skipSeparator : List Token → List Token
  | .lineEnd :: rest => rest
  | .mark "," :: rest => rest
  | tokens => tokens

/-- Names that begin with two underscores are not for fields. -/
def isReservedLabel (word : String) : Bool := word.startsWith "__"

/-- A name that a value may be bound to. -/
def isBindable (word : String) : Bool := !isReservedLabel word && word ≠ "_"

/-- The text of pieces without expressions. -/
def plainText? : List Piece → Option (List UInt8)
  | [] => some []
  | [.text bytes] => some bytes
  | _ => none

/-- The bytes of a text, as one. -/
def textOf (bytes : List UInt8) : String := (String.fromUTF8? ⟨bytes.toArray⟩).getD ""

/-- The datum of bytes between quotes. -/
def quotedAtom (isBytes : Bool) (bytes : List UInt8) : Atom :=
  if isBytes then .bytes bytes else .text (textOf bytes)

/-- What a label is before its value is known. -/
inductive Label where
  | field (name : FieldName) (inScope : Bool)
  | dynamic (name : Expr)
  | pattern (byname : Option String) (name : Expr)

/-- The declaration of a field. -/
def Label.declare (label : Label) (byname : Option String) (presence : Presence) (value : Expr)
    : Declaration :=
  match label with
  | .field name inScope => .field name inScope byname presence value
  | .dynamic name => .dynamic name byname presence value
  | .pattern inner name => .pattern inner name value

mutual

/-- The operations of the given tiers. -/
def parseTier : Nat → List (List (String × Operation)) → List Token → Option (Expr × List Token)
  | 0, _, _ => none
  | fuel + 1, [], tokens => parseUnary fuel tokens
  | fuel + 1, tier :: inner, tokens => do
    let (first, rest) ← parseTier fuel inner tokens
    parseOperands fuel tier inner first rest

/-- Further operands of one tier behind the first, joined from the left. -/
def parseOperands : Nat → List (String × Operation) → List (List (String × Operation)) → Expr
    → List Token → Option (Expr × List Token)
  | 0, _, _, _, _ => none
  | fuel + 1, tier, inner, left, tokens =>
    match tokens with
    | [] => some (left, [])
    | token :: rest =>
      match (operationWord? token).bind fun word => tier.lookup word with
      | none => some (left, tokens)
      | some operation => do
        let (right, rest) ← parseTier fuel inner rest
        parseOperands fuel tier inner (.join operation left right) rest

/-- An expression behind the marks in front of it. -/
def parseUnary : Nat → List Token → Option (Expr × List Token)
  | 0, _ => none
  | fuel + 1, .mark symbol :: rest =>
    match signs.lookup symbol with
    | some sign => (parseUnary fuel rest).map fun (operand, rest) => (.sign sign operand, rest)
    | none => parsePrimary fuel (.mark symbol :: rest)
  | fuel + 1, tokens => parsePrimary fuel tokens

/-- An operand with what selects from it or calls it. -/
def parsePrimary : Nat → List Token → Option (Expr × List Token)
  | 0, _ => none
  | fuel + 1, tokens => do
    let (operand, rest) ← parseOperand fuel tokens
    parseSuffixes fuel operand rest

/-- What selects from an expression or calls it. -/
def parseSuffixes : Nat → Expr → List Token → Option (Expr × List Token)
  | 0, _, _ => none
  | fuel + 1, base, tokens =>
    match tokens with
    | .mark "." :: .name word :: rest => parseSuffixes fuel (.select base (.ofWord word)) rest
    | .mark "." :: .quoted false pieces :: rest => do
      let bytes ← plainText? pieces
      parseSuffixes fuel (.select base (.plain (textOf bytes))) rest
    | .mark "." :: _ => none
    | .mark "(" :: rest => do
      let (arguments, rest) ← parseArguments fuel [] rest
      parseSuffixes fuel (.call base arguments) rest
    | .mark "[" :: .mark ":" :: rest => do
      let (high, rest) ← parseSliceEnd fuel rest
      parseSuffixes fuel (.slice base none high) rest
    | .mark "[" :: rest => do
      let (place, rest) ← parseTier fuel tiers rest
      match rest with
      | .mark "]" :: rest => parseSuffixes fuel (.index base place) rest
      | .mark ":" :: rest =>
        let (high, rest) ← parseSliceEnd fuel rest
        parseSuffixes fuel (.slice base (some place) high) rest
      | _ => none
    | _ => some (base, tokens)

/-- The end of a slice behind its colon. -/
def parseSliceEnd : Nat → List Token → Option (Option Expr × List Token)
  | 0, _ => none
  | _ + 1, .mark "]" :: rest => some (none, rest)
  | fuel + 1, tokens => do
    let (high, rest) ← parseTier fuel tiers tokens
    match rest with
    | .mark "]" :: rest => some (some high, rest)
    | _ => none

/-- The arguments of a call up to the closing bracket, those already read being in `arguments`, the
last first.
-/
def parseArguments : Nat → List Expr → List Token → Option (List Expr × List Token)
  | 0, _, _ => none
  | _ + 1, arguments, .mark ")" :: rest => some (arguments.reverse, rest)
  | fuel + 1, arguments, tokens => do
    let (argument, rest) ← parseTier fuel tiers tokens
    match rest with
    | .mark ")" :: rest => some ((argument :: arguments).reverse, rest)
    | .mark "," :: rest => parseArguments fuel (argument :: arguments) rest
    | .lineEnd :: rest => parseArguments fuel (argument :: arguments) rest
    | _ => none

/-- The expressions in the pieces of a text. -/
def parsePieces : Nat → Bool → List Piece → Option (List Expr)
  | 0, _, _ => none
  | _ + 1, _, [] => some []
  | fuel + 1, isBytes, .text bytes :: rest => do
    return .atom (quotedAtom isBytes bytes) :: (← parsePieces fuel isBytes rest)
  | fuel + 1, isBytes, .code tokens :: rest => do
    let (expr, left) ← parseTier fuel tiers tokens
    match left with
    | [] => return expr :: (← parsePieces fuel isBytes rest)
    | _ => none

/-- An expression that no operation divides. -/
def parseOperand : Nat → List Token → Option (Expr × List Token)
  | 0, _ => none
  | fuel + 1, tokens =>
    match tokens with
    | .number value :: rest => some (.atom (.number value), rest)
    | .quoted isBytes pieces :: rest =>
      match plainText? pieces with
      | some bytes => some (.atom (quotedAtom isBytes bytes), rest)
      | none => do return (.interpolation isBytes (← parsePieces fuel isBytes pieces), rest)
    | .name "true" :: rest => some (.atom (.bool true), rest)
    | .name "false" :: rest => some (.atom (.bool false), rest)
    | .name "null" :: rest => some (.atom .null, rest)
    | .name word :: rest =>
      if reserved.contains word then none else some (.reference word, rest)
    | .mark "_|_" :: rest => some (.never, rest)
    | .mark "(" :: rest =>
      match parseTier fuel tiers rest with
      | some (inner, .mark ")" :: rest) => some (inner, rest)
      | _ => none
    | .mark "[" :: rest => parseItems fuel [] rest
    | .mark "\x7b" :: rest =>
      match parseDeclarations fuel [] rest with
      | some (declarations, .mark "\x7d" :: rest) => some (.record declarations, rest)
      | _ => none
    | _ => none

/-- The elements of a list up to its end, those already read being in `items`, the last first. -/
def parseItems : Nat → List Expr → List Token → Option (Expr × List Token)
  | 0, _, _ => none
  | _ + 1, items, .mark "]" :: rest => some (.list items.reverse none, rest)
  | fuel + 1, items, .mark "..." :: rest => do
    let isBare := match rest with
      | .mark "," :: _ => true
      | .mark "]" :: _ => true
      | .lineEnd :: _ => true
      | _ => false
    let (further, rest) ← if isBare then some (.reference "_", rest) else parseTier fuel tiers rest
    match skipSeparator rest with
    | .mark "]" :: rest => some (.list items.reverse (some further), rest)
    | _ => none
  | fuel + 1, items, tokens => do
    let (item, rest) ← match tokens with
      | .name "for" :: _ => parseComprehension fuel [] tokens
      | .name "if" :: _ => parseComprehension fuel [] tokens
      | _ => parseElement fuel tokens
    match rest with
    | .mark "," :: rest => parseItems fuel (item :: items) rest
    | .mark "]" :: rest => some (.list (item :: items).reverse none, rest)
    | .lineEnd :: .mark "]" :: rest => some (.list (item :: items).reverse none, rest)
    | _ => none

/-- A value that may go under a name of its own. -/
def parseElement : Nat → List Token → Option (Expr × List Token)
  | 0, _ => none
  | fuel + 1, .name word :: .mark "=" :: rest =>
    if isBindable word then
      (parseTier fuel tiers rest).map fun (value, rest) => (.aliased word value, rest)
    else none
  | fuel + 1, tokens => parseTier fuel tiers tokens

/-- Clauses and the record behind them, the clauses already read being in `clauses`, the last
first.
-/
def parseComprehension : Nat → List Clause → List Token → Option (Expr × List Token)
  | 0, _, _ => none
  | fuel + 1, clauses, tokens =>
    let add (clause : Clause) (rest : List Token) : Option (Expr × List Token) :=
      parseComprehension fuel (clause :: clauses) (skipSeparator rest)
    match tokens with
    | .name "for" :: .name key :: .mark "," :: .name element :: .name "in" :: rest => do
      let (source, rest) ← parseTier fuel tiers rest
      add (.each (some key) element source) rest
    | .name "for" :: .name element :: .name "in" :: rest => do
      let (source, rest) ← parseTier fuel tiers rest
      add (.each none element source) rest
    | .name "if" :: rest => do
      let (condition, rest) ← parseTier fuel tiers rest
      add (.condition condition) rest
    | .name "let" :: .name name :: .mark "=" :: rest => do
      if clauses.isEmpty || !isBindable name then none
      let (value, rest) ← parseTier fuel tiers rest
      add (.binding name value) rest
    | .mark "\x7b" :: rest =>
      if clauses.isEmpty then none
      else
        match parseDeclarations fuel [] rest with
        | some (declarations, .mark "\x7d" :: rest) =>
          some (.comprehension clauses.reverse (.record declarations), rest)
        | _ => none
    | _ => none

/-- The declarations up to a closing brace or the end of the text, those already read being in
`declarations`, the last first.
-/
def parseDeclarations : Nat → List Declaration → List Token → Option (List Declaration × List Token)
  | 0, _, _ => none
  | _ + 1, declarations, [] => some (declarations.reverse, [])
  | _ + 1, declarations, .mark "\x7d" :: rest => some (declarations.reverse, .mark "\x7d" :: rest)
  | fuel + 1, declarations, .attribute :: rest =>
    match rest with
    | .mark "," :: rest => parseDeclarations fuel declarations rest
    | .lineEnd :: rest => parseDeclarations fuel declarations rest
    | .mark "\x7d" :: _ => parseDeclarations fuel declarations rest
    | [] => parseDeclarations fuel declarations rest
    | _ => none
  | fuel + 1, declarations, tokens => do
    let (declaration, rest) ← parseDeclaration fuel tokens
    match skipAttributes rest with
    | .mark "," :: rest => parseDeclarations fuel (declaration :: declarations) rest
    | .lineEnd :: rest => parseDeclarations fuel (declaration :: declarations) rest
    | .mark "\x7d" :: rest => some ((declaration :: declarations).reverse, .mark "\x7d" :: rest)
    | [] => some ((declaration :: declarations).reverse, [])
    | _ => none

/-- One declaration. -/
def parseDeclaration : Nat → List Token → Option (Declaration × List Token)
  | 0, _ => none
  | fuel + 1, tokens =>
    if startsLabel tokens then parseField fuel none tokens
    else
      match tokens with
      | .mark "..." :: rest =>
        match rest with
        | .mark "," :: _ => some (.openEnd, rest)
        | .mark "\x7d" :: _ => some (.openEnd, rest)
        | .lineEnd :: _ => some (.openEnd, rest)
        | [] => some (.openEnd, rest)
        | _ => (parseTier fuel tiers rest).map fun (_, rest) => (.openEnd, rest)
      | .name "let" :: .name name :: .mark "=" :: rest => do
        if !isBindable name then none
        let (value, rest) ← parseTier fuel tiers rest
        return (.binding name value, rest)
      | .name "for" :: _ =>
        (parseComprehension fuel [] tokens).map fun (value, rest) => (.embedded value, rest)
      | .name "if" :: _ =>
        (parseComprehension fuel [] tokens).map fun (value, rest) => (.embedded value, rest)
      | .name byname :: .mark "=" :: rest =>
        if isBindable byname && startsLabel rest then parseField fuel (some byname) rest else none
      | _ => (parseTier fuel tiers tokens).map fun (value, rest) => (.embedded value, rest)

/-- A field from its label on. -/
def parseField : Nat → Option String → List Token → Option (Declaration × List Token)
  | 0, _, _ => none
  | fuel + 1, byname, tokens => do
    let (label, rest) ← parseLabel fuel tokens
    let (presence, rest) ← presenceBehind rest
    let (value, rest) ← parseFieldValue fuel rest
    return (label.declare byname presence value, rest)

/-- A label without the marks behind it. -/
def parseLabel : Nat → List Token → Option (Label × List Token)
  | 0, _ => none
  | fuel + 1, tokens =>
    match tokens with
    | .name word :: rest =>
      if word = "_" || isReservedLabel word then none
      else some (.field (.ofWord word) true, rest)
    | .quoted false pieces :: rest =>
      match plainText? pieces with
      | some bytes => some (.field (.plain (textOf bytes)) false, rest)
      | none => do return (.dynamic (.interpolation false (← parsePieces fuel false pieces)), rest)
    | .mark "(" :: rest =>
      match parseTier fuel tiers rest with
      | some (name, .mark ")" :: rest) => some (.dynamic name, rest)
      | _ => none
    | .mark "[" :: .name byname :: .mark "=" :: rest =>
      match parseTier fuel tiers rest with
      | some (name, .mark "]" :: rest) =>
        if isBindable byname then some (.pattern (some byname) name, rest) else none
      | _ => none
    | .mark "[" :: rest =>
      match parseTier fuel tiers rest with
      | some (name, .mark "]" :: rest) => some (.pattern none name, rest)
      | _ => none
    | _ => none

/-- The value of a field; a further label makes it a record with that one field. -/
def parseFieldValue : Nat → List Token → Option (Expr × List Token)
  | 0, _ => none
  | fuel + 1, tokens =>
    if startsLabel tokens then
      (parseField fuel none tokens).map fun (field, rest) => (.record [field], rest)
    else
      match tokens with
      | .name byname :: .mark "=" :: rest =>
        if startsLabel rest && isBindable byname then
          (parseField fuel (some byname) rest).map fun (field, rest) => (.record [field], rest)
        else parseElement fuel tokens
      | _ => parseTier fuel tiers tokens

end

/-- The name under which a package is known that is imported without one. -/
def packageName (path : String) : String :=
  let last := ((path.splitOn "/").getLast?).getD ""
  ((last.splitOn ":").getLast?).getD ""

/-- What is imported between brackets. -/
def parseImports : List Token → Option (List (String × String) × List Token)
  | .mark ")" :: rest => some ([], rest)
  | .name name :: .quoted false [.text path] :: separator :: rest =>
    match separator with
    | .lineEnd => (parseImports rest).map fun (more, rest) => ((name, textOf path) :: more, rest)
    | .mark "," => (parseImports rest).map fun (more, rest) => ((name, textOf path) :: more, rest)
    | .mark ")" => some ([(name, textOf path)], rest)
    | _ => none
  | .quoted false [.text path] :: separator :: rest =>
    let found := (packageName (textOf path), textOf path)
    match separator with
    | .lineEnd => (parseImports rest).map fun (more, rest) => (found :: more, rest)
    | .mark "," => (parseImports rest).map fun (more, rest) => (found :: more, rest)
    | .mark ")" => some ([found], rest)
    | _ => none
  | _ => none

/-- All that is imported at the start of a text. The first argument bounds the number of clauses. -/
def parseHeader : Nat → List Token → Option (List (String × String) × List Token)
  | 0, _ => none
  | fuel + 1, tokens =>
    let goOn (found : List (String × String)) (rest : List Token)
        : Option (List (String × String) × List Token) :=
      match rest with
      | .lineEnd :: rest => (parseHeader fuel rest).map fun (more, rest) => (found ++ more, rest)
      | .mark "," :: rest => (parseHeader fuel rest).map fun (more, rest) => (found ++ more, rest)
      | [] => some (found, [])
      | _ => none
    match tokens with
    | .name "import" :: .mark "(" :: rest => do
      let (found, rest) ← parseImports rest
      goOn found rest
    | .name "import" :: .name name :: .quoted false [.text path] :: rest =>
      goOn [(name, textOf path)] rest
    | .name "import" :: .quoted false [.text path] :: rest =>
      goOn [(packageName (textOf path), textOf path)] rest
    | _ => some ([], tokens)

/-- The tokens behind attributes and the clause that names a package, which say nothing about the
value.
-/
def skipPackage : List Token → List Token
  | .attribute :: .lineEnd :: rest => skipPackage rest
  | .name "package" :: .name _ :: .lineEnd :: rest => rest
  | .name "package" :: .name _ :: .mark "," :: rest => rest
  | tokens => tokens

/-- A bound on the depth of the recursion for a text: each character is passed by at most once on
every level of the grammar.
-/
def depthFor (text : String) : Nat := 32 * (text.length + 2)

end Grammar

open Grammar

/-- Reads a text. -/
def Source.parse (text : String) : Option Source := do
  let tokens ← Token.scan text
  let (imports, tokens) ← parseHeader (tokens.length + 1) (skipPackage tokens)
  match parseDeclarations (depthFor text) [] tokens with
  | some (declarations, []) => some { imports, declarations }
  | _ => none

/-- Reads a text that is one expression without brackets around parts of it. -/
def Expr.parseBare (text : String) : Option Expr := do
  let tokens ← Token.scan text
  let isBracket : Token → Bool
    | .mark "(" => true
    | _ => false
  if tokens.any isBracket then none
  match parseTier (depthFor text) tiers tokens with
  | some (expr, []) => some expr
  | some (expr, [.lineEnd]) => some expr
  | _ => none

end TapeMachine.Settings
