import TapeMachine.Shell.Expr
import TapeMachine.Shell.Reader

/-!
The grammar of the debug shell. A statement is read with one token of foresight, so that lines
behind it stay where they are.
-/

namespace TapeMachine.Shell

/-- A reader with the token that comes next. -/
structure Cursor where
  reader : Reader
  token : Token := .endOfLine
  place : Place := {}
  deriving Inhabited

/-- Steps that read expressions and statements. -/
abbrev Parse := EStateM ReadingFault Cursor

namespace Grammar

/-- The token that comes next. -/
def token : Parse Token := return (← get).token

/-- Goes on to the next token; gives the place of the one that is left behind. -/
def advance : Parse Place := do
  let cursor ← get
  match Reader.next.run cursor.reader with
  | .ok (token, place) reader =>
    set { reader, token, place : Cursor }
    return cursor.place
  | .error fault reader =>
    set { cursor with reader }
    throw fault

/-- Complains about a place. -/
def complain {α : Type} (place : Place) (message : String) : Parse α :=
  throw (.complaint place message)

/-- Complains at the place that was read up to. -/
def complainHere {α : Type} (message : String) : Parse α := do
  complain (← get).reader.place message

/-- Goes on to the next token if a token is the one expected. -/
def expect (expected : Token) : Parse Place := do
  let found ← token
  if found == expected then advance
  else complainHere ("got " ++ found.described ++ ", want " ++ expected.described)

/-- Goes on to the next token if it is a mark. -/
def expectMark (symbol : String) : Parse Place := expect (.mark symbol)

/-- The next token is a mark. -/
def atMark (symbol : String) : Parse Bool := return (← token) == .mark symbol

/-- The next token is a word. -/
def atWord (word : String) : Parse Bool := return (← token) == .word word

/-- A name. -/
def name : Parse (Place × String) := do
  match ← token with
  | .name text => return (← advance, text)
  | _ => complainHere "not an identifier"

/-- The operators with two operands by how tightly they bind, the loosest first. -/
def tiers : List (List (Token × BinaryOperator)) :=
  [[(.word "or", .or)], [(.word "and", .and)], [],
    [(.mark "==", .equal), (.mark "!=", .unequal), (.mark "<", .less), (.mark ">", .greater),
      (.mark "<=", .atMost), (.mark ">=", .atLeast), (.word "in", .isIn),
      (.word "not in", .isNotIn)],
    [(.mark "|", .bitOr)], [(.mark "^", .bitXor)], [(.mark "&", .bitAnd)],
    [(.mark "<<", .shiftLeft), (.mark ">>", .shiftRight)],
    [(.mark "-", .minus), (.mark "+", .plus)],
    [(.mark "*", .times), (.mark "%", .modulo), (.mark "/", .divide), (.mark "//", .floorDivide)]]

/-- The tier of negations. -/
def negationTier : Nat := 2

/-- The tier of comparisons, which cannot follow one another. -/
def comparisonTier : Nat := 3

/-- The operator that a token is, with its tier. -/
def operator? (token : Token) : Option (Nat × BinaryOperator) :=
  let find (tier : List (Token × BinaryOperator)) : Option BinaryOperator :=
    (tier.find? fun entry => entry.1 == token).map (·.2)
  let numbered := (List.range tiers.length).zip tiers
  numbered.findSome? fun (number, tier) => (find tier).map (number, ·)

/-- The assignments that combine the old value with another. -/
def updates : List (String × BinaryOperator) :=
  [("+=", .plus), ("-=", .minus), ("*=", .times), ("/=", .divide), ("//=", .floorDivide),
    ("%=", .modulo), ("&=", .bitAnd), ("|=", .bitOr), ("^=", .bitXor), ("<<=", .shiftLeft),
    (">>=", .shiftRight)]

/-- The tokens that end a list of expressions. -/
def endsList (token : Token) : Bool :=
  match token with
  | .endOfLine => true
  | .mark symbol => ["=", "\x7d", "]", ")", ";"].contains symbol
  | _ => false

/-- Two words that make one operator count as one token. -/
def joinNotIn : Parse Unit := do
  if ← atWord "not" then
    let _ ← advance
    let found ← token
    if found != .word "in" then complainHere ("got " ++ found.described ++ ", want in")
    modify fun cursor => { cursor with token := .word "not in" }

/-- What is said when nothing was left to bound the reading. -/
def tooDeep {α : Type} : Parse α := complainHere "too deeply nested"

mutual

/-- An expression, or several with commas between them. -/
def expression (isNested : Bool) : Nat → Parse Expr
  | 0 => tooDeep
  | fuel + 1 => do
    let first ← test fuel
    if ← atMark "," then
      let others ← further isNested fuel
      return .tuple first.start (first :: others)
    else return first

/-- The expressions behind a comma. -/
def further (mayEndInComma : Bool) : Nat → Parse (List Expr)
  | 0 => tooDeep
  | fuel + 1 => do
    if ← atMark "," then
      let comma ← advance
      if endsList (← token) then
        if mayEndInComma then return []
        else complain comma "unparenthesized tuple with trailing comma"
      else
        let next ← test fuel
        return next :: (← further mayEndInComma fuel)
    else return []

/-- A single expression. -/
def test : Nat → Parse Expr
  | 0 => tooDeep
  | fuel + 1 => do
    if ← atWord "lambda" then lambda true fuel
    else
      let yes ← tier 0 fuel
      if ← atWord "if" then
        let place ← advance
        let condition ← tier 0 fuel
        if !(← atWord "else") then complain place "conditional expression without else clause"
        let _ ← advance
        return .conditional condition yes (← test fuel)
      else return yes

/-- A function without a name, whose value may be conditional or not. -/
def lambda (mayBeConditional : Bool) : Nat → Parse Expr
  | 0 => tooDeep
  | fuel + 1 => do
    let place ← advance
    let parameters ← if ← atMark ":" then pure [] else parameters [] fuel
    let _ ← expectMark ":"
    if mayBeConditional then return .lambda place parameters (← test fuel)
    else return .lambda place parameters (← testWithoutCondition fuel)

/-- A single expression that is not conditional. -/
def testWithoutCondition : Nat → Parse Expr
  | 0 => tooDeep
  | fuel + 1 => do
    if ← atWord "lambda" then lambda false fuel else tier 0 fuel

/-- An expression of operators that bind at least as tightly as those of a tier. -/
def tier (number : Nat) : Nat → Parse Expr
  | 0 => tooDeep
  | fuel + 1 => do
    if tiers.length ≤ number then suffixed fuel
    else if number = negationTier && (← atWord "not") then
      let place ← advance
      return .unary place .not (← tier number fuel)
    else
      let left ← tier (number + 1) fuel
      operations number left none fuel

/-- The operations behind an operand; `previous` is the operator before it. -/
def operations (number : Nat) (left : Expr) (previous : Option BinaryOperator)
    : Nat → Parse Expr
  | 0 => tooDeep
  | fuel + 1 => do
    joinNotIn
    let found ← token
    match operator? found with
    | none => return left
    | some (level, operator) =>
      if level < number then return left
      else
        if let some earlier := previous then
          if level = comparisonTier then
            complainHere (earlier.symbol ++ " does not associate with " ++ operator.symbol
              ++ " (use parens)")
        let place ← advance
        let right ← tier (level + 1) fuel
        operations number (.binary place operator left right) (some operator) fuel

/-- A basic expression with what stands behind it: a member, a key, arguments. -/
def suffixed : Nat → Parse Expr
  | 0 => tooDeep
  | fuel + 1 => do
    let basis ← primary fuel
    suffixes basis fuel

/-- What stands behind an expression. -/
def suffixes (basis : Expr) : Nat → Parse Expr
  | 0 => tooDeep
  | fuel + 1 => do
    if ← atMark "." then
      let place ← advance
      let (_, text) ← name
      suffixes (.member place basis text) fuel
    else if ← atMark "[" then
      let whole ← access basis fuel
      suffixes whole fuel
    else if ← atMark "(" then
      let place ← advance
      let arguments ← arguments [] fuel
      let _ ← expectMark ")"
      suffixes (.call place basis arguments) fuel
    else return basis

/-- A key or a range in square brackets. -/
def access (basis : Expr) : Nat → Parse Expr
  | 0 => tooDeep
  | fuel + 1 => do
    let place ← advance
    let low ← if ← atMark ":" then pure Expr.omitted else expression false fuel
    if !(low matches .omitted) && (← atMark "]") then
      let _ ← advance
      return .index place basis low
    else
      let mut high := Expr.omitted
      let mut step := Expr.omitted
      if ← atMark ":" then
        let _ ← advance
        if !(← atMark ":") && !(← atMark "]") then high ← test fuel
      if ← atMark ":" then
        let _ ← advance
        if !(← atMark "]") then step ← test fuel
      let _ ← expectMark "]"
      return .slice place basis low high step

/-- The arguments of a call up to the closing bracket. -/
def arguments (before : List (ArgumentKind × Expr)) : Nat → Parse (List (ArgumentKind × Expr))
  | 0 => tooDeep
  | fuel + 1 => do
    if ← atMark ")" then return before.reverse
    if !before.isEmpty then let _ ← expectMark ","
    if ← atMark ")" then return before.reverse
    else if ← atMark "*" then
      let place ← advance
      let value ← test fuel
      arguments ((.spread place, value) :: before) fuel
    else if ← atMark "**" then
      let place ← advance
      let value ← test fuel
      arguments ((.spreadNamed place, value) :: before) fuel
    else
      let value ← test fuel
      if ← atMark "=" then
        match value with
        | .name place text =>
          let _ ← advance
          let value ← test fuel
          arguments ((.named place text, value) :: before) fuel
        | _ => complainHere "keyword argument must have form name=expr"
      else arguments ((.plain, value) :: before) fuel

/-- The parameters of a function up to the closing bracket or the colon. -/
def parameters (before : List Parameter) : Nat → Parse (List Parameter)
  | 0 => tooDeep
  | fuel + 1 => do
    if (← atMark ")") || (← atMark ":") then return before.reverse
    if !before.isEmpty then let _ ← expectMark ","
    if ← atMark ")" then return before.reverse
    else if ← atMark "*" then
      let mark ← advance
      match ← token with
      | .name _ =>
        let (place, text) ← name
        parameters ((.rest mark place text, .omitted) :: before) fuel
      | _ => parameters ((.barrier mark, .omitted) :: before) fuel
    else if ← atMark "**" then
      let mark ← advance
      let (place, text) ← name
      parameters ((.namedRest mark place text, .omitted) :: before) fuel
    else
      let (place, text) ← name
      if ← atMark "=" then
        let sign ← advance
        let value ← test fuel
        parameters ((.optional place text sign, value) :: before) fuel
      else parameters ((.required place text, .omitted) :: before) fuel

/-- A basic expression. -/
def primary : Nat → Parse Expr
  | 0 => tooDeep
  | fuel + 1 => do
    let found ← token
    match found with
    | .name text => return .name (← advance) text
    | .int value => return .int (← advance) value
    | .float value => return .float (← advance) value
    | .text content => return .text (← advance) content
    | .bytes content => return .bytes (← advance) content
    | .mark "[" => listed fuel
    | .mark "\x7b" => mapped fuel
    | .mark "(" =>
      let place ← advance
      if ← atMark ")" then
        let _ ← advance
        return .tuple place []
      else
        let inner ← expression true fuel
        let _ ← expectMark ")"
        return .paren place inner
    | .mark "-" => return .unary (← advance) .minus (← suffixed fuel)
    | .mark "+" => return .unary (← advance) .plus (← suffixed fuel)
    | .mark "~" => return .unary (← advance) .invert (← suffixed fuel)
    | found => complain (← get).place ("got " ++ found.described ++ ", want primary expression")

/-- A list in square brackets. -/
def listed : Nat → Parse Expr
  | 0 => tooDeep
  | fuel + 1 => do
    let place ← advance
    if ← atMark "]" then
      let _ ← advance
      return .list place []
    else
      let first ← test fuel
      if ← atWord "for" then
        let clauses ← clauses "]" fuel
        let _ ← advance
        return .comprehension place false .omitted {} first clauses
      else
        let others ← further true fuel
        let _ ← expectMark "]"
        return .list place (first :: others)

/-- A dictionary in braces. -/
def mapped : Nat → Parse Expr
  | 0 => tooDeep
  | fuel + 1 => do
    let place ← advance
    if ← atMark "\x7d" then
      let _ ← advance
      return .dict place []
    else
      let (colon, key, value) ← entry fuel
      if ← atWord "for" then
        let clauses ← clauses "\x7d" fuel
        let _ ← advance
        return .comprehension place true key colon value clauses
      else
        let others ← entries fuel
        let _ ← expectMark "\x7d"
        return .dict place ((colon, key, value) :: others)

/-- A key and a value. -/
def entry : Nat → Parse (Place × Expr × Expr)
  | 0 => tooDeep
  | fuel + 1 => do
    let key ← test fuel
    let colon ← expectMark ":"
    return (colon, key, ← test fuel)

/-- The entries behind a comma. -/
def entries : Nat → Parse (List (Place × Expr × Expr))
  | 0 => tooDeep
  | fuel + 1 => do
    if ← atMark "," then
      let _ ← advance
      if ← atMark "\x7d" then return []
      else
        let next ← entry fuel
        return next :: (← entries fuel)
    else return []

/-- The clauses of a comprehension up to the closing bracket. -/
def clauses (closing : String) : Nat → Parse (List (ClauseKind × Expr × Expr))
  | 0 => tooDeep
  | fuel + 1 => do
    if ← atMark closing then return []
    else if ← atWord "for" then
      let place ← advance
      let targets ← loopTargets fuel
      let _ ← expect (.word "in")
      let source ← tier 0 fuel
      return (.each place, targets, source) :: (← clauses closing fuel)
    else if ← atWord "if" then
      let _ ← advance
      let condition ← testWithoutCondition fuel
      return (.only, .omitted, condition) :: (← clauses closing fuel)
    else
      complainHere ("got " ++ (← token).described ++ ", want '" ++ closing ++ "', for, or if")

/-- What a loop assigns to. -/
def loopTargets : Nat → Parse Expr
  | 0 => tooDeep
  | fuel + 1 => do
    let first ← suffixed fuel
    if ← atMark "," then return .tuple first.start (first :: (← furtherTargets fuel))
    else return first

/-- What a loop assigns to behind a comma. -/
def furtherTargets : Nat → Parse (List Expr)
  | 0 => tooDeep
  | fuel + 1 => do
    if ← atMark "," then
      let _ ← advance
      if endsList (← token) then return []
      else
        let next ← suffixed fuel
        return next :: (← furtherTargets fuel)
    else return []

end

/-- A text in quotes, and its place. -/
def quotation (otherwise : String) : Parse (Place × List UInt8) := do
  match ← token with
  | .text content => return (← advance, content)
  | _ => complainHere otherwise

/-- The names that are loaded, up to the closing bracket. The first argument bounds their number. -/
def loadedNames : Nat → Parse (List ((Place × String) × (Place × String)))
  | 0 => tooDeep
  | fuel + 1 => do
    if ← atMark ")" then return []
    let _ ← expectMark ","
    if ← atMark ")" then return []
    match ← token with
    | .text _ =>
      let (place, content) ← quotation ""
      let named := (place.forward 1, String.ofList (Text.decode content))
      return (named, named) :: (← loadedNames fuel)
    | .name text =>
      let here ← name
      if !(← atMark "=") then
        complainHere ("load operand must be \"" ++ text ++ "\" or " ++ text
          ++ "=\"originalname\" (want '=' after " ++ text ++ ")")
      let _ ← advance
      let (place, content) ← quotation
        ("original name of loaded symbol must be quoted: " ++ text ++ "=\"originalname\"")
      let there := (place.forward 1, String.ofList (Text.decode content))
      return (there, here) :: (← loadedNames fuel)
    | found =>
      complainHere ("load operand must be \"name\" or localname=\"name\" (got "
        ++ found.described ++ ")")

/-- A statement that loads names. -/
def loading (fuel : Nat) : Parse Stmt := do
  let place ← advance
  let opening ← expectMark "("
  let (_, source) ← quotation "first operand of load statement must be a string literal"
  let names ← loadedNames fuel
  let _ ← expectMark ")"
  if names.isEmpty then complain opening "load statement must import at least 1 symbol"
  return .load place source names

/-- A statement without others in it. -/
def small (fuel : Nat) : Parse Stmt := do
  match ← token with
  | .word "return" =>
    let place ← advance
    let found ← token
    if found == .endOfLine || found == .mark ";" then return .giveBack place .omitted
    else return .giveBack place (← expression false fuel)
  | .word "break" => return .branch (← advance) .leave
  | .word "continue" => return .branch (← advance) .next
  | .word "pass" => return .branch (← advance) .pass
  | .word "load" => loading fuel
  | _ =>
    let target ← expression false fuel
    match ← token with
    | .mark symbol =>
      if symbol = "=" then
        let place ← advance
        return .assign place target (← expression false fuel)
      else
        match updates.lookup symbol with
        | some operator =>
          let place ← advance
          return .update place operator target (← expression false fuel)
        | none => return .value target
    | _ => return .value target

/-- Small statements on one line. The first argument bounds their number. -/
def smallLine (fuel : Nat) : Nat → Parse (List Stmt)
  | 0 => tooDeep
  | count + 1 => do
    let first ← small fuel
    if ← atMark ";" then
      let _ ← advance
      if (← token) == .endOfLine then return [first]
      else return first :: (← smallLine fuel count)
    else return [first]

mutual

/-- A statement with others in it, or the small statements of a line. -/
def statement : Nat → Parse (List Stmt)
  | 0 => tooDeep
  | fuel + 1 => do
    if ← atWord "def" then return [← definition fuel]
    else if ← atWord "if" then return [← choice fuel]
    else if ← atWord "for" then
      let place ← advance
      let targets ← loopTargets fuel
      let _ ← expect (.word "in")
      let source ← expression false fuel
      let _ ← expectMark ":"
      return [.each place targets source (← suite fuel)]
    else if ← atWord "while" then
      let place ← advance
      let condition ← test fuel
      let _ ← expectMark ":"
      return [.loop place condition (← suite fuel)]
    else
      let stmts ← smallLine fuel fuel
      let _ ← expect .endOfLine
      return stmts

/-- The definition of a function. -/
def definition : Nat → Parse Stmt
  | 0 => tooDeep
  | fuel + 1 => do
    let place ← advance
    let (namePlace, text) ← name
    let _ ← expectMark "("
    let parameters ← parameters [] fuel
    let _ ← expectMark ")"
    let _ ← expectMark ":"
    return .define place namePlace text parameters (← suite fuel)

/-- A choice, from its first word on. -/
def choice : Nat → Parse Stmt
  | 0 => tooDeep
  | fuel + 1 => do
    let place ← advance
    let condition ← test fuel
    let _ ← expectMark ":"
    let yes ← suite fuel
    if ← atWord "elif" then return .choose place condition yes [← choice fuel]
    else if ← atWord "else" then
      let _ ← advance
      let _ ← expectMark ":"
      return .choose place condition yes (← suite fuel)
    else return .choose place condition yes []

/-- What stands behind a colon: small statements, or a block of lines that are set in. -/
def suite : Nat → Parse (List Stmt)
  | 0 => tooDeep
  | fuel + 1 => do
    if (← token) == .endOfLine then
      let _ ← advance
      let _ ← expect .indent
      let stmts ← blockLines fuel
      let _ ← expect .outdent
      return stmts
    else
      let stmts ← smallLine fuel fuel
      let _ ← expect .endOfLine
      return stmts

/-- The statements of a block up to its end. -/
def blockLines : Nat → Parse (List Stmt)
  | 0 => tooDeep
  | fuel + 1 => do
    if (← token) == .outdent then return []
    else
      let first ← statement fuel
      return first ++ (← blockLines fuel)

end

/-- One statement with others in it, or the small statements of one line. The end of that line is
seen and not passed.
-/
def whole (fuel : Nat) : Parse (List Stmt) := do
  let _ ← advance
  match ← token with
  | .word "def" => statement fuel
  | .word "if" => statement fuel
  | .word "for" => statement fuel
  | .word "while" => statement fuel
  | .endOfLine => return []
  | _ =>
    let stmts ← smallLine fuel fuel
    if (← token) != .endOfLine then complainHere "invalid syntax"
    return stmts

end Grammar

/-- Reads what comes next of lines: the statements, the lines behind them, and what the editor wrote
meanwhile.
-/
def readStatements (lines : List Line) : Except ReadingFault (List Stmt) × List Line × String :=
  let reader : Reader := { later := lines }
  let fuel := 40 * reader.size + 100
  match (Grammar.whole fuel).run { reader } with
  | .ok stmts cursor => (.ok stmts, cursor.reader.later, cursor.reader.echo)
  | .error fault cursor => (.error fault, cursor.reader.later, cursor.reader.echo)

end TapeMachine.Shell
