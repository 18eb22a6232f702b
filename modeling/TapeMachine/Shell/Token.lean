/-!
The smallest parts of what is typed into the debug shell, and the places where they stand.
-/

namespace TapeMachine.Shell

/-- A place in what was typed for one statement. Lines and columns are counted from one. -/
structure Place where
  line : Nat := 1
  column : Nat := 1
  deriving DecidableEq, Inhabited

namespace Place

/-- How a place is written in a message. -/
def render (place : Place) : String :=
  s!"<stdin>:{place.line}:{place.column}"

/-- The place behind characters of the same line. -/
def forward (place : Place) (count : Nat) : Place :=
  { place with column := place.column + count }

/-- The beginning of the next line. -/
def nextLine (place : Place) : Place :=
  { line := place.line + 1, column := 1 }

end Place

/-- The smallest parts of a statement. -/
inductive Token where
  | endOfLine
  /-- A line is set in more than the one before it. -/
  | indent
  /-- A line is set in less than the one before it. -/
  | outdent
  | name (text : String)
  | int (value : Int)
  | float (value : Float)
  /-- A text, by its bytes in UTF-8. -/
  | text (content : List UInt8)
  | bytes (content : List UInt8)
  /-- An operator, a bracket or another mark. -/
  | mark (symbol : String)
  /-- A word that is no name. -/
  | word (text : String)
  deriving BEq, Inhabited

/-- The words with a meaning of their own. -/
def keywords : List String :=
  ["and", "break", "continue", "def", "elif", "else", "for", "if", "in", "lambda", "load", "not",
    "or", "pass", "return", "while"]

/-- The words that are kept for later and have no meaning. -/
def reservedWords : List String :=
  ["as", "class", "del", "except", "finally", "from", "global", "import", "is", "nonlocal", "raise",
    "try", "with", "yield"]

namespace Token

/-- What a word is: a name, unless it has a meaning of its own or is kept for later. -/
def ofWord (spelling : String) : Token :=
  if keywords.contains spelling || reservedWords.contains spelling then .word spelling
  else .name spelling

/-- How a token is called in a message. -/
def described : Token → String
  | .endOfLine => "newline"
  | .indent => "indent"
  | .outdent => "outdent"
  | .name _ => "identifier"
  | .int _ => "int literal"
  | .float _ => "float literal"
  | .text _ => "string literal"
  | .bytes _ => "bytes literal"
  | .mark symbol => "'" ++ symbol ++ "'"
  | .word spelling => spelling

end Token

/-- The marks, longer ones before those that they begin with. -/
def marks : List String :=
  ["//=", "<<=", ">>=", "<<", ">>", "<=", ">=", "==", "!=", "+=", "-=", "*=", "/=", "%=", "&=",
    "|=", "^=", "//", "**", "=", "<", ">", "+", "-", "%", "/", "&", "|", "^", ":", ";", "~", "*",
    ","]

/-- The mark that characters begin with. -/
def markAt? (chars : List Char) : Option String :=
  marks.find? fun symbol => symbol.toList.isPrefixOf chars

end TapeMachine.Shell
