import TapeMachine.Shell.Expr
import TapeMachine.Tape

/-!
What the debug shell computes with, and the store that holds what can change: lists, dictionaries,
sets, and the variables of functions.
-/

namespace TapeMachine.Shell

/-- A thing of the shell. What can change is known by its address in the store. -/
inductive Object where
  | none
  | bool (value : Bool)
  | int (value : Int)
  | float (value : Float)
  /-- A text, by its bytes in UTF-8. -/
  | text (content : List UInt8)
  | bytes (content : List UInt8)
  | tuple (items : List Object)
  | range (start stop step : Int)
  | list (address : Nat)
  | dict (address : Nat)
  | set (address : Nat)
  | function (address : Nat) (name : String)
  /-- A function that is always there. -/
  | builtin (name : String)
  /-- A function that reads the tape. -/
  | probe (name : String)
  /-- A function that belongs to another thing; each that is asked for is a new one. -/
  | method (name : String) (owner : Object) (identity : Nat)
  /-- The bytes of a text one by one, as texts or as numbers. -/
  | textBytes (content : List UInt8) (asNumbers : Bool)
  /-- The characters of a text one by one, as texts or as numbers. -/
  | textChars (content : List UInt8) (asNumbers : Bool)
  /-- The numbers of bytes one by one. -/
  | byteNumbers (content : List UInt8)
  deriving Inhabited

namespace Object

/-- The name of the type of a thing. -/
def typeName : Object → String
  | none => "NoneType"
  | bool _ => "bool"
  | int _ => "int"
  | float _ => "float"
  | text _ => "string"
  | bytes _ => "bytes"
  | tuple _ => "tuple"
  | range _ _ _ => "range"
  | list _ => "list"
  | dict _ => "dict"
  | set _ => "set"
  | function _ _ => "function"
  | builtin _ => "builtin_function_or_method"
  | probe _ => "builtin_function_or_method"
  | method _ _ _ => "builtin_function_or_method"
  | textBytes _ _ => "string.elems"
  | textChars _ _ => "string.codepoints"
  | byteNumbers _ => "bytes.elems"

/-- The text of characters. -/
def ofString (content : String) : Object :=
  text (content.toList.flatMap String.utf8EncodeChar)

/-- A number as 64 bits hold it: too great a one comes out below zero, or above it. -/
def wrapped (value : Int) : Int :=
  (value + 0x8000000000000000) % 0x10000000000000000 - 0x8000000000000000

/-- How many numbers a range holds. A range that is too long holds none. -/
def rangeLength (start stop step : Int) : Nat :=
  if 0 < step then
    if start < stop then (wrapped ((wrapped (stop - 1 - start)).tdiv step + 1)).toNat else 0
  else if stop < start then (wrapped ((wrapped (start - 1 - stop)).tdiv (-step) + 1)).toNat
  else 0

/-- A thing can be called. -/
def isCallable : Object → Bool
  | function _ _ => true
  | builtin _ => true
  | probe _ => true
  | method _ _ _ => true
  | _ => false

end Object

/-- The variables that can be seen from a place, those of the innermost block first, by their
addresses; and the names of the statement that the place is part of, unless these are the names of
the session themselves.
-/
structure Surrounding where
  blocks : List (List (String × Nat)) := []
  home : Option Nat := none
  deriving Inhabited

/-- A function that was defined in the shell. -/
structure Closure where
  name : String
  /-- Which text defined it: the number of the statement, and the place in it. -/
  origin : Nat × Place
  parameters : List Parameter
  body : List Stmt
  /-- The defaults of the parameters that have one, and gaps for those that go by name and have
  none.
  -/
  defaults : List (Option Object)
  surrounding : Surrounding
  deriving Inhabited

/-- What an address of the store holds. Containers count who goes through them; they do not change
meanwhile.
-/
inductive Cell where
  | list (items : Array Object) (visitors : Nat)
  | dict (entries : Array (Object × Object)) (visitors : Nat)
  | set (items : Array Object) (visitors : Nat)
  | function (closure : Closure)
  | slot (value : Option Object)
  /-- The names of a statement outside all functions. -/
  | names (values : List (String × Option Object))
  deriving Inhabited

/-- A call that is under way. -/
structure Frame where
  name : String
  /-- The function is always there, and has no text. -/
  isBuiltin : Bool := false
  /-- What defined the function, unless it is always there. -/
  origin : Option (Nat × Place) := none
  /-- The place that the call has come to. -/
  place : Option Place := none
  deriving Inhabited

/-- All that a session in the shell knows. -/
structure World where
  tape : Tape
  store : Array Cell := #[]
  /-- The names of the session, in the order in which they came up. -/
  globals : List (String × Object) := []
  /-- The calls under way, the innermost first. -/
  frames : List Frame := []
  /-- What was printed. -/
  printed : String := ""
  /-- How many statements there were. -/
  statements : Nat := 0
  /-- How many methods were asked for. -/
  methods : Nat := 0

/-- Why something has no outcome. -/
inductive Failure where
  | raised (message : String)
  /-- What was asked for ends the whole program. -/
  | breakdown
  deriving DecidableEq, Inhabited

/-- Steps that compute. -/
abbrev Run := EStateM Failure World

namespace Run

/-- Fails with a message. -/
def raise {α : Type} (message : String) : Run α := throw (.raised message)

/-- How many things fit into memory at once. -/
def mostThings : Nat := 0x100000000000

/-- Makes room for so many things. Without enough memory the whole program ends. -/
def makeRoom (count : Nat) : Run Unit :=
  if mostThings < count then throw .breakdown else pure ()

/-- Puts something into the store; gives its address. -/
def allocate (cell : Cell) : Run Nat := do
  let world ← get
  set { world with store := world.store.push cell }
  return world.store.size

/-- What the store holds at an address. -/
def cell (address : Nat) : Run Cell := return ((← get).store[address]?).getD (.slot none)

/-- Replaces what the store holds at an address. -/
def setCell (address : Nat) (cell : Cell) : Run Unit :=
  modify fun world => { world with store := world.store.setIfInBounds address cell }

/-- A new list. -/
def newList (items : List Object) : Run Object :=
  return .list (← allocate (.list items.toArray 0))

/-- A new dictionary, given entries with different keys. -/
def newDict (entries : Array (Object × Object)) : Run Object :=
  return .dict (← allocate (.dict entries 0))

/-- A new set, given different items. -/
def newSet (items : Array Object) : Run Object :=
  return .set (← allocate (.set items 0))

/-- The items of a list. -/
def listItems (address : Nat) : Run (Array Object) := do
  match ← cell address with
  | .list items _ => return items
  | _ => return #[]

/-- The entries of a dictionary. -/
def dictEntries (address : Nat) : Run (Array (Object × Object)) := do
  match ← cell address with
  | .dict entries _ => return entries
  | _ => return #[]

/-- The items of a set. -/
def setItems (address : Nat) : Run (Array Object) := do
  match ← cell address with
  | .set items _ => return items
  | _ => return #[]

/-- Fails if someone goes through a container; `verb` says what would be done to it. -/
def checkMutable (verb : String) (address : Nat) : Run Unit := do
  let check (noun : String) (visitors : Nat) : Run Unit :=
    if 0 < visitors then raise ("cannot " ++ verb ++ " " ++ noun ++ " during iteration")
    else pure ()
  match ← cell address with
  | .list _ visitors => check "list" visitors
  | .dict _ visitors => check "hash table" visitors
  | .set _ visitors => check "hash table" visitors
  | _ => pure ()

/-- Replaces the items of a list. -/
def setListItems (address : Nat) (items : Array Object) : Run Unit := do
  match ← cell address with
  | .list _ visitors => setCell address (.list items visitors)
  | _ => pure ()

/-- Adds an item at the end of a list. -/
def pushItem (address : Nat) (item : Object) : Run Unit :=
  modify fun world =>
    { world with
      store := world.store.modify address fun cell =>
        match cell with
        | .list items visitors => .list (items.push item) visitors
        | other => other }

/-- Replaces the entries of a dictionary. -/
def setDictEntries (address : Nat) (entries : Array (Object × Object)) : Run Unit := do
  match ← cell address with
  | .dict _ visitors => setCell address (.dict entries visitors)
  | _ => pure ()

/-- Replaces the items of a set. -/
def setSetItems (address : Nat) (items : Array Object) : Run Unit := do
  match ← cell address with
  | .set _ visitors => setCell address (.set items visitors)
  | _ => pure ()

/-- Counts one more or one less who goes through a container. -/
def visit (object : Object) (change : Nat → Nat) : Run Unit := do
  let address := match object with
    | .list address => some address
    | .dict address => some address
    | .set address => some address
    | _ => none
  match address with
  | none => pure ()
  | some address =>
    match ← cell address with
    | .list items visitors => setCell address (.list items (change visitors))
    | .dict entries visitors => setCell address (.dict entries (change visitors))
    | .set items visitors => setCell address (.set items (change visitors))
    | _ => pure ()

/-- Does something while someone goes through a thing, which does not change meanwhile. -/
def visiting {α : Type} (object : Object) (action : Run α) : Run α := do
  visit object (· + 1)
  try action
  finally visit object (· - 1)

/-- Notes the place that the innermost call has come to. -/
def mark (place : Place) : Run Unit :=
  modify fun world =>
    { world with frames := match world.frames with
        | frame :: others => { frame with place := some place } :: others
        | [] => [] }

end Run

end TapeMachine.Shell
