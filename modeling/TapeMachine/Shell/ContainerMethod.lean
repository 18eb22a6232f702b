import TapeMachine.Shell.Argument

/-!
The methods of lists, dictionaries and sets in the debug shell.
-/

namespace TapeMachine.Shell

/-- Puts a key and a value, which are the two items of the pair with a number, into a dictionary. -/
def putPair (address number : Nat) (pair : Object) : Run Unit := do
  let element := s!"dictionary update sequence element #{number} "
  match ← Run.course? pair with
  | none => Run.raise s!"{element}is not iterable ({pair.typeName})"
  | some course =>
    match ← Run.length? pair, course.take 3 with
    | none, _ => Run.raise (element ++ "has unknown length")
    | some _, [key, value] => Run.visiting pair (Run.putEntry address key value)
    | some length, _ => Run.raise s!"{element}has length {length}, want 2"

/-- Puts the entries of a dictionary or of a sequence of pairs, and named values, into a dictionary.
-/
def updateDict (address : Nat) (arguments : Arguments) : Run Unit := do
  match arguments.positional with
  | [.dict other] =>
    for (key, value) in ← Run.dictEntries other do
      Run.putEntry address key value
  | [source] =>
    match ← Run.course? source with
    | none => Run.raise s!"got {source.typeName}, want iterable"
    | some course =>
      let _ ← Run.visiting source (course.mapM (putPair address))
  | _ => pure ()
  let before := (← Run.dictEntries address).size
  for (key, value) in arguments.named do
    Run.putEntry address (.text key) value
  if (← Run.dictEntries address).size < before + arguments.named.length then
    let keys := arguments.named.map (·.1)
    let numbered := (List.range keys.length).zip keys
    match numbered.find? fun (number, key) => (keys.take number).contains key with
    | some (_, key) => Run.raise ("duplicate keyword arg: " ++ Text.quotedBytes key)
    | none => pure ()

namespace ListMethod

/-- The items with one put in at a place, which counts from the end if negative. -/
def inserted (items : List Object) (place : Int) (item : Object) : List Object :=
  let place := if place < 0 then place + items.length else place
  items.take place.toNat ++ item :: items.drop place.toNat

/-- Where an item first is equal to another. -/
def placeOf? (item : Object) : Nat → List Object → Run (Option Nat)
  | _, [] => return none
  | place, first :: rest => do
    if ← Run.isEqual first item then return some place else placeOf? item (place + 1) rest

/-- Calls a method of a list. -/
def call (name : String) (address : Nat) (arguments : Arguments) : Run Object := do
  let check (verb : String) : Run Unit := Run.blame name (Run.checkMutable verb address)
  match name with
  | "append" =>
    let given ← arguments.unnamed name 1 [.anything]
    check "append to"
    Run.pushItem address (given.headD .none)
    return .none
  | "clear" =>
    arguments.none name
    check "clear"
    Run.setListItems address #[]
    return .none
  | "extend" =>
    let given ← arguments.unnamed name 1 [.iterable]
    let more := (← Run.items? (given.headD .none)).getD []
    check "extend"
    Run.setListItems address ((← Run.listItems address) ++ more.toArray)
    return .none
  | "index" =>
    let given ← arguments.unnamed name 1 [.anything, .anything, .anything]
    let items := (← Run.listItems address).toList
    let (start, stop) ← Run.blame name
      (Access.ends (given.getD 1 .none) (given.getD 2 .none) items.length)
    match ← Run.blame name (placeOf? (given.headD .none) start ((items.take stop).drop start)) with
    | some place => return .int place
    | none => Run.raise (name ++ ": value not in list")
  | "insert" =>
    match ← arguments.unnamed name 2 [.int, .anything] with
    | [.int place, item] =>
      check "insert into"
      let items := (← Run.listItems address).toList
      Run.setListItems address (inserted items place item).toArray
      return .none
    | _ => return .none
  | "pop" =>
    let given ← arguments.unnamed name 0 [.int]
    let items ← Run.listItems address
    let place : Int := match given with
      | [.int place] => place
      | _ => (items.size : Int) - 1
    let found ← Run.blame name (Access.orRaise (Access.position place items.size "list"))
    check "pop from"
    Run.setListItems address (items.eraseIdxIfInBounds found)
    return items.getD found .none
  | _ =>
    let given ← arguments.unnamed name 1 [.anything]
    check "remove from"
    let items ← Run.listItems address
    match ← Run.blame name (placeOf? (given.headD .none) 0 items.toList) with
    | some place =>
      Run.setListItems address (items.eraseIdxIfInBounds place)
      return .none
    | none => Run.raise "remove: element not found"

end ListMethod

namespace DictMethod

/-- Calls a method of a dictionary. -/
def call (name : String) (address : Nat) (arguments : Arguments) : Run Object := do
  match name with
  | "clear" =>
    arguments.none name
    Run.checkMutable "clear" address
    Run.setDictEntries address #[]
    return .none
  | "get" =>
    let given ← arguments.unnamed name 1 [.anything, .anything]
    let found ← Run.blame name (Run.dictValue? address (given.headD .none))
    return found.getD (given.getD 1 .none)
  | "items" =>
    arguments.none name
    let entries := (← Run.dictEntries address).toList
    Run.newList (entries.map fun (key, value) => .tuple [key, value])
  | "keys" =>
    arguments.none name
    Run.newList ((← Run.dictEntries address).toList.map (·.1))
  | "values" =>
    arguments.none name
    Run.newList ((← Run.dictEntries address).toList.map (·.2))
  | "pop" =>
    let given ← arguments.unnamed name 1 [.anything, .anything]
    match ← Run.blame name (Run.takeEntry? address (given.headD .none)), given with
    | some value, _ => return value
    | none, [_, otherwise] => return otherwise
    | none, _ => Run.raise (name ++ ": missing key")
  | "popitem" =>
    arguments.none name
    match (← Run.dictEntries address)[0]? with
    | some (key, value) =>
      let _ ← Run.blame name (Run.takeEntry? address key)
      return .tuple [key, value]
    | none => Run.raise (name ++ ": empty dict")
  | "setdefault" =>
    let given ← arguments.unnamed name 1 [.anything, .anything]
    let key := given.headD .none
    let value := given.getD 1 .none
    match ← Run.blame name (Run.dictValue? address key) with
    | some found => return found
    | none =>
      Run.blame name (Run.putEntry address key value)
      return value
  | _ =>
    let count := arguments.positional.length
    if 1 < count then Run.raise s!"update: got {count} arguments, want at most 1"
    Run.blame name (updateDict address arguments)
    return .none

end DictMethod

namespace SetMethod

/-- The items of a set after others are taken out that are there and put in that are not. -/
def toggled (items others : Array Object) : Array Object :=
  others.foldl (fun items item =>
    if items.any (·.isSameKey item) then items.filter (!·.isSameKey item) else items.push item)
    items

/-- The items of a set with others. -/
def extended (items others : Array Object) : Array Object :=
  others.foldl (fun items item =>
    if items.any (·.isSameKey item) then items else items.push item) items

/-- All items are among those of something else, of which no more is seen than needed. -/
def isCovered (items : Array Object) (course : Course) : Run Bool := do
  if items.isEmpty then return true
  let seen ← Run.allocate (.set #[] 0)
  let found ← course.find? fun item => do
    Run.checkKey item
    if items.any (·.isSameKey item) then Run.putItem seen item
    return if (← Run.setItems seen).size = items.size then some true else none
  return found.getD false

/-- All items of something else are among those of a set. The first that is not decides. -/
def covers (items : Array Object) (course : Course) : Run Bool := do
  let found ← course.find? fun item => do
    Run.checkKey item
    return if items.any (·.isSameKey item) then none else some false
  return found.getD true

/-- Combines a set with the items of something else, without which nothing can go on. -/
def combine (name : String) (items : Array Object) (arguments : Arguments) : Run Object := do
  match ← arguments.unnamed name 0 [.iterable] with
  | [source] =>
    let course := (← Run.course? source).getD (.items [])
    match name with
    | "issubset" => return .bool (← Run.blame name (isCovered items course))
    | "issuperset" => return .bool (← Run.blame name (covers items course))
    | name =>
      if !(name = "difference" && items.isEmpty) then
        Run.blame name (course.forM Run.checkKey)
      let others := course.toList.toArray
      match name with
      | "difference" => Run.newSet (Operator.without items others)
      | "intersection" => Run.newSet (extended #[] (Operator.common items others))
      | "symmetric_difference" => Run.newSet (toggled items others)
      | _ => Run.newSet (extended items others)
  | _ => throw .breakdown

/-- Calls a method of a set. -/
def call (name : String) (address : Nat) (arguments : Arguments) : Run Object := do
  match name with
  | "add" =>
    let item := (← arguments.unnamed name 1 [.anything]).headD .none
    if !(← Run.blame name (Run.isInSet address item)) then
      Run.blame name (Run.putItem address item)
    return .none
  | "clear" =>
    arguments.none name
    Run.blame name (Run.checkMutable "clear" address)
    Run.setSetItems address #[]
    return .none
  | "discard" =>
    let item := (← arguments.unnamed name 1 [.anything]).headD .none
    if ← Run.blame name (Run.isInSet address item) then
      let _ ← Run.blame name (Run.takeItem address item)
    return .none
  | "pop" =>
    arguments.none name
    match (← Run.setItems address)[0]? with
    | some item =>
      let _ ← Run.blame name (Run.takeItem address item)
      return item
    | none => Run.raise (name ++ ": empty set")
  | "remove" =>
    let item := (← arguments.unnamed name 1 [.anything]).headD .none
    if ← Run.blame name (Run.takeItem address item) then return .none
    else Run.raise (name ++ ": missing key")
  | "update" =>
    if !arguments.named.isEmpty then Run.raise (name ++ ": unexpected keyword arguments")
    let numbered := (List.range arguments.positional.length).zip arguments.positional
    for (number, source) in numbered do
      match ← Run.course? source with
      | none => Run.raise s!"{name}: argument #{number + 1} is not iterable: {source.typeName}"
      | some course =>
        Run.blame name (Run.visiting source (course.forM (Run.putItem address)))
    return .none
  | name => combine name (← Run.setItems address) arguments

end SetMethod

end TapeMachine.Shell
