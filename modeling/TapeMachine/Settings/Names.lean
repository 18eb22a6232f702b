import TapeMachine.Settings.Grammar
import TapeMachine.Settings.Package
import TapeMachine.Settings.Predeclared

/-!
The names in a text. Every name must stand for something: a field without quotes or a bound value in
a record around it, an import, or what is always known. A value bound to a name must be used.
-/

namespace TapeMachine.Settings

/-- The names that an expression takes from around it, and whether all names inside it are well
used.
-/
structure Usage where
  names : List String := []
  isSound : Bool := true
  deriving Inhabited

namespace Usage

/-- What is used in two expressions. -/
def union (x y : Usage) : Usage := ⟨x.names ++ y.names, x.isSound && y.isSound⟩

/-- What is used of the names around a scope in which some names are known. Names that are bound
must be used.
-/
def within (known bound : List String) (usage : Usage) : Usage :=
  { names := usage.names.filter (!known.contains ·)
    isSound := usage.isSound && bound.all usage.names.contains }

end Usage

/-- The fields of a record whose names are in scope inside it. -/
def Declaration.fieldNames (declarations : List Declaration) : List String :=
  declarations.filterMap fun
    | .field (.plain name) true .. => some name
    | .field (.hidden name) true .. => some name
    | .field (.definition name) true .. => some name
    | .field (.hiddenDefinition name) true .. => some name
    | _ => none

/-- The other names that a record gives. -/
def Declaration.boundNames (declarations : List Declaration) : List String :=
  declarations.filterMap fun
    | .field _ _ byname .. => byname
    | .dynamic _ byname .. => byname
    | .binding name _ => some name
    | _ => none

mutual

/-- The names that an expression uses. -/
def Expr.usage : Expr → Usage
  | .atom _ => {}
  | .never => {}
  | .reference name => ⟨[name], true⟩
  | .select base _ => base.usage
  | .index base place => base.usage.union place.usage
  | .slice base low high => (base.usage.union (usageIn low)).union (usageIn high)
  | .call function arguments => function.usage.union (usageAll arguments)
  | .sign _ operand => operand.usage
  | .join _ left right => left.usage.union right.usage
  | .interpolation _ parts => usageAll parts
  | .list items rest => (usageAll items).union (usageIn rest)
  | .record declarations =>
    let fields := Declaration.fieldNames declarations
    let bound := Declaration.boundNames declarations
    let isDistinct := bound.all (!fields.contains ·) && bound.eraseDups.length == bound.length
    let usage := (usageDeclarations declarations).within (fields ++ bound) bound
    { usage with isSound := usage.isSound && isDistinct }
  | .comprehension clauses body => usageClauses body.usage clauses
  | .aliased name value => value.usage.within [name] [name]

/-- The names that an expression uses, if there is one. -/
def usageIn : Option Expr → Usage
  | none => {}
  | some expr => expr.usage

/-- The names that several expressions use. -/
def usageAll : List Expr → Usage
  | [] => {}
  | expr :: rest => expr.usage.union (usageAll rest)

/-- The names that declarations use. -/
def usageDeclarations : List Declaration → Usage
  | [] => {}
  | declaration :: rest => declaration.usage.union (usageDeclarations rest)

/-- The names that a declaration uses. -/
def Declaration.usage : Declaration → Usage
  | .field _ _ _ _ value => value.usage
  | .dynamic name _ _ value => name.usage.union value.usage
  | .pattern byname name value => name.usage.union (value.usage.within byname.toList byname.toList)
  | .embedded value => value.usage
  | .binding _ value => value.usage
  | .openEnd => {}

/-- The names that clauses use in front of what uses the names they give. -/
def usageClauses (body : Usage) : List Clause → Usage
  | [] => body
  | .each key element source :: rest =>
    source.usage.union ((usageClauses body rest).within (element :: key.toList) [])
  | .condition value :: rest => value.usage.union (usageClauses body rest)
  | .binding name value :: rest =>
    value.usage.union ((usageClauses body rest).within [name] [name])

end

/-- All names of a text stand for something, and all that is imported or bound is there and is used.
-/
def Source.isSound (source : Source) : Bool :=
  let usage := (Expr.record source.declarations).usage
  let imported := source.imports.map (·.1)
  usage.isSound && imported.all usage.names.contains
    && (source.imports.all fun (_, path) => Package.paths.contains path)
    && usage.names.all fun name => imported.contains name || (Predeclared.find? name).isSome

end TapeMachine.Settings
