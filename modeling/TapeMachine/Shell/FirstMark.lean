import TapeMachine.Shell.Expr

/-!
The place that a call is said to be at before it has come to any: the first of the places that are
noted while its text is worked through.
-/

namespace TapeMachine.Shell.FirstMark

/-- The place that is noted with the very first step of an expression, given which names are noted.
-/
def lead? (isNoted : String → Bool) : Expr → Option Place
  | .name place name => if isNoted name then some place else none
  | .list _ (first :: _) => lead? isNoted first
  | .tuple _ (first :: _) => lead? isNoted first
  | .paren _ inner => lead? isNoted inner
  | .unary _ _ operand => lead? isNoted operand
  | .binary _ _ left _ => lead? isNoted left
  | .conditional condition _ _ => lead? isNoted condition
  | .index _ target _ => lead? isNoted target
  | .slice place target _ _ _ => some ((lead? isNoted target).getD place)
  | .member _ target _ => lead? isNoted target
  | .call _ function _ => lead? isNoted function
  | .lambda place _ _ => some place
  | _ => none

mutual

/-- The first place that is noted in an expression. -/
def ofExpr? (isNoted : String → Bool) : Expr → Option Place
  | .name place name => if isNoted name then some place else none
  | .list _ items => ofExprs? isNoted items
  | .tuple _ items => ofExprs? isNoted items
  | .paren _ inner => ofExpr? isNoted inner
  | .dict _ entries =>
    match entries with
    | (colon, key, value) :: _ =>
      ((ofExpr? isNoted key).or (ofExpr? isNoted value)).or (some colon)
    | [] => none
  | .comprehension _ _ _ _ _ clauses =>
    match clauses with
    | (.each place, _, source) :: _ => (ofExpr? isNoted source).or (some place)
    | _ => none
  | .unary place _ operand => (ofExpr? isNoted operand).or (some place)
  | .binary place operator left right =>
    let operands := (ofExpr? isNoted left).or (ofExpr? isNoted right)
    if operator = .or || operator = .and then operands else operands.or (some place)
  | .conditional condition yes no =>
    (ofExpr? isNoted condition).or ((ofExpr? isNoted yes).or (ofExpr? isNoted no))
  | .index place target key =>
    ((ofExpr? isNoted target).or (ofExpr? isNoted key)).or (some place)
  | .slice place target _ _ _ => some ((lead? isNoted target).getD place)
  | .member place target _ => (ofExpr? isNoted target).or (some place)
  | .call place function arguments =>
    ((ofExpr? isNoted function).or (ofArguments? isNoted arguments)).or (some place)
  | .lambda place _ _ => some place
  | _ => none

/-- The first place that is noted in several expressions. -/
def ofExprs? (isNoted : String → Bool) : List Expr → Option Place
  | [] => none
  | expr :: rest => (ofExpr? isNoted expr).or (ofExprs? isNoted rest)

/-- The first place that is noted in arguments. -/
def ofArguments? (isNoted : String → Bool) : List (ArgumentKind × Expr) → Option Place
  | [] => none
  | (_, value) :: rest => (ofExpr? isNoted value).or (ofArguments? isNoted rest)

end

/-- The first place that is noted in an assignment, behind its source. -/
def ofTarget? (isNoted : String → Bool) (place : Place) : Expr → Option Place
  | .tuple _ _ => some place
  | .list _ _ => some place
  | .paren _ inner => ofTarget? isNoted place inner
  | .index bracket target key =>
    ((ofExpr? isNoted target).or (ofExpr? isNoted key)).or (some bracket)
  | .member dot target _ => (ofExpr? isNoted target).or (some dot)
  | _ => none

mutual

/-- The first place that is noted in a statement. -/
def ofStmt? (isNoted : String → Bool) : Stmt → Option Place
  | .value expr => ofExpr? isNoted expr
  | .assign place target source =>
    (ofExpr? isNoted source).or (ofTarget? isNoted place target)
  | .update place _ target source =>
    ((ofExpr? isNoted target).or (ofExpr? isNoted source)).or (some place)
  | .choose _ condition yes no =>
    (ofExpr? isNoted condition).or ((ofStmts? isNoted yes).or (ofStmts? isNoted no))
  | .each place _ source _ => (ofExpr? isNoted source).or (some place)
  | .loop _ condition body => (ofExpr? isNoted condition).or (ofStmts? isNoted body)
  | .define place _ _ _ _ => some place
  | .giveBack _ result => ofExpr? isNoted result
  | .load place _ _ => some place
  | .branch _ _ => none

/-- The first place that is noted in statements. -/
def ofStmts? (isNoted : String → Bool) : List Stmt → Option Place
  | [] => none
  | stmt :: rest => (ofStmt? isNoted stmt).or (ofStmts? isNoted rest)

end

end TapeMachine.Shell.FirstMark
