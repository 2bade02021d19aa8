/-
Conditions read as text. A condition is a sequence of statements; all of them must be well formed, and the
first one is what the condition asks for.
-/
import BadgeEngine.Condition.Parser

namespace BadgeEngine.Condition

open Parse

/-- whether the next token is a given ASCII word that is no keyword; it is passed over -/
def takeWord (s : String) : Parse Bool := do
  match ← get with
  | .name t true :: rest => if s = t then set rest; return true else return false
  | _ => return false

/-- a token that must come next -/
def newline : Parse Unit := do
  match ← get with
  | .newline :: rest => set rest
  | _ => failure

def dottedName (left : Nat) : Parse Unit := do
  let _ ← name
  let _ ← many (do sign "."; let _ ← name) left

def renamed (p : Parse Unit) : Parse Unit := do
  p
  if ← takeKeyword "as" then let _ ← name

/-- what follows `from` in an import -/
def importFrom (left : Nat) : Parse Unit := do
  let dots ← many (do check ((← takeSign ".") || (← takeSign "..."))) left
  let named ← (do dottedName left; pure true) <|> pure false
  check (named || !dots.isEmpty)
  keyword "import"
  let item := renamed (do let _ ← name)
  if ← takeSign "*" then return ()
  else if ← takeSign "(" then
    let _ ← commaItems item left
    sign ")"
  else
    let _ ← commaList item left
    check !(← seesSign ",")

def assigningSigns : List String :=
  ["+=", "-=", "*=", "@=", "/=", "%=", "&=", "|=", "^=", "<<=", ">>=", "**=", "//="]

/-- whether the next token assigns by an operation; it is passed over -/
def takeAssigning : Parse Bool := do
  match ← get with
  | .sign s :: rest => if assigningSigns.contains s then set rest; return true else return false
  | _ => return false

/-- the right-hand sides of an assignment: all but the last can be assigned to -/
def assigned (n : Nat) : Nat → Parse Expr
  | 0 => failure
  | left + 1 => do
    let yields ← seesKeyword "yield"
    let e ← yieldOr n (starExpressions n)
    if ← takeSign "=" then
      check (!yields && e.isAssignable)
      assigned n left
    else return e

def expressionStatement (n : Nat) : Parse Statement := do
  let yields ← seesKeyword "yield"
  let e ← yieldOr n (starExpressions n)
  if yields then return .value e
  else if ← takeSign "=" then
    check e.isAssignable
    return .value (← assigned n n)
  else if ← takeAssigning then
    check e.isSingleTarget
    return .value (← yieldOr n (starExpressions n))
  else if ← takeSign ":" then
    check e.isSingleTarget
    let _ ← expression n
    if ← takeSign "=" then let _ ← yieldOr n (starExpressions n)
    return .other "AnnAssign"
  else return .value e

def simpleStatement (n : Nat) : Parse Statement := do
  match ← get with
  | .keyword s :: rest =>
    match s with
    | "pass" => set rest; return .other "Pass"
    | "break" => set rest; return .other "Break"
    | "continue" => set rest; return .other "Continue"
    | "return" =>
      set rest
      let _ ← (some <$> starExpressions n) <|> pure none
      return .other "Return"
    | "raise" =>
      set rest
      match ← (some <$> expression n) <|> pure none with
      | some _ => if ← takeKeyword "from" then let _ ← expression n
      | none => pure ()
      return .other "Raise"
    | "global" =>
      set rest
      let _ ← commaList name n
      return .other "Global"
    | "nonlocal" =>
      set rest
      let _ ← commaList name n
      return .other "Nonlocal"
    | "del" =>
      set rest
      let item : Parse Expr := do
        let e ← primary n
        check e.isDeletable
        return e
      let _ ← commaItems item n
      return .other "Delete"
    | "assert" =>
      set rest
      let _ ← expression n
      if ← takeSign "," then let _ ← expression n
      return .other "Assert"
    | "import" =>
      set rest
      let _ ← commaList (renamed (dottedName n)) n
      return .import
    | "from" =>
      set rest
      importFrom n
      return .other "ImportFrom"
    | _ => expressionStatement n
  | _ => expressionStatement n

def lineOfStatements (n : Nat) : Parse Statement := do
  let first ← simpleStatement n
  let _ ← many (do sign ";"; let _ ← simpleStatement n) n
  let _ ← takeSign ";"
  newline
  return first

/-! ## Patterns -/

def capture : Parse Unit := do
  let s ← name
  check (s ≠ "_")

/-- a number with a sign, and perhaps an imaginary part -/
def signedNumber : Parse Unit := do
  let _ ← takeSign "-"
  match ← get with
  | .number v :: rest =>
    set rest
    if (← seesSign "+") || (← seesSign "-") then
      modify List.tail
      match v, ← get with
      | .int _, .number (.imaginary _) :: rest' => set rest'
      | .float _, .number (.imaginary _) :: rest' => set rest'
      | _, _ => failure
  | _ => failure

def patternLiteral (n : Nat) : Parse Unit := do
  match ← get with
  | .quote _ :: _ =>
    let _ ← quotes n
  | .keyword s :: rest =>
    check (["True", "False", "None"].contains s)
    set rest
  | _ => signedNumber

mutual

def pattern : Nat → Parse Unit
  | 0 => failure
  | n + 1 => do
    closedPattern n
    let _ ← many (do sign "|"; closedPattern n) n
    if ← takeKeyword "as" then capture

def closedPattern : Nat → Parse Unit
  | 0 => failure
  | n + 1 => do
    match ← get with
    | .name _ _ :: rest =>
      set rest
      let _ ← many (do sign "."; let _ ← name) n
      if ← takeSign "(" then classPattern n
    | .sign s :: rest =>
      match s with
      | "(" =>
        set rest
        if ← takeSign ")" then return ()
        else
          let starred ← seesSign "*"
          let (items, comma) ← commaItems (patternItem n) n
          check (comma || (!starred && items.length = 1))
          sign ")"
      | "[" =>
        set rest
        if ← takeSign "]" then return ()
        else
          let _ ← commaItems (patternItem n) n
          sign "]"
      | "\x7b" =>
        set rest
        mappingPattern n
      | _ => patternLiteral n
    | _ => patternLiteral n

/-- a pattern in a sequence, which may take what is left -/
def patternItem : Nat → Parse Unit
  | 0 => failure
  | n + 1 => do
    if ← takeSign "*" then let _ ← name
    else pattern n

/-- what follows the opening bracket of a pattern of a class -/
def classPattern : Nat → Parse Unit
  | 0 => failure
  | n + 1 => do
    if ← takeSign ")" then return ()
    else
      match ← nameBefore "=" with
      | some _ =>
        pattern n
        let _ ← many (do
          sign ","
          match ← nameBefore "=" with
          | some _ => pattern n
          | none => failure) n
        let _ ← takeSign ","
        sign ")"
      | none =>
        pattern n
        if ← takeSign "," then classPattern n else sign ")"

/-- what follows the opening brace of a pattern of a mapping -/
def mappingPattern : Nat → Parse Unit
  | 0 => failure
  | n + 1 => do
    if ← takeSign "\x7d" then return ()
    else if ← takeSign "**" then
      capture
      let _ ← takeSign ","
      sign "\x7d"
    else
      match ← get with
      | .name _ _ :: _ =>
        let _ ← name
        sign "."
        dottedName n
      | _ => patternLiteral n
      sign ":"
      pattern n
      if ← takeSign "," then mappingPattern n else sign "\x7d"

end

def patterns (n : Nat) : Parse Unit := do
  let starred ← seesSign "*"
  let (_, comma) ← commaItems (patternItem n) n
  check (comma || !starred)

/-! ## Blocks -/

/-- the name of a function, with an annotation and a default if they are there -/
def functionItem (n : Nat) (star : Bool) : Parse Bool := do
  let _ ← name
  if ← takeSign ":" then
    if (← seesSign "*") && star then
      modify List.tail
      let _ ← binary n 1
    else let _ ← expression n
  if ← takeSign "=" then
    let _ ← expression n
    return true
  else return false

/-- one thing a block is entered with -/
def withItem (n : Nat) : Parse Unit := do
  let _ ← expression n
  if ← takeKeyword "as" then
    let _ ← takeSign "*"
    let e ← primary n
    check e.isTarget

mutual

def statement : Nat → Parse Statement
  | 0 => failure
  | n + 1 => do
    match ← get with
    | .keyword s :: rest =>
      match s with
      | "if" =>
        set rest
        conditional n
        return .other "If"
      | "while" =>
        set rest
        let _ ← namedExpression n
        block n
        elseBlock n
        return .other "While"
      | "for" =>
        set rest
        loop n
        return .other "For"
      | "with" =>
        set rest
        withBlock n
        return .other "With"
      | "try" =>
        set rest
        tryBlock n
      | "def" =>
        set rest
        function n
        return .other "FunctionDef"
      | "class" =>
        set rest
        classBlock n
        return .other "ClassDef"
      | "async" =>
        set rest
        asyncStatement n
      | _ => lineOfStatements n
    | .sign "@" :: rest =>
      set rest
      let _ ← namedExpression n
      newline
      decorated n
    | .name "match" true :: rest =>
      let whole ← get
      (do set rest; matchBlock n; return .other "Match") <|> (do set whole; lineOfStatements n)
    | _ => lineOfStatements n

/-- what follows `async` -/
def asyncStatement : Nat → Parse Statement
  | 0 => failure
  | n + 1 => do
    if ← takeKeyword "def" then
      function n
      return .other "AsyncFunctionDef"
    else if ← takeKeyword "for" then
      loop n
      return .other "AsyncFor"
    else
      keyword "with"
      withBlock n
      return .other "AsyncWith"

def decorated : Nat → Parse Statement
  | 0 => failure
  | n + 1 => do
    if ← takeSign "@" then
      let _ ← namedExpression n
      newline
      decorated n
    else if ← takeKeyword "def" then
      function n
      return .other "FunctionDef"
    else if ← takeKeyword "class" then
      classBlock n
      return .other "ClassDef"
    else
      keyword "async"
      keyword "def"
      function n
      return .other "AsyncFunctionDef"

/-- a colon and what belongs to it: indented lines, or the rest of the line -/
def block : Nat → Parse Unit
  | 0 => failure
  | n + 1 => do
    sign ":"
    match ← get with
    | .newline :: .indent :: rest =>
      set rest
      let _ ← statement n
      let _ ← many (statement n) n
      match ← get with
      | .dedent :: rest => set rest
      | _ => failure
    | _ => let _ ← lineOfStatements n

/-- an `else` with its block, if there is one -/
def elseBlock : Nat → Parse Unit
  | 0 => failure
  | n + 1 => do
    if ← takeKeyword "else" then block n

/-- what follows `if` -/
def conditional : Nat → Parse Unit
  | 0 => failure
  | n + 1 => do
    let _ ← namedExpression n
    block n
    if ← takeKeyword "elif" then conditional n else elseBlock n

/-- what follows `for` -/
def loop : Nat → Parse Unit
  | 0 => failure
  | n + 1 => do
    let _ ← targets n
    keyword "in"
    let _ ← starExpressions n
    block n
    elseBlock n

/-- what follows `with` -/
def withBlock : Nat → Parse Unit
  | 0 => failure
  | n + 1 => do
    let whole ← get
    (do
      sign "("
      let _ ← commaItems (withItem n) n
      sign ")"
      check (← seesSign ":")) <|> (do
      set whole
      let _ ← commaList (withItem n) n)
    block n

/-- what follows `try` -/
def tryBlock : Nat → Parse Statement
  | 0 => failure
  | n + 1 => do
    block n
    if ← takeKeyword "finally" then
      block n
      return .other "Try"
    else
      keyword "except"
      let group ← seesSign "*"
      handler n group
      let _ ← many (do
        keyword "except"
        handler n group) n
      elseBlock n
      if ← takeKeyword "finally" then block n
      return .other (if group then "TryStar" else "Try")

/-- what follows `except`; `group` tells whether a star stands behind it -/
def handler : Nat → Bool → Parse Unit
  | 0, _ => failure
  | n + 1, group => do
    if group then sign "*"
    if group || !(← seesSign ":") then
      let _ ← expression n
      if ← takeKeyword "as" then let _ ← name
    block n

/-- what follows `def` -/
def function : Nat → Parse Unit
  | 0 => failure
  | n + 1 => do
    let _ ← name
    sign "("
    parameters (functionItem n) (seesSign ")") n 0 true true
    sign ")"
    if ← takeSign "->" then let _ ← expression n
    block n

/-- what follows `class` -/
def classBlock : Nat → Parse Unit
  | 0 => failure
  | n + 1 => do
    let _ ← name
    if ← takeSign "(" then
      let _ ← arguments n false
      sign ")"
    block n

/-- what follows `match` -/
def matchBlock : Nat → Parse Unit
  | 0 => failure
  | n + 1 => do
    let starred ← seesSign "*"
    let (_, comma) ← commaItems (starItem n) n
    check (comma || !starred)
    sign ":"
    match ← get with
    | .newline :: .indent :: rest => set rest
    | _ => failure
    caseBlock n
    let _ ← many (caseBlock n) n
    match ← get with
    | .dedent :: rest => set rest
    | _ => failure

def caseBlock : Nat → Parse Unit
  | 0 => failure
  | n + 1 => do
    check (← takeWord "case")
    patterns n
    if ← takeKeyword "if" then let _ ← namedExpression n
    block n

end

/-! ## Conditions -/

/-- why a condition cannot be read -/
inductive ReadError where
  | malformed
  | empty
  deriving DecidableEq, Repr

/-- the first statement of a condition, when all of it is well formed -/
def readCondition (text : String) : Except ReadError Statement :=
  let cs := Text.trim text.toList
  match tokens? cs with
  | none => .error .malformed
  | some [] => .error .empty
  | some tokens =>
    let steps := 64 * (cs.length + 8)
    match (do
      let first ← statement steps
      let _ ← many (statement steps) steps
      return first : Parse Statement).run tokens with
    | some (first, []) => .ok first
    | _ => .error .malformed

end BadgeEngine.Condition
