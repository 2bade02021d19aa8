/-
Expressions read from tokens. Operators bind by level; a reader that fails leaves nothing behind, and
every reader is bounded by a number of steps that the length of the text sets.
-/
import BadgeEngine.Condition.Expr
import BadgeEngine.Condition.Literal

namespace BadgeEngine.Condition

abbrev Parse := StateT (List Token) Option

namespace Parse

/-- the next token, left in place -/
def peek : Parse (Option Token) := do return (← get).head?

def check (b : Bool) : Parse Unit := if b then pure () else failure

def isSign (s : String) : Token → Bool
  | .sign t => s = t
  | _ => false

def isKeyword (s : String) : Token → Bool
  | .keyword t => s = t
  | _ => false

def seesSign (s : String) : Parse Bool := do return (← get).head?.any (isSign s)

def seesKeyword (s : String) : Parse Bool := do return (← get).head?.any (isKeyword s)

/-- passes over a sign if it comes next -/
def takeSign (s : String) : Parse Bool := do
  if ← seesSign s then modify List.tail; return true else return false

/-- passes over a keyword if it comes next -/
def takeKeyword (s : String) : Parse Bool := do
  if ← seesKeyword s then modify List.tail; return true else return false

/-- a sign that must come next -/
def sign (s : String) : Parse Unit := do check (← takeSign s)

/-- a keyword that must come next -/
def keyword (s : String) : Parse Unit := do check (← takeKeyword s)

/-- a name that must come next -/
def name : Parse String := do
  match ← get with
  | .name n _ :: rest => set rest; return n
  | _ => failure

/-- a name that is followed by a sign; both are passed over -/
def nameBefore (s : String) : Parse (Option String) := do
  match ← get with
  | .name n _ :: .sign t :: rest => if s = t then set rest; return some n else return none
  | _ => return none

/-- whether a name is given to the expression that begins here -/
def seesNaming : Parse Bool := do
  match ← get with
  | .name _ _ :: .sign ":=" :: _ => return true
  | _ => return false

/-- as many as there are, one at least counted by `left` -/
def many {α : Type} (p : Parse α) : Nat → Parse (List α)
  | 0 => return []
  | left + 1 => do
    match ← (some <$> p) <|> pure none with
    | some a => return a :: (← many p left)
    | none => return []

/-- one or more with commas between; a comma at the end is left in place -/
def commaList {α : Type} (p : Parse α) (left : Nat) : Parse (List α) := do
  let first ← p
  return first :: (← many (do sign ","; p) left)

/-- one or more with commas between and perhaps one at the end: the items, and whether there was a comma -/
def commaItems {α : Type} (p : Parse α) (left : Nat) : Parse (List α × Bool) := do
  let items ← commaList p left
  let last ← takeSign ","
  return (items, last || 1 < items.length)

end Parse

open Parse

/-- an operator that stands between two values, with its level: the higher, the closer it binds -/
def binaryOp? : Token → Option (Nat × BinaryOp)
  | .sign s =>
    match s with
    | "|" => some (1, .or)
    | "^" => some (2, .xor)
    | "&" => some (3, .and)
    | "<<" => some (4, .shiftLeft)
    | ">>" => some (4, .shiftRight)
    | "+" => some (5, .add)
    | "-" => some (5, .sub)
    | "*" => some (6, .mul)
    | "/" => some (6, .div)
    | "//" => some (6, .floorDiv)
    | "%" => some (6, .mod)
    | "@" => some (6, .matMul)
    | _ => none
  | _ => none

/-- an operator that stands before a value and binds closer than all others but the power -/
def unaryOp? : Token → Option UnaryOp
  | .sign s =>
    match s with
    | "-" => some .minus
    | "+" => some .plus
    | "~" => some .invert
    | _ => none
  | _ => none

def compareOp? : List Token → Option (CompareOp × List Token)
  | .sign s :: rest =>
    match s with
    | "==" => some (.eq, rest)
    | "!=" => some (.ne, rest)
    | "<" => some (.lt, rest)
    | "<=" => some (.le, rest)
    | ">" => some (.gt, rest)
    | ">=" => some (.ge, rest)
    | _ => none
  | .keyword s :: rest =>
    match s, rest with
    | "is", .keyword "not" :: rest' => some (.isNot, rest')
    | "is", _ => some (.is, rest)
    | "in", _ => some (.isIn, rest)
    | "not", .keyword "in" :: rest' => some (.notIn, rest')
    | _, _ => none
  | _ => none

/-- texts joined where they stand side by side -/
def joinTexts : List Expr → List Expr
  | .const (.text a) :: es =>
    match joinTexts es with
    | .const (.text b) :: rest => .const (.text (a ++ b)) :: rest
    | rest => .const (.text a) :: rest
  | e :: es => e :: joinTexts es
  | [] => []

def NumberToken.constant : NumberToken → Constant
  | .int n => .int n
  | .float x => .float x
  | .imaginary x => .imaginary x

/-- a list of expressions, or the one that stands alone without a comma -/
def tupleOr : List Expr × Bool → Expr
  | ([e], false) => e
  | (es, _) => .tuple es

/-- names with their defaults, as a function takes them. Which kinds may still come is told by `stage`:
0 before any default, 1 after one, 2 after a star, 3 right after a bare star, 4 at the end; `slash` tells
whether the mark of positional names is still allowed. -/
def parameters (item : Bool → Parse Bool) (closed : Parse Bool) : Nat → Nat → Bool → Bool → Parse Unit
  | 0, _, _, _ => failure
  | left + 1, stage, slash, first => do
    if ← closed then check (stage ≠ 3)
    else
      check (stage ≠ 4)
      let next (stage : Nat) (slash : Bool) : Parse Unit := do
        if ← takeSign "," then parameters item closed left stage slash false
        else do
          check (← closed)
          check (stage ≠ 3)
      if ← takeSign "/" then
        check (slash && !first)
        next stage false
      else if ← takeSign "**" then
        check (stage ≠ 3)
        let defaulted ← item false
        check !defaulted
        next 4 false
      else if ← takeSign "*" then
        check (stage ≤ 1)
        if ← seesSign "," then next 3 false
        else do
          let defaulted ← item true
          check !defaulted
          next 2 false
      else
        let defaulted ← item false
        if stage ≤ 1 then
          check (stage = 0 || defaulted)
          next (if defaulted then 1 else 0) slash
        else next 2 false

/-- positional and named arguments of a call, as they are gathered -/
structure Arguments where
  positional : List Expr := []
  named : List (Option String × Expr) := []
  /-- whether a name was given, and whether a mapping was spread -/
  anyName : Bool := false
  anySpread : Bool := false

mutual

def expression : Nat → Parse Expr
  | 0 => failure
  | n + 1 => do
    if ← takeKeyword "lambda" then
      parameters (fun _ => lambdaItem n) (seesSign ":") n 0 true true
      sign ":"
      let _ ← expression n
      return .other "Lambda"
    else
      let value ← disjunction n
      if ← takeKeyword "if" then
        let test ← disjunction n
        keyword "else"
        return .choose test value (← expression n)
      else return value

/-- one name of a function without a name of its own, and whether it has a default -/
def lambdaItem : Nat → Parse Bool
  | 0 => failure
  | n + 1 => do
    let _ ← name
    if ← takeSign "=" then
      let _ ← expression n
      return true
    else return false

def disjunction : Nat → Parse Expr
  | 0 => failure
  | n + 1 => do
    let first ← conjunction n
    match ← many (do keyword "or"; conjunction n) n with
    | [] => return first
    | rest => return .junction false (first :: rest)

def conjunction : Nat → Parse Expr
  | 0 => failure
  | n + 1 => do
    let first ← inversion n
    match ← many (do keyword "and"; inversion n) n with
    | [] => return first
    | rest => return .junction true (first :: rest)

def inversion : Nat → Parse Expr
  | 0 => failure
  | n + 1 => do
    if ← takeKeyword "not" then return .unary .not (← inversion n)
    else
      let first ← binary n 1
      match ← many (link n) n with
      | [] => return first
      | links => return .compare first links

def link : Nat → Parse (CompareOp × Expr)
  | 0 => failure
  | n + 1 => do
    match compareOp? (← get) with
    | some (op, rest) =>
      set rest
      return (op, ← binary n 1)
    | none => failure

def binary : Nat → Nat → Parse Expr
  | 0, _ => failure
  | n + 1, level => do binaryFrom n level (← factor n)

/-- what follows the first value of a row of operators -/
def binaryFrom : Nat → Nat → Expr → Parse Expr
  | 0, _, _ => failure
  | n + 1, level, left => do
    match (← peek).bind binaryOp? with
    | some (l, op) =>
      if level ≤ l then
        modify List.tail
        let right ← binary n (l + 1)
        binaryFrom n level (.binary op left right)
      else return left
    | none => return left

/-- a value with signs before it and a power behind it -/
def factor : Nat → Parse Expr
  | 0 => failure
  | n + 1 => do
    match (← peek).bind unaryOp? with
    | some op =>
      modify List.tail
      return .unary op (← factor n)
    | none =>
      let awaited ← takeKeyword "await"
      let base ← primary n
      let base := if awaited then .other "Await" else base
      if ← takeSign "**" then return .binary .pow base (← factor n) else return base

/-- a value with attributes, keys and calls behind it -/
def primary : Nat → Parse Expr
  | 0 => failure
  | n + 1 => do trailers n (← atom n)

def trailers : Nat → Expr → Parse Expr
  | 0, _ => failure
  | n + 1, e => do
    let site := (← get).length
    if ← takeSign "." then trailers n (.member e (← name))
    else if ← takeSign "[" then
      let key ← subscripts n
      sign "]"
      trailers n (.subscript e key)
    else if ← takeSign "(" then
      let args ← arguments n true
      sign ")"
      trailers n (.call site e args.positional.reverse args.named.reverse)
    else return e

/-- what stands in square brackets behind a value -/
def subscripts : Nat → Parse Expr
  | 0 => failure
  | n + 1 => do
    let (items, comma) ← commaItems (subscriptItem n) n
    match items, comma with
    | [.starred e], false => return .tuple [.starred e]
    | [e], false => return e
    | es, _ => return .tuple es

/-- one key or range of keys -/
def subscriptItem : Nat → Parse Expr
  | 0 => failure
  | n + 1 => do
    if ← takeSign "*" then return .starred (← expression n)
    else if ← seesNaming then namedExpression n
    else
      let low ← if ← seesSign ":" then pure none else some <$> expression n
      if ← takeSign ":" then
        let high ← (some <$> expression n) <|> pure none
        let step ← if ← takeSign ":" then (some <$> expression n) <|> pure none else pure none
        return .slice low high step
      else
        match low with
        | some e => return e
        | none => failure

/-- what stands in the brackets of a call; `clause` tells whether `for` may follow a single argument -/
def arguments : Nat → Bool → Parse Arguments
  | 0, _ => failure
  | n + 1, clause => do
    if ← seesSign ")" then return {}
    else
      let args ← argument n {}
      match args with
      | { positional := [e], named := [], .. } =>
        if (← seesKeyword "for") || (← seesKeyword "async") then
          check (clause && match e with | .starred _ => false | _ => true)
          clauses n
          return { positional := [.other "GeneratorExp"] }
        else moreArguments n args
      | _ => moreArguments n args

/-- the arguments after the first -/
def moreArguments : Nat → Arguments → Parse Arguments
  | 0, _ => failure
  | n + 1, args => do
    if ← seesSign ")" then return args
    else
      sign ","
      if ← seesSign ")" then return args else moreArguments n (← argument n args)

def argument : Nat → Arguments → Parse Arguments
  | 0, _ => failure
  | n + 1, args => do
    if ← takeSign "**" then
      let e ← expression n
      return { args with named := (none, e) :: args.named, anySpread := true }
    else if ← takeSign "*" then
      check !args.anySpread
      let e ← expression n
      return { args with positional := .starred e :: args.positional }
    else
      match ← nameBefore "=" with
      | some key =>
        let e ← expression n
        return { args with named := (some key, e) :: args.named, anyName := true }
      | none =>
        check !(args.anyName || args.anySpread)
        let e ← namedExpression n
        return { args with positional := e :: args.positional }

def namedExpression : Nat → Parse Expr
  | 0 => failure
  | n + 1 => do
    match ← nameBefore ":=" with
    | some _ =>
      let _ ← expression n
      return .other "NamedExpr"
    | none => expression n

/-- an item of a list, which may spread another list -/
def starItem : Nat → Parse Expr
  | 0 => failure
  | n + 1 => do
    if ← takeSign "*" then return .starred (← binary n 1) else namedExpression n

/-- an expression, or several with commas between -/
def starExpressions : Nat → Parse Expr
  | 0 => failure
  | n + 1 => do
    let item : Parse Expr := do
      if ← takeSign "*" then return .starred (← binary n 1) else expression n
    return tupleOr (← commaItems item n)

/-- a yield, if one begins here -/
def yieldOr : Nat → Parse Expr → Parse Expr
  | 0, _ => failure
  | n + 1, otherwise => do
    if ← takeKeyword "yield" then
      if ← takeKeyword "from" then
        let _ ← expression n
        return .other "YieldFrom"
      else
        let _ ← (some <$> starExpressions n) <|> pure none
        return .other "Yield"
    else otherwise

/-- one or more things to assign to, with commas between -/
def targets : Nat → Parse Expr
  | 0 => failure
  | n + 1 => do
    let item : Parse Expr := do
      let starred ← takeSign "*"
      let e ← primary n
      check e.isTarget
      return if starred then .starred e else e
    return tupleOr (← commaItems item n)

/-- one or more `for` clauses, each with its conditions -/
def clauses : Nat → Parse Unit
  | 0 => failure
  | n + 1 => do
    let _ ← takeKeyword "async"
    keyword "for"
    let _ ← targets n
    keyword "in"
    let _ ← disjunction n
    let _ ← many (do keyword "if"; let _ ← disjunction n) n
    if (← seesKeyword "for") || (← seesKeyword "async") then clauses n else return ()

def atom : Nat → Parse Expr
  | 0 => failure
  | n + 1 => do
    match ← get with
    | .name s _ :: rest => set rest; return .name s
    | .number v :: rest => set rest; return .const v.constant
    | .keyword s :: rest =>
      match s with
      | "True" => set rest; return .const (.bool true)
      | "False" => set rest; return .const (.bool false)
      | "None" => set rest; return .const .null
      | _ => failure
    | .quote _ :: _ => quotes n
    | .sign s :: rest =>
      match s with
      | "..." => set rest; return .const .ellipsis
      | "(" => set rest; round n
      | "[" => set rest; square n
      | "\x7b" => set rest; braces n
      | _ => failure
    | _ => failure

/-- what follows a round bracket -/
def round : Nat → Parse Expr
  | 0 => failure
  | n + 1 => do
    if ← takeSign ")" then return .tuple []
    else if ← seesKeyword "yield" then
      let e ← yieldOr n failure
      sign ")"
      return e
    else
      let first ← starItem n
      if (← seesKeyword "for") || (← seesKeyword "async") then
        check (match first with | .starred _ => false | _ => true)
        clauses n
        sign ")"
        return .other "GeneratorExp"
      else if ← takeSign "," then
        let more ← (Prod.fst <$> commaItems (starItem n) n) <|> pure []
        sign ")"
        return .tuple (first :: more)
      else
        check (match first with | .starred _ => false | _ => true)
        sign ")"
        return first

/-- what follows a square bracket -/
def square : Nat → Parse Expr
  | 0 => failure
  | n + 1 => do
    if ← takeSign "]" then return .list []
    else
      let (items, comma) ← commaItems (starItem n) n
      if !comma && ((← seesKeyword "for") || (← seesKeyword "async")) then
        check (match items with | .starred _ :: _ => false | _ => true)
        clauses n
        sign "]"
        return .other "ListComp"
      else
        sign "]"
        return .list items

/-- what follows a curly bracket -/
def braces : Nat → Parse Expr
  | 0 => failure
  | n + 1 => do
    if ← takeSign "\x7d" then return .other "Dict"
    else if ← seesSign "**" then entries n
    else
      let plain := !(← seesSign "*") && !(← seesNaming)
      let first ← starItem n
      if ← (if plain then takeSign ":" else pure false) then
        let _ ← expression n
        if (← seesKeyword "for") || (← seesKeyword "async") then
          clauses n
          sign "\x7d"
          return .other "DictComp"
        else if ← takeSign "," then entries n
        else
          sign "\x7d"
          return .other "Dict"
      else if (← seesKeyword "for") || (← seesKeyword "async") then
        check (match first with | .starred _ => false | _ => true)
        clauses n
        sign "\x7d"
        return .other "SetComp"
      else
        let _ ← many (do sign ","; let _ ← starItem n) n
        let _ ← takeSign ","
        sign "\x7d"
        return .other "Set"

/-- the entries of a mapping up to its end -/
def entries : Nat → Parse Expr
  | 0 => failure
  | n + 1 => do
    if ← takeSign "\x7d" then return .other "Dict"
    else
      let entry : Parse Unit := do
        if ← takeSign "**" then
          let _ ← binary n 1
        else
          let _ ← expression n
          sign ":"
          let _ ← expression n
      let _ ← commaItems entry n
      sign "\x7d"
      return .other "Dict"

/-- texts that stand side by side -/
def quotes : Nat → Parse Expr
  | 0 => failure
  | n + 1 => do
    let texts ← many (do
      match ← get with
      | .quote q :: rest => set rest; return q
      | _ => failure) n
    if texts.all (·.bytes) then
      let parts ← texts.mapM fun q => liftM (decodeBytes? q.raw q.body)
      return .const (.bytes parts.flatten)
    else
      check (!texts.any (·.bytes))
      if texts.any (·.format) then
        let parts ← quoteParts n texts
        return .joined (joinTexts parts)
      else
        let parts ← texts.mapM fun q => liftM (decodeText? q.raw q.body)
        return .const (.text (String.ofList parts.flatten))

/-- the parts of texts that stand side by side -/
def quoteParts : Nat → List QuoteToken → Parse (List Expr)
  | 0, _ => failure
  | _ + 1, [] => return []
  | n + 1, q :: qs => do
    let parts ←
      if q.format then formatted n (← liftM (formatParts? q.raw q.body))
      else do
        let cs ← liftM (decodeText? q.raw q.body)
        pure (if cs.isEmpty then [] else [.const (.text (String.ofList cs))])
    return parts ++ (← quoteParts n qs)

def formatted : Nat → List FormatPart → Parse (List Expr)
  | 0, _ => failure
  | _ + 1, [] => return []
  | n + 1, .text cs :: parts => do
    return .const (.text (String.ofList cs)) :: (← formatted n parts)
  | n + 1, .field cs spec :: parts => do
    let tokens ← liftM (tokens? ('(' :: cs ++ [')']))
    let outer ← get
    set tokens
    let e ← starExpressions n
    match ← get with
    | [.newline] => pure ()
    | _ => failure
    set outer
    let spec ← match spec with
      | none => pure none
      | some ps => do pure (some (.joined (joinTexts (← formatted n ps))))
    return .formatted e spec :: (← formatted n parts)

end

end BadgeEngine.Condition
