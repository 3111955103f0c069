import Profiling.Frame.Query
import Profiling.Frame.Token

/-!
# Reading queries

`Query.ofText?` reads one select statement. Operators bind, from loose to tight: OR, AND, NOT, IS,
LIKE, comparisons, sums, products. A list may end in a comma. Statements, queries and phrases that
stand in each other are at most `maxNesting` deep; operators do not nest.
-/

namespace Profiling.Frame

/-- A reader of tokens gives what it read and the tokens behind it. -/
abbrev Reader (α : Type) := List Token → Option (α × List Token)

namespace Grammar

def maxNesting : Nat := 50

/-- Words that are no names behind a selected phrase, unless AS stands before them or quotes
around them. -/
def reservedBehindPhrase : List String :=
  ["WITH", "EXPLAIN", "ANALYZE", "SELECT", "WHERE", "GROUP", "SORT", "HAVING", "ORDER", "TOP",
   "LATERAL", "VIEW", "LIMIT", "OFFSET", "FETCH", "UNION", "EXCEPT", "INTERSECT", "CLUSTER",
   "DISTRIBUTE", "FROM", "INTO", "END"]

/-- Words that are no names behind a table, unless AS stands before them or quotes around them. -/
def reservedBehindTable : List String :=
  ["WITH", "EXPLAIN", "ANALYZE", "SELECT", "WHERE", "GROUP", "SORT", "HAVING", "ORDER", "PIVOT",
   "UNPIVOT", "TOP", "LATERAL", "VIEW", "LIMIT", "OFFSET", "FETCH", "UNION", "EXCEPT",
   "INTERSECT", "ON", "JOIN", "INNER", "CROSS", "FULL", "LEFT", "RIGHT", "NATURAL", "USING",
   "CLUSTER", "DISTRIBUTE", "GLOBAL", "ANTI", "SEMI", "OUTER", "SET", "QUALIFY", "WINDOW", "END",
   "FOR", "PARTITION", "START", "CONNECT", "MATCH_RECOGNIZE"]

/-- Words that start a phrase of another kind, which the engine does not have. -/
def foreignWords : List String :=
  ["CASE", "CONVERT", "TRY_CAST", "SAFE_CAST", "EXISTS", "EXTRACT", "CEIL", "FLOOR", "SUBSTRING",
   "OVERLAY", "TRIM", "INTERVAL", "STRUCT", "MATCH", "CURRENT_CATALOG", "CURRENT_USER",
   "SESSION_USER", "USER", "CURRENT_TIMESTAMP", "CURRENT_TIME", "CURRENT_DATE", "LOCALTIME",
   "LOCALTIMESTAMP"]

/-- Types that make a literal of the string behind them, which the engine does not have. -/
def literalTypes : List String :=
  ["BOOLEAN", "BOOL", "FLOAT", "REAL", "FLOAT4", "FLOAT64", "FLOAT8", "DOUBLE", "TINYINT", "INT2",
   "SMALLINT", "MEDIUMINT", "INT", "INT4", "INT8", "INTEGER", "INT64", "BIGINT", "VARCHAR",
   "NVARCHAR", "CHARACTER", "CHAR", "CLOB", "BINARY", "VARBINARY", "BLOB", "BYTES", "UUID",
   "DATE", "DATETIME", "TIMESTAMP", "TIMESTAMPTZ", "TIME", "TIMETZ", "INTERVAL", "JSON", "JSONB",
   "REGCLASS", "STRING", "TEXT", "BYTEA", "NUMERIC", "DECIMAL", "DEC", "BIGNUMERIC",
   "BIGDECIMAL"]

/-! ### Words, names and lists -/

def keyword (k : String) : Reader Unit
  | t :: rest => if t.isKeyword k then some ((), rest) else none
  | [] => none

def optional (k : String) (ts : List Token) : Bool × List Token :=
  match keyword k ts with
  | some (_, rest) => (true, rest)
  | none => (false, ts)

def sign (s : String) : Reader Unit
  | .sign t :: rest => if t = s then some ((), rest) else none
  | _ => none

def name : Reader String
  | .name s :: rest | .word s :: rest | .string s :: rest => some (s, rest)
  | _ => none

def moreNames : List Token → Option (List String × List Token)
  | .sign "." :: .name s :: rest | .sign "." :: .word s :: rest
  | .sign "." :: .string s :: rest => do
    let (names, rest) ← moreNames rest
    return (s :: names, rest)
  | .sign "." :: _ => none
  | ts => some ([], ts)

/-- A name behind AS, or one that follows without it and is not reserved. -/
def label (reserved : List String) (ts : List Token) : Option (Option String × List Token) :=
  match optional "AS" ts with
  | (true, rest) => (name rest).map fun (n, rest) => (some n, rest)
  | (false, t :: rest) =>
    match name (t :: rest) with
    | some (n, rest) => if t.isOneOf reserved then some (none, ts) else some (some n, rest)
    | none => some (none, ts)
  | (false, []) => some (none, [])

/-- Whether a list ends before the given tokens, behind a comma. -/
def endsList : List Token → Bool
  | [] => true
  | t :: _ => t == .sign ")" || t == .sign ";" || t.isOneOf reservedBehindPhrase

def separated (read : Reader α) : (fuel : Nat) → Reader (List α)
  | 0, _ => none
  | fuel + 1, ts => do
    let (a, rest) ← read ts
    match sign "," rest with
    | none => return ([a], rest)
    | some (_, rest) =>
      if endsList rest then return ([a], rest)
      else do
        let (more, rest) ← separated read fuel rest
        return (a :: more, rest)

/-- What stands behind a keyword, or `none` without it. -/
def clause (k : String) (read : Reader α) (ts : List Token) : Option (Option α × List Token) :=
  match keyword k ts with
  | none => some (none, ts)
  | some (_, rest) => (read rest).map fun (a, rest) => (some a, rest)

/-! ### Phrases -/

def orLevel : Nat := 5
def andLevel : Nat := 10
def notLevel : Nat := 15
def isLevel : Nat := 17
def likeLevel : Nat := 19
def comparisonLevel : Nat := 20
def sumLevel : Nat := 30
def productLevel : Nat := 40

def comparison : Token → Option Comparison
  | .sign "=" => some .eq
  | .sign "<>" => some .notEq
  | .sign "<" => some .lt
  | .sign "<=" => some .ltEq
  | .sign ">" => some .gt
  | .sign ">=" => some .gtEq
  | _ => none

def sum : Token → Option Arithmetic
  | .sign "+" => some .plus
  | .sign "-" => some .minus
  | _ => none

def product : Token → Option Arithmetic
  | .sign "*" => some .multiply
  | .sign "/" => some .divide
  | .sign "%" => some .modulo
  | _ => none

def predicateLevel (t : Token) : Nat :=
  if t.isOneOf ["IN", "BETWEEN"] then comparisonLevel
  else if t.isKeyword "LIKE" then likeLevel
  else 0

/-- How tightly the operator binds that tokens start with; 0 if they start with none. -/
def infixLevel : List Token → Nat
  | [] => 0
  | t :: rest =>
    if (comparison t).isSome then comparisonLevel
    else if (sum t).isSome then sumLevel
    else if (product t).isSome then productLevel
    else if t.isKeyword "OR" then orLevel
    else if t.isKeyword "AND" then andLevel
    else if t.isKeyword "IS" then isLevel
    else if t.isKeyword "NOT" then (rest.head?.map predicateLevel).getD 0
    else predicateLevel t

/-- The type of a cast. A length behind it is not used. -/
def castType : Reader CellType
  | t :: rest => do
    let types : List (String × CellType) :=
      [("TINYINT", .int 8), ("SMALLINT", .int 16), ("INT", .int 32), ("INTEGER", .int 32),
       ("BIGINT", .int 64), ("DOUBLE", .float64), ("VARCHAR", .string), ("TEXT", .string),
       ("STRING", .string)]
    let type ← types.lookup (← t.capitals?)
    match rest with
    | .sign "(" :: .number _ :: .sign ")" :: rest =>
      if type = .string then return (type, rest) else none
    | rest => return (type, rest)
  | _ => none

def negateIf (negated : Bool) (p : Phrase) : Phrase := if negated then .not p else p

mutual

/-- A phrase of its own, one level deeper. -/
def phrase : (fuel budget : Nat) → Reader Phrase
  | 0, _, _ | _, 0, _ => none
  | fuel + 1, budget + 1, ts => operators fuel budget 0 ts

/-- A phrase whose operators bind more tightly than `level`. -/
def operators : (fuel budget level : Nat) → Reader Phrase
  | 0, _, _, _ => none
  | fuel + 1, budget, level, ts => do
    let (left, rest) ← operand fuel budget ts
    infixes fuel budget level left rest

/-- What follows the phrase `left` and binds more tightly than `level`. -/
def infixes : (fuel budget level : Nat) → Phrase → Reader Phrase
  | 0, _, _, _, _ => none
  | fuel + 1, budget, level, left, ts =>
    if infixLevel ts ≤ level then some (left, ts)
    else do
      let (p, rest) ← infixed fuel budget left ts
      infixes fuel budget level p rest

/-- The operator behind the phrase `left`, with what stands behind it. -/
def infixed : (fuel budget : Nat) → Phrase → Reader Phrase
  | 0, _, _, _ => none
  | _, _, _, [] => none
  | fuel + 1, budget, left, t :: rest =>
    match comparison t, (sum t).or (product t) with
    | some op, _ => do
      let (right, rest) ← operators fuel budget comparisonLevel rest
      return (.compare op left right, rest)
    | none, some op => do
      let (right, rest) ← operators fuel budget (infixLevel [t]) rest
      return (.calculate op left right, rest)
    | none, none =>
      if t.isKeyword "OR" then do
        let (right, rest) ← operators fuel budget orLevel rest
        return (.or left right, rest)
      else if t.isKeyword "AND" then do
        let (right, rest) ← operators fuel budget andLevel rest
        return (.and left right, rest)
      else if t.isKeyword "IS" then do
        let (negated, rest) := optional "NOT" rest
        let p ← match rest.head? with
          | some t =>
            if t.isKeyword "NULL" then some (.isNull left)
            else if t.isKeyword "TRUE" then some (.isTruth left true)
            else if t.isKeyword "FALSE" then some (.isTruth left false)
            else none
          | none => none
        return (negateIf negated p, rest.drop 1)
      else do
        let (negated, rest) := optional "NOT" (t :: rest)
        let (p, rest) ← predicate fuel budget left rest
        return (negateIf negated p, rest)

/-- One of the predicates that NOT may stand in front of. -/
def predicate : (fuel budget : Nat) → Phrase → Reader Phrase
  | 0, _, _, _ => none
  | _, _, _, [] => none
  | fuel + 1, budget, left, t :: rest =>
    if t.isKeyword "IN" then do
      let (_, rest) ← sign "(" rest
      let (items, rest) ← separated (phrase fuel budget) fuel rest
      let (_, rest) ← sign ")" rest
      return (.inList left items, rest)
    else if t.isKeyword "BETWEEN" then do
      let (low, rest) ← operators fuel budget comparisonLevel rest
      let (_, rest) ← keyword "AND" rest
      let (high, rest) ← operators fuel budget comparisonLevel rest
      return (.between left low high, rest)
    else if t.isKeyword "LIKE" then do
      let (pattern, rest) ← operators fuel budget likeLevel rest
      if (optional "ESCAPE" rest).1 then none else return (.like left pattern, rest)
    else none

def operand : (fuel budget : Nat) → Reader Phrase
  | 0, _, _ => none
  | fuel + 1, budget, ts =>
    match ts with
    | .number text :: rest => some (.number text, rest)
    | .string s :: rest => some (.string s, rest)
    | .sign "(" :: rest => do
      let (ps, rest) ← separated (phrase fuel budget) fuel rest
      let (_, rest) ← sign ")" rest
      match ps with
      | [p] => return (.nested p, rest)
      | _ => none
    | .sign "-" :: rest => do
      let (p, rest) ← operators fuel budget productLevel rest
      return (.signed true p, rest)
    | .sign "+" :: rest => do
      let (p, rest) ← operators fuel budget productLevel rest
      return (.signed false p, rest)
    | .name s :: rest => reference fuel budget s rest
    | .word s :: rest =>
      let t := Token.word s
      if t.isKeyword "NOT" then do
        let (p, rest) ← operators fuel budget notLevel rest
        return (.not p, rest)
      else if t.isOneOf literalTypes && (rest.head?.any fun | .string _ => true | _ => false) then
        none
      else if t.isKeyword "TRUE" then some (.truth true, rest)
      else if t.isKeyword "FALSE" then some (.truth false, rest)
      else if t.isKeyword "NULL" then some (.null, rest)
      else if t.isKeyword "CAST" then do
        let (_, rest) ← sign "(" rest
        let (p, rest) ← phrase fuel budget rest
        let (_, rest) ← keyword "AS" rest
        let (type, rest) ← castType rest
        let (_, rest) ← sign ")" rest
        return (.cast p type, rest)
      else if t.isOneOf foreignWords then none
      else reference fuel budget s rest
    | _ => none

/-- What a name starts: a name with further parts, or the call of a function. -/
def reference : (fuel budget : Nat) → String → Reader Phrase
  | 0, _, _, _ => none
  | fuel + 1, budget, first, ts => do
    let (more, rest) ← moreNames ts
    match rest with
    | .sign "(" :: .sign ")" :: rest => return (.call first [], rest)
    | .sign "(" :: rest => do
      let (arguments, rest) ← separated (argument fuel budget) fuel (optional "ALL" rest).2
      let (_, rest) ← sign ")" rest
      return (.call first arguments, rest)
    | rest => return (.name (first :: more), rest)

def argument : (fuel budget : Nat) → Reader Phrase
  | 0, _, _ => none
  | fuel + 1, budget, ts =>
    match ts with
    | .sign "*" :: rest => some (.star, rest)
    | ts => phrase fuel budget ts

end

/-! ### Queries -/

def tableStar (ts : List Token) : Option (List String × List Token) := do
  let (first, rest) ← name ts
  go [first] rest
where
  go (parts : List String) : Reader (List String)
    | .sign "." :: .sign "*" :: rest => some (parts, rest)
    | .sign "." :: .name s :: rest | .sign "." :: .word s :: rest
    | .sign "." :: .string s :: rest => go (parts ++ [s]) rest
    | _ => none

def item (fuel budget : Nat) (ts : List Token) : Option (Item × List Token) :=
  match ts with
  | .sign "*" :: rest => some (.all, rest)
  | ts =>
    match tableStar ts with
    | some (parts, rest) => some (.table parts, rest)
    | none => do
      let (p, rest) ← phrase fuel budget ts
      if ts.length = rest.length + 1 && (ts.head?.any (·.isKeyword "FROM")) then none
      else do
        let (label, rest) ← label reservedBehindPhrase rest
        return (.phrase p label, rest)

def sortKey (fuel budget : Nat) (ts : List Token) : Option (SortKey × List Token) := do
  let (p, rest) ← phrase fuel budget ts
  match optional "DESC" rest with
  | (true, rest) => return (⟨p, false⟩, rest)
  | (false, rest) => return (⟨p, true⟩, (optional "ASC" rest).2)

def listBehindBy (fuel : Nat) (read : Reader α) (ts : List Token) :
    Option (List α × List Token) := do
  let (_, rest) ← keyword "BY" ts
  separated read fuel rest

/-- The numbers of rows to give and to leave out, in either order. Two numbers with a comma between
them are the rows to leave out and those to give. -/
def limits (fuel budget : Nat) (ts : List Token) :
    Option ((Option Phrase × Option Phrase) × List Token) := do
  let (offset, rest) ← skipped ts
  let (limit, rest) ← clause "LIMIT" limit rest
  let (offset, rest) ← if offset.isSome then pure (offset, rest) else skipped rest
  match limit, offset, sign "," rest with
  | some (some first), none, some (_, rest) => do
    let (p, rest) ← phrase fuel budget rest
    return ((some p, some first), rest)
  | limit, offset, _ => return ((limit.join, offset), rest)
where
  limit (ts : List Token) : Option (Option Phrase × List Token) :=
    match optional "ALL" ts with
    | (true, rest) => some (none, rest)
    | (false, rest) => (phrase fuel budget rest).map fun (p, rest) => (some p, rest)
  skipped (ts : List Token) : Option (Option Phrase × List Token) := do
    let (offset, rest) ← clause "OFFSET" (phrase fuel budget) ts
    match offset with
    | none => return (none, rest)
    | some p =>
      match optional "ROWS" rest with
      | (true, rest) => return (some p, rest)
      | (false, rest) => return (some p, (optional "ROW" rest).2)

/-- The name of a table, and names of its columns, which are not used. -/
def tableLabel (fuel : Nat) (ts : List Token) : Option (Option String × List Token) := do
  let (l, rest) ← label reservedBehindTable ts
  match l, sign "(" rest with
  | some l, some (_, rest) => do
    let (_, rest) ← separated name fuel rest
    let (_, rest) ← sign ")" rest
    return (some l, rest)
  | l, _ => return (l, rest)

mutual

def query : (fuel budget : Nat) → Reader Query
  | 0, _, _ | _, 0, _ => none
  | fuel + 1, budget + 1, ts => do
    let (ctes, rest) ← match keyword "WITH" ts with
      | none => pure ([], ts)
      | some (_, rest) =>
        if (optional "RECURSIVE" rest).1 then none
        else separated (namedQuery fuel budget) fuel rest
    let (body, rest) ← body fuel budget rest
    let (orderBy, rest) ← clause "ORDER" (listBehindBy fuel (sortKey fuel budget)) rest
    let ((limit, offset), rest) ← limits fuel budget rest
    return (⟨ctes, body, orderBy.getD [], limit, offset⟩, rest)

def namedQuery : (fuel budget : Nat) → Reader NamedQuery
  | 0, _, _ => none
  | fuel + 1, budget, ts => do
    let (n, rest) ← name ts
    let rest ← match sign "(" rest with
      | none => pure rest
      | some (_, rest) => do
        let (_, rest) ← separated name fuel rest
        let (_, rest) ← sign ")" rest
        pure rest
    let (_, rest) ← keyword "AS" rest
    let (_, rest) ← sign "(" rest
    let (q, rest) ← query fuel budget rest
    let (_, rest) ← sign ")" rest
    return (⟨n, q⟩, rest)

/-- A query without what may stand around it. Of several sources the first is read. -/
def body : (fuel budget : Nat) → Reader Body
  | 0, _, _ => none
  | fuel + 1, budget, ts =>
    match sign "(" ts with
    | some (_, rest) => do
      let (q, rest) ← query fuel budget rest
      let (_, rest) ← sign ")" rest
      return (.nested q, rest)
    | none => do
      let (_, rest) ← keyword "SELECT" ts
      let (items, rest) ← separated (item fuel budget) fuel (optional "ALL" rest).2
      let (_, rest) ← keyword "FROM" rest
      let (sources, rest) ← separated (source fuel budget) fuel rest
      let source ← sources.head?
      let (condition, rest) ← clause "WHERE" (phrase fuel budget) rest
      let (groupBy, rest) ← clause "GROUP" (listBehindBy fuel (phrase fuel budget)) rest
      return (.select items source condition (groupBy.getD []), rest)

/-- A table by name, a query in parentheses, or either in parentheses. -/
def source : (fuel budget : Nat) → Reader Source
  | 0, _, _ => none
  | fuel + 1, budget, ts =>
    match sign "(" ts with
    | some (_, rest) =>
      match derived fuel budget rest with
      | some found => some found
      | none => do
        let (s, rest) ← source fuel budget rest
        let (_, rest) ← sign ")" rest
        match ← tableLabel fuel rest with
        | (none, rest) => return (s, rest)
        | (some l, rest) => if s.label.isSome then none else return (s.relabel l, rest)
    | none => do
      let (n, rest) ← name ts
      let (_, rest) ← moreNames rest
      if (sign "(" rest).isSome then none
      else do
        let (l, rest) ← tableLabel fuel rest
        return (.named n l, rest)

def derived : (fuel budget : Nat) → Reader Source
  | 0, _, _ => none
  | fuel + 1, budget, ts => do
    let (q, rest) ← query fuel budget ts
    let (_, rest) ← sign ")" rest
    let (l, rest) ← tableLabel fuel rest
    return (.derived q l, rest)

end

end Grammar

/-- The query of a text that is one statement, with semicolons around it or not. -/
def Query.ofText? (sql : String) : Option Query := do
  let ts ← Token.ofText sql
  let ts := ts.dropWhile (· == .sign ";")
  let (q, rest) ← Grammar.query (16 * ts.length + 16) (Grammar.maxNesting - 1) ts
  if rest.all (· == .sign ";") then some q else none

end Profiling.Frame
