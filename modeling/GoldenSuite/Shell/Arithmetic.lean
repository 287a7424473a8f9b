import GoldenSuite.Shell.Source

/-! Arithmetic on signed numbers of 64 bits. -/

namespace GoldenSuite.Shell.Arithmetic

open Host (ByteText)

/-- An operation on two numbers that works both out. -/
inductive Operator where
  | add | sub | mul | div | rem
  | shiftLeft | shiftRight
  | less | lessEqual | greater | greaterEqual | equal | unequal
  | bitAnd | bitXor | bitOr
deriving DecidableEq

/-- An expression. -/
inductive Expr where
  | number (value : Int64)
  | named (name : String)
  | negate (inner : Expr)
  | invert (inner : Expr)
  | not (inner : Expr)
  | binary (operator : Operator) (left right : Expr)
  | both (left right : Expr)
  | either (left right : Expr)
  | choice (condition positive negative : Expr)
  /-- An assignment, perhaps of the result of an operation on the old value. -/
  | assign (name : String) (operator : Option Operator) (value : Expr)
deriving Inhabited

-------------------------------------------------------------------------------
-- Reading
-------------------------------------------------------------------------------

/-- How an operation is connected to its operands. -/
inductive Connective where
  | plain (operator : Operator)
  | both
  | either

/-- The connectives by rising strength, those of equal strength together; a symbol that begins
like another one stands after it. -/
def connectives : List (List (String × Connective)) :=
  [ [("||", .either)], [("&&", .both)], [("|", .plain .bitOr)], [("^", .plain .bitXor)],
    [("&", .plain .bitAnd)], [("==", .plain .equal), ("!=", .plain .unequal)],
    [("<=", .plain .lessEqual), (">=", .plain .greaterEqual), ("<", .plain .less),
      (">", .plain .greater)],
    [("<<", .plain .shiftLeft), (">>", .plain .shiftRight)],
    [("+", .plain .add), ("-", .plain .sub)],
    [("*", .plain .mul), ("/", .plain .div), ("%", .plain .rem)] ]

/-- All symbols, the longest first. -/
def symbols : List String :=
  ["<<=", ">>=", "||", "&&", "==", "!=", "<=", ">=", "<<", ">>", "+=", "-=", "*=", "/=", "%=",
    "&=", "^=", "|=", "+", "-", "*", "/", "%", "<", ">", "&", "^", "|", "=", "!", "~", "?", ":",
    "(", ")"]

def assignments : List (String × Option Operator) :=
  [ ("=", none), ("+=", some .add), ("-=", some .sub), ("*=", some .mul), ("/=", some .div),
    ("%=", some .rem), ("&=", some .bitAnd), ("^=", some .bitXor), ("|=", some .bitOr),
    ("<<=", some .shiftLeft), (">>=", some .shiftRight) ]

/-- The symbol that comes next. -/
def symbol? (text : ByteText) : Option String :=
  symbols.find? fun symbol => symbol.toList.isPrefixOf text

def skipSpace (text : ByteText) : ByteText :=
  text.dropWhile ByteText.isSpace

/-- A number in decimal, octal or hexadecimal digits, if all of the text is one. -/
def number? (text : ByteText) : Option Nat :=
  let isHex (c : Char) : Bool := c.isDigit || 'a' ≤ c.toLower && c.toLower ≤ 'f'
  match text with
  | [] => none
  | '0' :: x :: digits =>
      if (x = 'x' || x = 'X') && !digits.isEmpty && digits.all isHex then
        some (ByteText.digitsValue 16 digits)
      else if (x :: digits).all ByteText.isOctalDigit then
        some (ByteText.digitsValue 8 (x :: digits))
      else none
  | _ => if text.all Char.isDigit then some (ByteText.digitsValue 10 text) else none

/-- The greatest number; greater ones in an expression count as this one. -/
def greatest : Nat := 9223372036854775807

/-- The reading of an expression, and the text left. -/
abbrev Reading := Except String (Expr × ByteText)

mutual

/-- Reads an assignment, or what has no assignment in it. -/
def assigned : Nat → ByteText → Reading
  | 0, _ => .error "expecting primary"
  | fuel + 1, text =>
      let text := skipSpace text
      let name := text.takeWhile Reading.isNameChar
      let behind := skipSpace (text.drop name.length)
      let operator? := (symbol? behind).bind fun symbol =>
        (assignments.lookup symbol).map fun operator => (symbol, operator)
      match Reading.isName name, operator? with
      | true, some (symbol, operator) => do
          let (value, rest) ← assigned fuel (behind.drop symbol.length)
          return (.assign (String.ofList name) operator value, rest)
      | _, _ => chosen fuel text

/-- Reads a choice between two expressions. -/
def chosen : Nat → ByteText → Reading
  | 0, _ => .error "expecting primary"
  | fuel + 1, text => do
      let (condition, rest) ← tier fuel connectives text
      match skipSpace rest with
      | '?' :: rest => do
          let (positive, rest) ← assigned fuel rest
          match skipSpace rest with
          | ':' :: rest => do
              let (negative, rest) ← chosen fuel rest
              return (.choice condition positive negative, rest)
          | _ => .error "expecting ':'"
      | rest => return (condition, rest)

/-- Reads operands that are connected at least as strongly as the first tier. -/
def tier : Nat → List (List (String × Connective)) → ByteText → Reading
  | 0, _, _ => .error "expecting primary"
  | fuel + 1, [], text => unary fuel text
  | fuel + 1, here :: stronger, text => do
      let (first, rest) ← tier fuel stronger text
      chain fuel here stronger first rest

/-- Reads the operands that follow the first one of a tier. -/
def chain : Nat → List (String × Connective) → List (List (String × Connective)) → Expr
    → ByteText → Reading
  | 0, _, _, _, _ => .error "expecting primary"
  | fuel + 1, here, stronger, first, text => do
      let text := skipSpace text
      let connective? := (symbol? text).bind fun symbol =>
        (here.lookup symbol).map fun connective => (symbol, connective)
      match connective? with
      | none => return (first, text)
      | some (symbol, connective) =>
          let (second, rest) ← tier fuel stronger (text.drop symbol.length)
          let joined : Expr :=
            match connective with
            | .plain operator => .binary operator first second
            | .both => .both first second
            | .either => .either first second
          chain fuel here stronger joined rest

/-- Reads an operand with the signs in front of it. -/
def unary : Nat → ByteText → Reading
  | 0, _ => .error "expecting primary"
  | fuel + 1, text =>
      match skipSpace text with
      | '-' :: rest => do
          let (inner, rest) ← unary fuel rest
          return (.negate inner, rest)
      | '+' :: rest => unary fuel rest
      | '~' :: rest => do
          let (inner, rest) ← unary fuel rest
          return (.invert inner, rest)
      | '!' :: rest => do
          let (inner, rest) ← unary fuel rest
          return (.not inner, rest)
      | '(' :: rest => do
          let (inner, rest) ← assigned fuel rest
          match skipSpace rest with
          | ')' :: rest => return (inner, rest)
          | _ => .error "expecting ')'"
      | text =>
          let word := text.takeWhile Reading.isNameChar
          let rest := text.drop word.length
          match number? word with
          | some value => return (.number (Int64.ofNat (value.min greatest)), rest)
          | none =>
              if Reading.isName word then return (.named (String.ofList word), rest)
              else .error "expecting primary"

end

/-- Reads an expression that takes up the whole text. -/
def read (text : ByteText) : Except String Expr := do
  let (expression, rest) ← assigned (16 * text.length + 32) text
  if (skipSpace rest).isEmpty then return expression else .error "expecting EOF"

-------------------------------------------------------------------------------
-- Working out
-------------------------------------------------------------------------------

/-- Why an expression has no value. -/
inductive Problem where
  | misread (message : String)
  | divisionByZero
  | illegalNumber (text : ByteText)

/-- Assignments are collected, the last one first. -/
abbrev Evaluation (α : Type) : Type :=
  StateT (List (String × ByteText)) (Except Problem) α

/-- The number that a variable's value spells. An empty value counts as zero. -/
def valueOf (text : ByteText) : Except Problem Int64 :=
  let trimmed := ((skipSpace text).reverse.dropWhile ByteText.isSpace).reverse
  let (negative, digits) :=
    match trimmed with
    | '-' :: rest => (true, rest)
    | '+' :: rest => (false, rest)
    | _ => (false, trimmed)
  if trimmed.isEmpty then .ok 0
  else
    match number? digits with
    | none => .error (.illegalNumber text)
    | some n =>
        let value : Int := if negative then -n else n
        if value < -9223372036854775808 || 9223372036854775808 ≤ value then .error (.illegalNumber text)
        else .ok (Int64.ofInt value)

def ofBool (b : Bool) : Int64 := if b then 1 else 0

/-- The result of an operation. Sums, products and shifts wrap around. -/
def apply (operator : Operator) (a b : Int64) : Except Problem Int64 :=
  match operator with
  | .add => .ok (a + b)
  | .sub => .ok (a - b)
  | .mul => .ok (a * b)
  | .div => if b = 0 then .error .divisionByZero else .ok (a / b)
  | .rem => if b = 0 then .error .divisionByZero else .ok (a % b)
  | .shiftLeft => .ok (a <<< b)
  | .shiftRight => .ok (a >>> b)
  | .less => .ok (ofBool (a < b))
  | .lessEqual => .ok (ofBool (a ≤ b))
  | .greater => .ok (ofBool (b < a))
  | .greaterEqual => .ok (ofBool (b ≤ a))
  | .equal => .ok (ofBool (a = b))
  | .unequal => .ok (ofBool (a ≠ b))
  | .bitAnd => .ok (a &&& b)
  | .bitXor => .ok (a ^^^ b)
  | .bitOr => .ok (a ||| b)

/-- The value of a variable, as assigned so far. -/
def fetch (bindings : String → ByteText) (name : String) : Evaluation Int64 := do
  valueOf (((← get).lookup name).getD (bindings name))

/-- The value of an expression. -/
def evaluate (bindings : String → ByteText) : Expr → Evaluation Int64
  | .number value => return value
  | .named name => fetch bindings name
  | .negate inner => do return -(← evaluate bindings inner)
  | .invert inner => do return ~~~(← evaluate bindings inner)
  | .not inner => do return ofBool ((← evaluate bindings inner) = 0)
  | .binary operator left right => do
      let a ← evaluate bindings left
      let b ← evaluate bindings right
      apply operator a b
  | .both left right => do
      if (← evaluate bindings left) = 0 then return 0
      return ofBool ((← evaluate bindings right) ≠ 0)
  | .either left right => do
      if (← evaluate bindings left) ≠ 0 then return 1
      return ofBool ((← evaluate bindings right) ≠ 0)
  | .choice condition positive negative => do
      if (← evaluate bindings condition) ≠ 0 then evaluate bindings positive
      else evaluate bindings negative
  | .assign name operator value => do
      let b ← evaluate bindings value
      let result ←
        match operator with
        | none => pure b
        | some operator => do
            let a ← fetch bindings name
            apply operator a b
      modify fun assigned => (name, ByteText.ofInt result.toInt) :: assigned
      return result

/-- The value of a text as an expression, and the assignments it makes in their order. -/
def run (bindings : String → ByteText) (text : ByteText)
    : Except Problem (Int64 × List (String × ByteText)) :=
  match read text with
  | .error message => .error (.misread message)
  | .ok expression => do
      let (value, assigned) ← (evaluate bindings expression).run []
      return (value, assigned.reverse)

/-- How a problem with an expression is put into words. -/
def Problem.message (text : ByteText) : Problem → String
  | .misread message =>
      "arithmetic expression: " ++ message ++ ": \"" ++ ByteText.toText text ++ "\""
  | .divisionByZero =>
      "arithmetic expression: division by zero: \"" ++ ByteText.toText text ++ "\""
  | .illegalNumber value => "Illegal number: " ++ ByteText.toText value

end GoldenSuite.Shell.Arithmetic
