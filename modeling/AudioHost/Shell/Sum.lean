import AudioHost.Shell.Number
import AudioHost.Shell.Syntax

/-!
Sums in scripts: numbers and variables, and what is done to them.
-/

namespace AudioHost.Shell

/-- What is done to two numbers. -/
inductive Operation where
  | times | dividedBy | rest | plus | minus | left | right | less | lessOrSame | more | moreOrSame
  | same | different | and | differ | or
deriving DecidableEq, Repr

/-- A sum. -/
inductive Sum where
  | number (n : Int)
  | variable (name : String)
  | negative (a : Sum)
  | isZero (a : Sum)
  | complement (a : Sum)
  | binary (o : Operation) (a b : Sum)
  | both (a b : Sum)
  | either (a b : Sum)
  | choice (a b c : Sum)
  /-- A variable is set to a value, or to what an operation makes of its value and another. -/
  | assign (name : String) (o : Option Operation) (a : Sum)
deriving Repr

/-- Why a text is no sum. -/
inductive SumFault where
  | noPrimary
  | notEnded
  | noColon
  | noBracket
  | zeroDivision
deriving DecidableEq, Repr

/-- The words for a fault. -/
def SumFault.message : SumFault → String
  | .noPrimary => "expecting primary"
  | .notEnded => "expecting EOF"
  | .noColon => "expecting ':'"
  | .noBracket => "expecting ')'"
  | .zeroDivision => "division by zero"

/-! ## Operations -/

/-- What an operation makes of two numbers: nothing if the second one is zero and divides. -/
def Operation.valueOf? (o : Operation) (a b : Int) : Option Int :=
  let truth (p : Bool) : Option Int := some (if p then 1 else 0)
  let bitwise (f : Nat → Nat → Nat) : Option Int :=
    some (Number.wrap (f (Number.bits a) (Number.bits b) : Nat))
  let places : Nat := Number.bits b % 64
  match o with
  | .times => some (Number.wrap (a * b))
  | .dividedBy => if b = 0 then none else some (Number.wrap (Int.tdiv a b))
  | .rest => if b = 0 then none else some (Int.tmod a b)
  | .plus => some (Number.wrap (a + b))
  | .minus => some (Number.wrap (a - b))
  | .left => some (Number.wrap (a * (1 <<< places : Nat)))
  | .right => some (a >>> places)
  | .less => truth (a < b)
  | .lessOrSame => truth (a ≤ b)
  | .more => truth (b < a)
  | .moreOrSame => truth (b ≤ a)
  | .same => truth (a = b)
  | .different => truth (a ≠ b)
  | .and => bitwise (· &&& ·)
  | .differ => bitwise (· ^^^ ·)
  | .or => bitwise (· ||| ·)

namespace Sum

/-! ## Tokens -/

/-- A token of a sum. -/
inductive Token where
  | number (n : Int)
  | name (text : String)
  | mark (text : String)
  | unknown
deriving DecidableEq, Repr

/-- The marks, longer ones first. -/
def marks : List String :=
  ["<<=", ">>=", "<<", ">>", "<=", ">=", "==", "!=", "&&", "||", "*=", "/=", "%=", "+=", "-=",
    "&=", "^=", "|=", "<", ">", "=", "!", "&", "|", "*", "/", "%", "+", "-", "^", "~", "?", ":",
    "(", ")"]

/-- The token in front, and the rest. -/
def token? (cs : Chars) : Option (Token × Chars) :=
  match cs.dropWhile fun c => c = ' ' || c = '\t' || c = '\n' with
  | [] => none
  | c :: cs =>
    if c.isDigit then
      match Number.inFront? true (c :: cs) with
      | some (n, _, rest) => some (.number n, rest)
      | none => some (.unknown, [])
    else if isNameChar c then
      let name := (c :: cs).takeWhile isNameChar
      some (.name (String.ofList name), (c :: cs).drop name.length)
    else
      let found := marks.findSome? fun m =>
        (Text.afterPrefix? m.toList (c :: cs)).map fun rest => (Token.mark m, rest)
      some (found.getD (.unknown, []))

/-- The tokens of a text. -/
def tokens : Nat → Chars → List Token
  | 0, _ => []
  | n + 1, cs => match token? cs with
    | some (t, rest) => t :: tokens n rest
    | none => []

/-! ## Reading -/

/-- The operations of each rank, the weakest first. -/
def ranks : List (List (String × Operation)) :=
  [[("|", .or)], [("^", .differ)], [("&", .and)], [("==", .same), ("!=", .different)],
    [("<", .less), ("<=", .lessOrSame), (">", .more), (">=", .moreOrSame)],
    [("<<", .left), (">>", .right)], [("+", .plus), ("-", .minus)],
    [("*", .times), ("/", .dividedBy), ("%", .rest)]]

/-- The operation that a mark of assignment holds. -/
def assignment? (mark : String) : Option (Option Operation) :=
  if mark = "=" then some none
  else if ["<=", ">=", "==", "!="].contains mark then none
  else
    let front := mark.toList.dropLast
    if mark.toList.getLast? = some '=' then
      (ranks.flatten.lookup (String.ofList front)).map some
    else none

/-- Reads something from the front of some tokens. -/
abbrev Reader (α : Type) := List Token → Except SumFault (α × List Token)

/-- A certain mark comes next. -/
def isNext (mark : String) (ts : List Token) : Bool := ts.head? == some (.mark mark)

mutual

/-- Reads an assignment, or a sum that is none. -/
def assigned : Nat → Reader Sum
  | 0, _ => .error .noPrimary
  | n + 1, ts =>
    match ts with
    | .name x :: .mark m :: rest =>
      match assignment? m with
      | some o => do
        let (a, rest) ← assigned n rest
        return (.assign x o a, rest)
      | none => chosen n ts
    | ts => chosen n ts

/-- Reads a choice between two sums, or a sum that is none. -/
def chosen : Nat → Reader Sum
  | 0, _ => .error .noPrimary
  | n + 1, ts => do
    let (a, ts) ← disjunction n ts
    if !isNext "?" ts then return (a, ts)
    let (b, ts) ← assigned n (ts.drop 1)
    if !isNext ":" ts then throw .noColon
    let (c, ts) ← chosen n (ts.drop 1)
    return (.choice a b c, ts)

/-- Reads sums of which one has to hold. -/
def disjunction : Nat → Reader Sum
  | 0, _ => .error .noPrimary
  | n + 1, ts => do
    let (a, ts) ← conjunction n ts
    if !isNext "||" ts then return (a, ts)
    let (b, ts) ← disjunction n (ts.drop 1)
    return (.either a b, ts)

/-- Reads sums that all have to hold. -/
def conjunction : Nat → Reader Sum
  | 0, _ => .error .noPrimary
  | n + 1, ts => do
    let (a, ts) ← ranked n ranks ts
    if !isNext "&&" ts then return (a, ts)
    let (b, ts) ← conjunction n (ts.drop 1)
    return (.both a b, ts)

/-- Reads a sum of operations of some ranks. -/
def ranked : Nat → List (List (String × Operation)) → Reader Sum
  | 0, _, _ => .error .noPrimary
  | n + 1, [], ts => primary n ts
  | n + 1, os :: rest, ts => do
    let (a, ts) ← ranked n rest ts
    further n os rest a ts

/-- Reads further operations of one rank. -/
def further : Nat → List (String × Operation) → List (List (String × Operation)) → Sum →
    Reader Sum
  | 0, _, _, _, _ => .error .noPrimary
  | n + 1, os, rest, a, ts =>
    match ts with
    | .mark m :: more =>
      match os.lookup m with
      | some o => do
        let (b, ts) ← ranked n rest more
        further n os rest (.binary o a b) ts
      | none => return (a, ts)
    | ts => return (a, ts)

/-- Reads a number, a variable, or a sum in brackets, with marks in front. -/
def primary : Nat → Reader Sum
  | 0, _ => .error .noPrimary
  | n + 1, ts =>
    match ts with
    | .number a :: rest => return (.number a, rest)
    | .name x :: rest => return (.variable x, rest)
    | .mark "+" :: rest => primary n rest
    | .mark "-" :: rest => do
      let (a, rest) ← primary n rest
      return (.negative a, rest)
    | .mark "!" :: rest => do
      let (a, rest) ← primary n rest
      return (.isZero a, rest)
    | .mark "~" :: rest => do
      let (a, rest) ← primary n rest
      return (.complement a, rest)
    | .mark "(" :: rest => do
      let (a, rest) ← assigned n rest
      if isNext ")" rest then return (a, rest.drop 1) else throw .noBracket
    | _ => throw .noPrimary

end

/-- Reads a text that is a sum. -/
def ofText (cs : Chars) : Except SumFault Sum := do
  let ts := tokens (cs.length + 1) cs
  let (a, rest) ← assigned (16 * ts.length + 32) ts
  if rest.isEmpty then return a else throw .notEnded

end Sum

end AudioHost.Shell
