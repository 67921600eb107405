import AudioHost.Shell.Number
import AudioHost.Shell.Run

/-!
What the command `test` finds.
-/

namespace AudioHost.Shell.Condition

/-! ## Operators -/

/-- Operators that are followed by one text. -/
def unary : List String :=
  ["-r", "-w", "-x", "-e", "-f", "-d", "-c", "-b", "-p", "-u", "-g", "-k", "-s", "-t", "-z", "-n",
    "-h", "-O", "-G", "-L", "-S"]

/-- Operators that stand between two texts. -/
def binary : List String :=
  ["=", "!=", "<", ">", "-eq", "-ne", "-ge", "-gt", "-le", "-lt", "-nt", "-ot", "-ef"]

/-- The kind of a text in a condition. -/
inductive Kind where
  | unary | binary | not | and | or | opening | closing | operand | missing
deriving DecidableEq, Repr

/-- The kind of an operator. -/
def kindOf (cs : Chars) : Kind :=
  let text := String.ofList cs
  if unary.contains text then .unary
  else if binary.contains text then .binary
  else match text with
    | "!" => .not
    | "-a" => .and
    | "-o" => .or
    | "(" => .opening
    | ")" => .closing
    | _ => .operand

/-- The kind of the first text. What looks like an operator may stand where it is none. -/
def kindInFront : List Chars → Kind
  | [] => .missing
  | cs :: rest =>
    match kindOf cs, rest with
    | .unary, [] => .operand
    | .unary, [_] => .unary
    | .unary, next :: _ => if kindOf next = .binary then .operand else .unary
    | .opening, [] => .operand
    | kind, _ => kind

/-! ## Tests -/

/-- The paths of things that are outside of the tree of files but surely there. -/
def devices : List String := ["/dev/null", "/dev/stdin", "/dev/stdout", "/dev/stderr", "/dev/zero"]

/-- The paths of programs that are surely there. -/
def usualPrograms : List String :=
  ["/bin/sh", "/bin/cat", "/bin/echo", "/bin/ls", "/bin/rm", "/bin/sleep", "/usr/bin/env"]

/-- A path leads to a link. -/
def isLink (s : State) (p : Path) : Bool :=
  let directory := p.parent?.getD ⟨""⟩
  let directory := if directory.text.isEmpty then ⟨"."⟩ else directory
  match p.fileName?.bind (s.files.entryIn? directory) with
  | some (.link _) => true
  | _ => false

/-- What a test of one text finds. -/
def testOne (s : State) (op : String) (arg : Chars) : Bool :=
  let p := s.pathOf arg
  let isOutside := State.outsideDirectories.contains p.text
  let isProgram := usualPrograms.contains p.text
  let there := s.files.reaches p || isOutside || isProgram || devices.contains p.text
  match op with
  | "-n" => !arg.isEmpty
  | "-z" => arg.isEmpty
  | "-f" => s.files.isFile p || isProgram
  | "-d" => s.files.isDirectory p || isOutside
  | "-x" => isOutside || isProgram || match s.files.lookUp? p with
    | some (.file _ executable) => executable
    | some .directory => true
    | _ => false
  | "-s" =>
    s.files.isDirectory p || isOutside || isProgram ||
      ((Run.fileText? s.files p).map fun cs => !cs.isEmpty).getD false
  | "-c" => devices.contains p.text
  | op =>
    if op = "-h" || op = "-L" then isLink s p
    else if ["-e", "-r", "-w", "-O", "-G"].contains op then there
    else false

/-- The order of texts by their bytes. -/
def textBefore (a b : Chars) : Bool := a.map Char.toNat < b.map Char.toNat

/-- What a comparison of two texts finds, or what is wrong with it. -/
def testTwo (s : State) (op : String) (a b : Chars) : Except Chars Bool :=
  let number (cs : Chars) : Except Chars Int := match Number.ofText? false cs with
    | some n => .ok n
    | none => .error ("Illegal number: ".toList ++ cs)
  let compare (f : Int → Int → Bool) : Except Chars Bool := do
    return f (← number a) (← number b)
  match op with
  | "=" => .ok (a == b)
  | "!=" => .ok (a != b)
  | "<" => .ok (textBefore a b)
  | ">" => .ok (textBefore b a)
  | "-eq" => compare fun x y => x == y
  | "-ne" => compare fun x y => x != y
  | "-lt" => compare fun x y => x < y
  | "-le" => compare fun x y => x ≤ y
  | "-gt" => compare fun x y => y < x
  | "-ge" => compare fun x y => y ≤ x
  | "-ef" => .ok (match s.files.realPlace? (s.pathOf a), s.files.realPlace? (s.pathOf b) with
    | some p, some q => p == q
    | _, _ => false)
  | _ => .ok false

/-! ## Conditions -/

/-- What a condition finds, and the texts from the last one that it took on. -/
abbrev Reader := List Chars → Except Chars (Bool × List Chars)

mutual

/-- Conditions of which one has to hold. -/
def disjunction (s : State) : Nat → Reader
  | 0, _ => .error []
  | n + 1, ts => do
    let (a, ts) ← conjunction s n ts
    if kindInFront (ts.drop 1) = .or then
      let (b, ts) ← disjunction s n (ts.drop 2)
      return (a || b, ts)
    else return (a, ts)

/-- Conditions that all have to hold. -/
def conjunction (s : State) : Nat → Reader
  | 0, _ => .error []
  | n + 1, ts => do
    let (a, ts) ← negation s n ts
    if kindInFront (ts.drop 1) = .and then
      let (b, ts) ← conjunction s n (ts.drop 2)
      return (a && b, ts)
    else return (a, ts)

/-- A condition that may have to fail. -/
def negation (s : State) : Nat → Reader
  | 0, _ => .error []
  | n + 1, ts => do
    if kindInFront ts = .not then
      let rest := ts.drop 1
      if rest.isEmpty then return (true, ts)
      let (a, ts) ← negation s n rest
      return (!a, ts)
    else primary s n ts

/-- A test, or a condition in brackets. -/
def primary (s : State) : Nat → Reader
  | 0, _ => .error []
  | n + 1, ts =>
    match kindInFront ts, ts with
    | _, [] => return (false, [])
    | .opening, _ :: rest => do
      if kindInFront rest = .closing then return (false, rest)
      let (a, ts) ← disjunction s n rest
      if kindInFront (ts.drop 1) = .closing then return (a, ts.drop 1)
      else throw "closing paren expected".toList
    | .unary, op :: rest =>
      match rest with
      | [] => throw (op ++ ": argument expected".toList)
      | arg :: _ => return (testOne s (String.ofList op) arg, rest)
    | _, a :: rest =>
      match kindInFront rest, rest with
      | .binary, op :: b :: more => do
        return (← testTwo s (String.ofList op) a b, b :: more)
      | .binary, [op] => throw (op ++ ": argument expected".toList)
      | _, _ => return (!a.isEmpty, ts)

end

/-- What a test finds, or what is wrong with it. -/
def found (s : State) : Nat → List Chars → Except Chars Bool
  | 0, _ => .error []
  | n + 1, args =>
    let whole (args : List Chars) : Except Chars Bool := do
      let (a, ts) ← disjunction s (8 * args.length + 8) args
      match ts with
      | last :: _ :: _ => throw (last ++ ": unexpected operator".toList)
      | _ => return a
    let special : Except Chars Bool :=
      if args.head? = some ['('] && args.getLast? = some [')'] then whole (args.drop 1).dropLast
      else if args.head? = some ['!'] then (found s n (args.drop 1)).map not
      else whole args
    match args with
    | [] => .ok false
    | [a, op, b] => if kindOf op = .binary then testTwo s (String.ofList op) a b else special
    | [_, _, _, _] => special
    | args => whole args

/-- The result of the command `test`. -/
def test (args : List Chars) : Run Unit := do
  match found (← get) (args.length + 1) args with
  | .ok b => Run.verdict b
  | .error message => Run.failWith 2 message

end AudioHost.Shell.Condition
