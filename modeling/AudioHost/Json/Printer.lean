import AudioHost.Json.Value

/-!
JSON texts, on one line or indented by two spaces.
-/

namespace AudioHost.Json

/-! ## Strings -/

/-- A hexadecimal digit, in lower case. -/
def hexDigit (n : Nat) : Char := "0123456789abcdef".toList.getD n '0'

/-- The text of one character inside quotes. Only quotes, backslashes and control characters are
escaped. -/
def escapeChar (c : Char) : List Char :=
  match c with
  | '"' => ['\\', '"']
  | '\\' => ['\\', '\\']
  | '\n' => ['\\', 'n']
  | '\r' => ['\\', 'r']
  | '\t' => ['\\', 't']
  | c =>
    if c.toNat = 8 then ['\\', 'b']
    else if c.toNat = 12 then ['\\', 'f']
    else if c.toNat < 32 then
      ['\\', 'u', '0', '0', hexDigit (c.toNat / 16), hexDigit (c.toNat % 16)]
    else [c]

/-- A text in quotes. -/
def quote (s : String) : String := String.ofList ('"' :: s.toList.flatMap escapeChar ++ ['"'])

/-! ## Values -/

/-- The text of a number, literal or string. A binary number has its fewest digits, and one that
is not finite is `null`. -/
def scalarText : Json → String
  | .null => "null"
  | .bool b => if b then "true" else "false"
  | .integer n => toString n
  | .single x => if x.isFinite then NumberStyle.json.single x else "null"
  | .double x => if x.isFinite then NumberStyle.json.double x else "null"
  | .string s => quote s
  | .array _ => "[]"
  | .object _ => "\x7b\x7d"
  | .unfit => "null"

mutual

/-- The text of a value on one line, without spaces. -/
def compact : Json → String
  | .array items => "[" ++ ",".intercalate (compactItems items) ++ "]"
  | .object fields => "\x7b" ++ ",".intercalate (compactFields fields) ++ "\x7d"
  | j => j.scalarText

def compactItems : List Json → List String
  | [] => []
  | j :: js => j.compact :: compactItems js

def compactFields : List (String × Json) → List String
  | [] => []
  | (name, j) :: fields => (quote name ++ ":" ++ j.compact) :: compactFields fields

end

/-- Lines between two brackets, each on its own line and one step further in. -/
def block (opening closing indent : String) (lines : List String) : String :=
  let inner := indent ++ "  "
  match lines with
  | [] => opening ++ closing
  | lines =>
    opening ++ "\n" ++ ",\n".intercalate (lines.map (inner ++ ·)) ++ "\n" ++ indent ++ closing

mutual

/-- The text of a value over several lines, indented by two spaces for each level. -/
def pretty (indent : String) : Json → String
  | .array items => block "[" "]" indent (prettyItems (indent ++ "  ") items)
  | .object fields => block "\x7b" "\x7d" indent (prettyFields (indent ++ "  ") fields)
  | j => j.scalarText

def prettyItems (indent : String) : List Json → List String
  | [] => []
  | j :: js => j.pretty indent :: prettyItems indent js

def prettyFields (indent : String) : List (String × Json) → List String
  | [] => []
  | (name, j) :: fields => (quote name ++ ": " ++ j.pretty indent) :: prettyFields indent fields

end

end AudioHost.Json
