import AudioHost.Toml.Scalar
import AudioHost.Toml.Table
import AudioHost.Toml.Text

/-!
Reading TOML documents: lines that set a key, and headings of tables.
-/

namespace AudioHost.Toml

/-! ## Between values -/

/-- Skips blanks. -/
def skipBlanks (cs : List Char) : List Char := cs.dropWhile isBlank

/-- Skips a remark, if one begins here. -/
def skipRemark : List Char → List Char
  | '#' :: cs => cs.dropWhile isTextChar
  | cs => cs

/-- The rest after the end of a line. -/
def afterLine? (cs : List Char) : Option (List Char) :=
  match skipRemark (skipBlanks cs) with
  | [] => some []
  | '\n' :: rest => some rest
  | '\r' :: '\n' :: rest => some rest
  | _ => none

/-- Skips blanks, remarks and line ends. The length of the text bounds the steps. -/
def skipLines : Nat → List Char → List Char
  | 0, cs => cs
  | fuel + 1, cs =>
    match skipRemark (skipBlanks cs) with
    | '\n' :: rest => skipLines fuel rest
    | '\r' :: '\n' :: rest => skipLines fuel rest
    | rest => rest

/-- Skips everything between two values. -/
def skipSpace (cs : List Char) : List Char := skipLines cs.length cs

/-! ## Keys -/

/-- A character of a key without quotes. -/
def isKeyChar (c : Char) : Bool := c.isAlphanum || c == '_' || c == '-'

/-- Reads a key. -/
def key? (cs : List Char) : Option (String × List Char) :=
  match cs.span isKeyChar with
  | ([], _) => line? cs
  | (key, rest) => some (String.ofList key, rest)

/-- Reads keys with points between them, at most so many. -/
def keys? : Nat → List Char → Option (List String × List Char)
  | 0, _ => none
  | fuel + 1, cs => do
    let (key, rest) ← key? (skipBlanks cs)
    match skipBlanks rest with
    | '.' :: rest =>
      let (keys, rest) ← keys? fuel rest
      return (key :: keys, rest)
    | rest => return ([key], rest)

/-- The depth to which values nest, and the most keys in a row. -/
def depthLimit : Nat := 80

/-- Reads keys, of which the last one stands apart. -/
def path? (cs : List Char) : Option (List String × String × List Char) := do
  let (keys, rest) ← keys? depthLimit cs
  let key ← keys.getLast?
  return (keys.dropLast, key, rest)

/-! ## Values -/

mutual

/-- Reads a value. `depth` is what is left of the depth limit. -/
def value? : Nat → Nat → List Char → Option (Setting × List Char)
  | 0, _, _ => none
  | fuel + 1, depth, cs =>
    match cs with
    | '"' :: _ => (text? cs).map fun (s, rest) => (.text s, rest)
    | '\x27' :: _ => (text? cs).map fun (s, rest) => (.text s, rest)
    | '[' :: rest => if depth = 0 then none else items? fuel (depth - 1) [] (skipSpace rest)
    | '\x7b' :: rest => if depth = 0 then none else fields? fuel (depth - 1) [] (skipSpace rest)
    | _ =>
      let (word, rest) := spanWord cs
      (word? word).map fun s => (s, rest)

/-- Reads the values of a list and its closing bracket. -/
def items? : Nat → Nat → List Setting → List Char → Option (Setting × List Char)
  | 0, _, _, _ => none
  | fuel + 1, depth, done, cs =>
    match cs with
    | ']' :: rest => some (.list done.reverse, rest)
    | _ =>
      match value? fuel depth cs with
      | none => none
      | some (s, rest) =>
        match skipSpace rest with
        | ',' :: rest => items? fuel depth (s :: done) (skipSpace rest)
        | ']' :: rest => some (.list (s :: done).reverse, rest)
        | _ => none

/-- Reads the fields of a table in braces and its closing brace. Lines may end between all parts but
around the points of keys. -/
def fields? : Nat → Nat → Entries → List Char → Option (Setting × List Char)
  | 0, _, _, _ => none
  | fuel + 1, depth, done, cs =>
    match cs with
    | '\x7d' :: rest => some (.table (settings done), rest)
    | _ => do
      let (path, key, rest) ← path? cs
      match skipSpace rest with
      | '=' :: rest =>
        let (s, rest) ← value? fuel depth (skipSpace rest)
        let done ← Entries.putAt path key s .headed done
        match skipSpace rest with
        | ',' :: rest => fields? fuel depth done (skipSpace rest)
        | '\x7d' :: rest => some (.table (settings done), rest)
        | _ => none
      | _ => none

end

/-! ## Lines -/

/-- Reads a heading after its brackets have opened. -/
def heading? (cs : List Char) : Option (Line × List Char) :=
  match cs with
  | '[' :: cs => match path? cs with
    | some (path, key, ']' :: ']' :: rest) => some (.another path key, rest)
    | _ => none
  | cs => match path? cs with
    | some (path, key, ']' :: rest) => some (.heading path key, rest)
    | _ => none

/-- Reads a line that sets a key. -/
def entry? (cs : List Char) : Option (Line × List Char) :=
  match path? cs with
  | some (path, key, '=' :: rest) =>
    (value? (rest.length + 1) depthLimit (skipBlanks rest)).map fun (s, rest) =>
      (.entry path key s, rest)
  | _ => none

/-- Reads a line. -/
def readLine (cs : List Char) : Option (Line × List Char) :=
  match cs with
  | '[' :: cs => heading? cs
  | cs => entry? cs

/-- Reads all lines. Every line takes at least one character, so the length of the text bounds the
steps. -/
def lines? : Nat → List Char → Option (List Line)
  | 0, _ => none
  | fuel + 1, cs =>
    match skipSpace cs with
    | [] => some []
    | cs => do
      let (line, rest) ← readLine cs
      let rest ← afterLine? rest
      return line :: (← lines? fuel rest)

/-- The mark of the byte order, which may begin a text. -/
def orderMark : Char := Char.ofNat 0xFEFF

/-- Reads a document. -/
def ofText? (s : String) : Option (List (String × Setting)) := do
  let cs := match s.toList with
    | c :: cs => if c = orderMark then cs else c :: cs
    | [] => []
  let d ← Document.ofLines (← lines? (cs.length + 1) cs)
  return settings d.entries

end AudioHost.Toml
