import AudioHost.Json.Reader

/-!
Texts in TOML documents.

A text stands between double quotes, where a backslash begins an escape, or between single quotes,
where nothing does. Three quotes at each end let it go over several lines.
-/

namespace AudioHost.Toml

/-- A character that may stand in texts and remarks. -/
def isTextChar (c : Char) : Bool := c == '\t' || (32 ≤ c.toNat && c.toNat != 127)

/-! ## Where a text ends -/

/-- The characters of a text on one line up to its quote, and the rest after that. -/
def untilQuote (quote : Char) : List Char → Option (List Char × List Char)
  | '\\' :: c :: cs =>
    if quote = '"' then
      if isTextChar c then
        (untilQuote quote cs).map fun (front, back) => ('\\' :: c :: front, back)
      else none
    else if c = quote then some (['\\'], cs)
    else if isTextChar c then
      (untilQuote quote cs).map fun (front, back) => ('\\' :: c :: front, back)
    else none
  | c :: cs =>
    if c = quote then some ([], cs)
    else if isTextChar c then (untilQuote quote cs).map fun (front, back) => (c :: front, back)
    else none
  | [] => none

/-- What a text over several lines holds when quotes begin that may end it. Up to two quotes in
front of the last three belong to it. -/
def closing? (quote : Char) (cs : List Char) : Option (List Char × List Char) :=
  let quotes := (cs.takeWhile (· = quote)).length
  if quotes < 3 then none
  else
    let inside := min (quotes - 3) 2
    some (List.replicate inside quote, cs.drop (inside + 3))

/-- The characters of a text over several lines up to its quotes, and the rest after those. A
carriage return stands only in front of a line feed. -/
def untilQuotes (quote : Char) : List Char → Option (List Char × List Char)
  | [] => none
  | c :: cs =>
    let keep (c : Char) : Option (List Char × List Char) :=
      (untilQuotes quote cs).map fun (front, back) => (c :: front, back)
    if c = quote then (closing? quote (c :: cs)).orElse fun _ => keep c
    else if c = '\r' then if cs.head? = some '\n' then keep c else none
    else if c = '\n' || isTextChar c then keep c
    else none

/-- The same for a text with escapes: a character after a backslash ends nothing. -/
def untilQuotesEscaped (quote : Char) : List Char → Option (List Char × List Char)
  | [] => none
  | ['\\'] => none
  | '\\' :: c :: cs =>
    let lineEnds := c == '\n' || (c == '\r' && cs.head? == some '\n')
    if lineEnds || isTextChar c then
      (untilQuotesEscaped quote cs).map fun (front, back) => ('\\' :: c :: front, back)
    else none
  | c :: cs =>
    let keep (c : Char) : Option (List Char × List Char) :=
      (untilQuotesEscaped quote cs).map fun (front, back) => (c :: front, back)
    if c = quote then (closing? quote (c :: cs)).orElse fun _ => keep c
    else if c = '\r' then if cs.head? = some '\n' then keep c else none
    else if c = '\n' || isTextChar c then keep c
    else none

/-! ## Escapes -/

/-- The characters of the escapes that stand for one. -/
def escapes : List (Char × Char) :=
  [('b', Char.ofNat 8), ('t', '\t'), ('n', '\n'), ('f', Char.ofNat 12), ('r', '\r'),
    ('e', Char.ofNat 27), ('"', '"'), ('\\', '\\')]

/-- The number of digits of the escapes that give a number. -/
def numberEscapes : List (Char × Nat) := [('x', 2), ('u', 4), ('U', 8)]

/-- The character of a number. -/
def charOf? (n : Nat) : Option Char :=
  if n < 0xD800 || (0xE000 ≤ n && n < 0x110000) then some (Char.ofNat n) else none

/-- The character of a row of hexadecimal digits. -/
def charOfDigits? (count : Nat) (cs : List Char) : Option Char :=
  let digits := cs.take count
  if digits.length < count then none
  else
    (digits.mapM Json.hexValue?).bind fun values =>
      charOf? (values.foldl (fun n d => 16 * n + d) 0)

/-- A blank. -/
def isBlank (c : Char) : Bool := c == ' ' || c == '\t'

/-- The rest after a backslash at the end of a line: blanks and line ends go away. A carriage return
in a text always belongs to a line end. -/
def afterLineEnd? (cs : List Char) : Option (List Char) :=
  let isGone (c : Char) : Bool := isBlank c || c == '\n' || c == '\r'
  match cs.dropWhile isBlank with
  | c :: rest => if c = '\n' || c = '\r' then some (rest.dropWhile isGone) else none
  | [] => none

/-- Replaces escapes by what they stand for. The length of the text bounds the steps. -/
def unescape (multiline : Bool) : Nat → List Char → Option (List Char)
  | _, [] => some []
  | 0, _ => none
  | fuel + 1, '\\' :: c :: cs =>
    match escapes.lookup c, numberEscapes.lookup c with
    | some e, _ => (unescape multiline fuel cs).map (e :: ·)
    | none, some count =>
      match charOfDigits? count cs with
      | some e => (unescape multiline fuel (cs.drop count)).map (e :: ·)
      | none => none
    | none, none =>
      if multiline then (afterLineEnd? (c :: cs)).bind (unescape multiline fuel) else none
  | fuel + 1, c :: cs => if c = '\\' then none else (unescape multiline fuel cs).map (c :: ·)

/-! ## Reading texts -/

/-- Removes a line end in front. -/
def dropLineEnd : List Char → List Char
  | '\n' :: cs => cs
  | '\r' :: '\n' :: cs => cs
  | cs => cs

/-- Replaces the escapes in the first of two parts. -/
def unescaped (multiline : Bool) (r : List Char × List Char) : Option (String × List Char) :=
  (unescape multiline r.1.length r.1).map fun cs => (String.ofList cs, r.2)

/-- Takes the first of two parts as it is. -/
def verbatim (r : List Char × List Char) : String × List Char := (String.ofList r.1, r.2)

/-- Reads a text on one line. -/
def line? : List Char → Option (String × List Char)
  | '"' :: cs => (untilQuote '"' cs).bind (unescaped false)
  | '\x27' :: cs => (untilQuote '\x27' cs).map verbatim
  | _ => none

/-- Reads a text. -/
def text? : List Char → Option (String × List Char)
  | '"' :: '"' :: '"' :: cs => (untilQuotesEscaped '"' (dropLineEnd cs)).bind (unescaped true)
  | '\x27' :: '\x27' :: '\x27' :: cs => (untilQuotes '\x27' (dropLineEnd cs)).map verbatim
  | cs => line? cs

end AudioHost.Toml
