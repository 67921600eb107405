import AudioHost.Text.Split

/-!
Commands of shell scripts, and the words that they are made of.

A text is a row of bytes, each kept as the character of its number.
-/

namespace AudioHost.Shell

/-- A row of bytes. -/
abbrev Chars := List Char

/-- The order of rows by their bytes. -/
def bytesLe (a b : Chars) : Bool := !List.lex b a fun c d => c.toNat < d.toNat

mutual

/-- A part of a word. -/
inductive Piece where
  | plain (cs : Chars)
  | quoted (cs : Chars)
  | value (inQuotes : Bool) (name : String) (form : Form)
  /-- The value of a sum. -/
  | sum (inQuotes : Bool) (text : List Piece)
  /-- What commands write. -/
  | output (inQuotes : Bool) (script : List Command)

/-- What is done to the value of a variable. -/
inductive Form where
  | plain
  | length
  /-- A word takes the place of a value that is missing, or that is also not to be empty. -/
  | orElse (notEmpty : Bool) (word : List Piece)
  /-- A value that is missing is set to a word first. -/
  | orSet (notEmpty : Bool) (word : List Piece)
  /-- Without a value the script fails with a message. -/
  | orFail (notEmpty : Bool) (message : List Piece)
  /-- A word takes the place of a value that is there. -/
  | ifSet (notEmpty : Bool) (word : List Piece)
  /-- What a pattern matches in front goes away, as little or as much as possible. -/
  | dropFront (most : Bool) (pattern : List Piece)
  /-- What a pattern matches at the end goes away, as little or as much as possible. -/
  | dropBack (most : Bool) (pattern : List Piece)
  /-- No form that there is. -/
  | broken

/-- Where a stream is redirected to. -/
inductive Redirection where
  | input (stream : Nat) (file : List Piece)
  /-- A stream is written to a file, or added to what it holds. A file that exists may be kept
  from harm, unless it is to be replaced by `force`. -/
  | output (stream : Nat) (keeps force : Bool) (file : List Piece)
  /-- A stream is read from a file and written to it. -/
  | both (stream : Nat) (file : List Piece)
  /-- A stream becomes the same as another. -/
  | same (stream : Nat) (other : List Piece)
  /-- A stream is read from a text in the script. -/
  | text (stream : Nat) (content : List Piece)

/-- A command. -/
inductive Command where
  | simple (line : Nat) (assignments : List (String × List Piece)) (words : List (List Piece))
      (redirections : List Redirection)
  | redirected (line : Nat) (c : Command) (redirections : List Redirection)
  | sequence (cs : List Command)
  | pipeline (cs : List Command)
  | negated (c : Command)
  | both (a b : Command)
  | either (a b : Command)
  | background (c : Command)
  | branch (condition yes no : Command)
  | loop (whileTrue : Bool) (condition body : Command)
  /-- Without words the parameters are gone through. -/
  | each (line : Nat) (name : String) (words : Option (List (List Piece))) (body : Command)
  | choice (line : Nat) (subject : List Piece) (arms : List (List (List Piece) × Command))
  | subshell (line : Nat) (c : Command)
  | define (name : String) (body : Command)

end

instance : Inhabited Command := ⟨.sequence []⟩

/-- A word. -/
abbrev Word := List Piece

/-- A character of a name. -/
def isNameChar (c : Char) : Bool := c.isAlphanum || c == '_'

/-- The characters are a name. -/
def isName (cs : Chars) : Bool :=
  !cs.isEmpty && cs.all isNameChar && !((cs.head?.map Char.isDigit).getD false)

end AudioHost.Shell
