/-!
Text inside a markup attribute: five characters are written as entities.

`encode` writes them and `decode` reads them back.
-/

namespace AudioHost.Markup

/-- The characters that are written as entities, with their names. -/
def entity : Char → Option (List Char)
  | '&' => some "amp".toList
  | '<' => some "lt".toList
  | '>' => some "gt".toList
  | '"' => some "quot".toList
  | '\'' => some "apos".toList
  | _ => none

/-- Writes one character, as an entity if it has one. -/
def encodeChar (c : Char) : List Char :=
  match entity c with
  | some name => '&' :: name ++ [';']
  | none => [c]

/-- Writes characters so that no markup character stands bare. -/
def encode (cs : List Char) : List Char := cs.flatMap encodeChar

/-- The character that an entity name stands for. -/
def named (name : List Char) : Option Char :=
  ['&', '<', '>', '"', '\''].find? fun c => entity c == some name

/-- Reads the entities of a text from left to right. The part read so far of an entity is kept in
front, in reverse; a name that is no entity's stays as it is. -/
def decodeFrom (pending : Option (List Char)) : List Char → List Char
  | [] => match pending with
    | none => []
    | some name => '&' :: name.reverse
  | c :: cs => match pending with
    | none => if c = '&' then decodeFrom (some []) cs else c :: decodeFrom none cs
    | some name =>
      if c = ';' then
        match named name.reverse with
        | some e => e :: decodeFrom none cs
        | none => '&' :: name.reverse ++ ';' :: decodeFrom none cs
      else if c = '&' then '&' :: name.reverse ++ decodeFrom (some []) cs
      else decodeFrom (some (c :: name)) cs

/-- Replaces the entities of a text by their characters. -/
def decode (cs : List Char) : List Char := decodeFrom none cs

/-- The text of an attribute value. -/
def escape (text : String) : String := String.ofList (encode text.toList)

end AudioHost.Markup
