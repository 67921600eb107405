import AudioHost.Shell.Number

/-!
Masks: the permissions that new files do not get.

A mask has three octal digits, for the owner of a file, for its group and for all others.
-/

namespace AudioHost.Shell.Mask

/-- All permissions. -/
def full : Nat := 511

/-- A mask as a number of four octal digits. -/
def octal (mask : Nat) : Chars :=
  let ds := Nat.toDigits 8 mask
  List.replicate (4 - ds.length) '0' ++ ds

/-- The mask that octal digits stand for. -/
def ofOctal? (cs : Chars) : Option Nat :=
  if cs.all fun c => (Number.digit? 8 c).isSome then some (Number.natural 8 cs % (full + 1))
  else none

/-- The classes of users and their shares of a mask. -/
def classes : List (Char × Nat) := [('u', 64), ('g', 8), ('o', 1)]

/-- The permissions that a class can have. -/
def permissions : List (Char × Nat) := [('r', 4), ('w', 2), ('x', 1)]

/-- The permissions that a mask leaves, in letters. -/
def letters (mask : Nat) : Chars :=
  let shown := classes.map fun (c, share) =>
    let left := 7 - mask / share % 8
    c :: '=' :: (permissions.filter fun p => left / p.2 % 2 = 1).map Prod.fst
  List.intercalate [','] shown

/-- Goes on with permissions for some classes as letters say: an equals sign sets them, a plus sign
adds some and a minus sign takes some. -/
def alter? (who : Nat) : Nat → Nat → Chars → Option Nat
  | 0, _, _ => none
  | _ + 1, given, [] => some given
  | n + 1, given, sign :: cs =>
    let isPermission (c : Char) : Bool := (permissions.lookup c).isSome
    let meant := permissions.filter fun p => (cs.takeWhile isPermission).contains p.1
    let change := meant.foldr (fun e total => e.2 + total) 0 * who
    let rest := cs.dropWhile isPermission
    match sign with
    | '=' => alter? who n ((given &&& (full - 7 * who)) ||| change) rest
    | '+' => alter? who n (given ||| change) rest
    | '-' => alter? who n (given &&& (full - change)) rest
    | _ => none

/-- The mask after permissions were changed by clauses between commas. -/
def ofLetters? (mask : Nat) (cs : Chars) : Option Nat :=
  let step (given : Option Nat) (clause : Chars) : Option Nat := do
    let isClass (c : Char) : Bool := c = 'a' || (classes.lookup c).isSome
    let named := clause.takeWhile isClass
    let rest := clause.drop named.length
    let all := named.isEmpty || named.contains 'a'
    let shares := (classes.filter fun c => all || named.contains c.1).map Prod.snd
    if rest.isEmpty then none else alter? (shares.foldr (· + ·) 0) (rest.length + 1) (← given) rest
  ((Text.splitAll ',' cs).foldl step (some (full - mask))).map (full - ·)

end AudioHost.Shell.Mask
