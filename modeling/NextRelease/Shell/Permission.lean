import NextRelease.Files.Tree
import NextRelease.Shell.Format

/-!
Permissions as texts: nine letters that show them, and modes that change them, either a number in
octal digits or clauses such as `u+x,go-w`.
-/

namespace NextRelease.Shell.Permission

def groupLetters (bits : Nat) (hasSpecial : Bool) (special : Char) : Octets :=
  let run := match hasSpecial, bits % 2 == 1 with
    | false, runs => if runs then 'x' else '-'
    | true, true => special
    | true, false => special.toUpper
  [if bits / 4 % 2 = 1 then 'r' else '-', if bits / 2 % 2 = 1 then 'w' else '-', run]

def letters (mode : Nat) : Octets :=
  groupLetters (mode / 64) (mode / 2048 % 2 == 1) 's' ++
    groupLetters (mode / 8) (mode / 1024 % 2 == 1) 's' ++
    groupLetters mode (mode / 512 % 2 == 1) 't'

def digits (width mode : Nat) : Octets :=
  let digits := Nat.toDigits 8 mode
  List.replicate (width - digits.length) '0' ++ digits

def without (bits others : Nat) : Nat := bits - (bits &&& others)

def userBits : Char → Nat
  | 'u' => 0o4700
  | 'g' => 0o2070
  | 'o' => 0o1007
  | _ => 0o7777

/-- The bits of what a letter allows, for all users. -/
def permissionBits (mode : Nat) (isDirectory : Bool) : Char → Nat
  | 'r' => 0o444
  | 'w' => 0o222
  | 'x' => 0o111
  | 'X' => if isDirectory || (mode &&& 0o111) != 0 then 0o111 else 0
  | 's' => 0o6000
  | 't' => 0o1000
  | 'u' => mode / 64 % 8 * 0o111
  | 'g' => mode / 8 % 8 * 0o111
  | 'o' => mode % 8 * 0o111
  | _ => 0

structure Clause where
  users : Octets
  sign : Char
  letters : Octets

namespace Clause

def number? (clause : Clause) : Option Nat :=
  if !clause.letters.isEmpty && clause.letters.all fun c => (octalValue? c).isSome then
    some (takeOctal clause.letters.length 0 clause.letters).1
  else none

def affected (clause : Clause) : Nat :=
  if clause.number?.isSome then 0o7777
  else clause.users.foldl (fun bits c => bits ||| userBits c) 0

def mentioned (clause : Clause) : Nat :=
  if clause.number?.isSome then 0o7777
  else
    let named := (clause.letters.filter "rwxst".toList.contains).foldl
      (fun bits c => bits ||| permissionBits 0 false c) 0
    if clause.users.isEmpty then named else named &&& clause.affected

def apply (clause : Clause) (mask : Nat) (isDirectory : Bool) (mode : Nat) : Nat :=
  let affected := clause.affected
  let named := clause.number?.getD (clause.letters.foldl
    (fun bits c => bits ||| permissionBits mode isDirectory c) 0)
  let kept := if isDirectory then without 0o6000 clause.mentioned else 0
  let value := without (if affected = 0 then without named mask else named &&& affected) kept
  match clause.sign with
  | '+' => mode ||| value
  | '-' => without mode value
  | _ => (if affected = 0 then mode &&& kept else without mode (without affected kept)) ||| value

end Clause

def readActions (users : Octets) : (fuel : Nat) → Octets → Option (List Clause)
  | 0, _ => none
  | _, [] => some []
  | fuel + 1, sign :: cs =>
    if !"+-=".toList.contains sign then none
    else if users.isEmpty && !cs.isEmpty && cs.all fun c => (octalValue? c).isSome then
      let clause : Clause := ⟨users, sign, cs⟩
      if clause.number?.any (· ≤ 0o7777) then some [clause] else none
    else
      let many := cs.takeWhile "rwxXst".toList.contains
      let letters := if many.isEmpty then cs.take 1 |>.filter "ugo".toList.contains else many
      let clause : Clause := ⟨users, sign, letters⟩
      (readActions users fuel (cs.drop letters.length)).map (clause :: ·)

def readClause (text : Octets) : Option (List Clause) :=
  let users := text.takeWhile "ugoa".toList.contains
  match text.drop users.length with
  | [] => none
  | actions => readActions users (actions.length + 1) actions

inductive Change where
  | number (mode : Nat) (isWhole : Bool)
  | steps (clauses : List Clause)

def readChange? (text : Octets) : Option Change :=
  if !text.isEmpty && text.all fun c => (octalValue? c).isSome then
    let mode := (takeOctal text.length 0 text).1
    if mode ≤ 0o7777 then some (.number mode (5 ≤ text.length)) else none
  else ((Text.splitOn ',' text).mapM readClause).map fun clauses => .steps clauses.flatten

def Change.apply (change : Change) (mask : Nat) (isDirectory : Bool) (mode : Nat) : Nat :=
  match change with
  | .number new isWhole => if isDirectory && !isWhole then new ||| (mode &&& 0o6000) else new
  | .steps clauses => clauses.foldl (fun mode clause => clause.apply mask isDirectory mode) mode

end NextRelease.Shell.Permission
