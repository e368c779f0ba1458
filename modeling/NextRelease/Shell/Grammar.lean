import NextRelease.Shell.Octets

/-!
What a shell script says: words with quotes, parameters, command substitutions and sums, and the
commands that are made of them.
-/

namespace NextRelease.Shell

/-- What is done with the value of a parameter. Where `orEmpty` stands, an empty value counts as a
missing one. -/
inductive Use where
  | value
  | length
  | otherwise (orEmpty : Bool)
  | assign (orEmpty : Bool)
  | demand (orEmpty : Bool)
  | instead (orEmpty : Bool)
  | dropFront (longest : Bool)
  | dropBack (longest : Bool)
  | unknown
  deriving DecidableEq

inductive Writing where
  | fresh
  | over
  | append
  deriving DecidableEq

mutual

inductive Piece where
  | literal (text : Octets) (quoted : Bool)
  | parameter (name : Octets) (use : Use) (word : List Piece) (quoted : Bool)
  | command (script : Option Node) (quoted : Bool)
  | sum (terms : List Piece) (quoted : Bool)

inductive Direction where
  | output (writing : Writing) (file : List Piece)
  | input (file : List Piece)
  | both (file : List Piece)
  | duplicate (source : List Piece)
  | here (text : List Piece)

inductive Redirect where
  | mk (descriptor : Nat) (direction : Direction)

inductive Assignment where
  | mk (name : Octets) (value : List Piece)

inductive Branch where
  | mk (patterns : List (List Piece)) (body : Option Node)

inductive Node where
  | simple (line : Nat) (assignments : List Assignment) (words : List (List Piece))
      (redirects : List Redirect)
  | define (name : Octets) (body : Node)
  | sequence (first second : Node)
  | andThen (first second : Node)
  | orElse (first second : Node)
  | pipeline (nodes : List Node)
  | background (node : Node)
  | negate (node : Node)
  | redirected (line : Nat) (node : Node) (redirects : List Redirect)
  | subshell (node : Node) (redirects : List Redirect)
  | choose (test accepted : Node) (refused : Option Node)
  | repeated (whileFails : Bool) (test body : Node)
  | each (line : Nat) (name : Octets) (words : Option (List (List Piece))) (body : Node)
  | select (line : Nat) (subject : List Piece) (branches : List Branch)

end

abbrev Word := List Piece

def keywords : List String :=
  ["!", "case", "do", "done", "elif", "else", "esac", "fi", "for", "if", "in", "then", "until",
    "while", "\x7b", "\x7d"]

def specialCommands : List String :=
  [".", ":", "break", "continue", "eval", "exec", "exit", "export", "readonly", "return", "set",
    "shift", "times", "trap", "unset"]

def consLiteral (text : Octets) (quoted : Bool) : Word → Word
  | .literal more q :: word =>
    if q = quoted then .literal (text ++ more) quoted :: word
    else .literal text quoted :: .literal more q :: word
  | word => .literal text quoted :: word

def bareText? : Word → Option Octets
  | [] => some []
  | .literal text false :: word => (bareText? word).map (text ++ ·)
  | _ => none

def plainText : Word → Octets
  | [] => []
  | .literal text _ :: word => text ++ plainText word
  | _ :: word => plainText word

def assignment? : Word → Option Assignment
  | .literal text false :: word =>
    let name := text.takeWhile (· != '=')
    match text.drop name.length with
    | '=' :: value =>
      if isName name then
        some (.mk name (if value.isEmpty then word else .literal value false :: word))
      else none
    | _ => none
  | _ => none

end NextRelease.Shell
