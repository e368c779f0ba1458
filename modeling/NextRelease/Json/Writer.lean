import NextRelease.Json.Basic
import NextRelease.Text.Basic
import NextRelease.Text.Quoted

/-!
Three written forms of a JSON value: on one line in ASCII, one item a line with text as it is, and
the form in which messages show a value.
-/

namespace NextRelease.Json

def numberLayout : Binary64.Layout := ⟨-4, 15, 2, "NaN", "Infinity"⟩

def shownLayout : Binary64.Layout := ⟨-4, 15, 2, "nan", "inf"⟩

def writeInt (n : Int) : List Char :=
  (if n < 0 then ['-'] else []) ++ Nat.toDigits 10 n.natAbs

def shortEscape? (c : Char) : Option (List Char) :=
  if c = '\x22' ∨ c = '\\' then some ['\\', c]
  else if c = '\n' then some ['\\', 'n']
  else if c = '\r' then some ['\\', 'r']
  else if c = '\t' then some ['\\', 't']
  else if c = '\x08' then some ['\\', 'b']
  else if c = '\x0c' then some ['\\', 'f']
  else none

def unitEscape (n : Nat) : List Char := '\\' :: 'u' :: Text.lowerHex 4 n

def asciiPoint : CodePoint → List Char
  | .scalar c =>
    match shortEscape? c with
    | some escape => escape
    | none =>
      let n := c.toNat
      if 0x20 ≤ n ∧ n ≤ 0x7E then [c]
      else if n < 0x10000 then unitEscape n
      else
        unitEscape (0xD800 + (n - 0x10000) / 0x400) ++ unitEscape (0xDC00 + (n - 0x10000) % 0x400)
  | .surrogate n => unitEscape (0xD800 + n.val)

def plainPoint : CodePoint → Text
  | .scalar c =>
    match shortEscape? c with
    | some escape => Text.ofChars escape
    | none => if c.toNat < 0x20 then Text.ofChars (unitEscape c.toNat) else [.scalar c]
  | .surrogate n => [.surrogate n]

def writeAsciiText (t : Text) : List Char := '\x22' :: (t.flatMap asciiPoint ++ ['\x22'])

def writePlainText (t : Text) : Text :=
  .scalar '\x22' :: (t.flatMap plainPoint ++ [.scalar '\x22'])

mutual

def write : Json → List Char
  | null => "null".toList
  | bool b => if b then "true".toList else "false".toList
  | int n => writeInt n
  | float x => x.write numberLayout
  | str t => writeAsciiText t
  | arr items => '[' :: (writeItems items ++ [']'])
  | obj fields => '\x7b' :: (writeFields fields ++ ['\x7d'])

def writeItems : List Json → List Char
  | [] => []
  | [item] => write item
  | item :: items => write item ++ ", ".toList ++ writeItems items

def writeFields : List (Text × Json) → List Char
  | [] => []
  | [(key, value)] => writeAsciiText key ++ ": ".toList ++ write value
  | (key, value) :: fields =>
    writeAsciiText key ++ ": ".toList ++ write value ++ ", ".toList ++ writeFields fields

end

abbrev TextForm := Text → Text

def newLine (depth : Nat) (rest : Text) : Text :=
  .scalar '\n' :: List.replicateTR (2 * depth) (CodePoint.scalar ' ') ++ rest

mutual

def indentedOnto (form : TextForm) (depth : Nat) (value : Json) (rest : Text) : Text :=
  match value with
  | null => Text.ofString "null" ++ rest
  | bool b => Text.ofString (if b then "true" else "false") ++ rest
  | int n => Text.ofChars (writeInt n) ++ rest
  | float x => Text.ofChars (x.write numberLayout) ++ rest
  | str t => form t ++ rest
  | arr [] => Text.ofString "[]" ++ rest
  | arr items =>
    .scalar '[' :: indentedItems form (depth + 1) items (newLine depth (.scalar ']' :: rest))
  | obj [] => Text.ofString "\x7b\x7d" ++ rest
  | obj fields =>
    .scalar '\x7b' ::
      indentedFields form (depth + 1) fields (newLine depth (.scalar '\x7d' :: rest))

def indentedItems (form : TextForm) (depth : Nat) (items : List Json) (rest : Text) : Text :=
  match items with
  | [] => rest
  | [item] => newLine depth (indentedOnto form depth item rest)
  | item :: items =>
    newLine depth
      (indentedOnto form depth item (.scalar ',' :: indentedItems form depth items rest))

def indentedFields (form : TextForm) (depth : Nat) (fields : List (Text × Json)) (rest : Text) :
    Text :=
  match fields with
  | [] => rest
  | [(key, value)] =>
    newLine depth (form key ++ Text.ofString ": " ++ indentedOnto form depth value rest)
  | (key, value) :: fields =>
    newLine depth (form key ++ Text.ofString ": " ++
      indentedOnto form depth value (.scalar ',' :: indentedFields form depth fields rest))

end

def writeIndented (form : TextForm) (depth : Nat) (value : Json) : Text :=
  indentedOnto form depth value []

def document (value : Json) : Text :=
  writeIndented writePlainText 0 value ++ [.scalar '\n']

mutual

def display : Json → List Char
  | null => "None".toList
  | bool b => if b then "True".toList else "False".toList
  | int n => writeInt n
  | float x => x.write shownLayout
  | str t => Text.quoteChars t
  | arr items => '[' :: (displayItems items ++ [']'])
  | obj fields => '\x7b' :: (displayFields fields ++ ['\x7d'])

def displayItems : List Json → List Char
  | [] => []
  | [item] => display item
  | item :: items => display item ++ ", ".toList ++ displayItems items

def displayFields : List (Text × Json) → List Char
  | [] => []
  | [(key, value)] => Text.quoteChars key ++ ": ".toList ++ display value
  | (key, value) :: fields =>
    Text.quoteChars key ++ ": ".toList ++ display value ++ ", ".toList ++ displayFields fields

end

end NextRelease.Json
