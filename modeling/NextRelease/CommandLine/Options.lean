import NextRelease.Text.Basic
import NextRelease.Text.Quoted

/-!
The command line: what it says about itself, its values and its options.
-/

namespace NextRelease.CommandLine

def programName : String := "liskov-semver"

def versionText : String := programName ++ ", version 0.1.0\n"

def helpText : String :=
"Usage: liskov-semver [OPTIONS] [DIRECTORY] [SEMVER]

  Generate the next package version, or validate SEMVER against it.

  Compares the public API of the highest SemVer tag with the current branch by
  asking the TypeScript compiler whether each version can substitute for the
  other.

  Examples:

      liskov-semver

      liskov-semver some/package --no-error-on-dirty

      liskov-semver some/package v1.2.3 --write

Options:
  -V, --version                   Show the version and exit.
  -f, --from REF                  Ref to use as \"old\" version (default:
                                  highest SemVer tag)
  -t, --to REF                    Ref to use as \"new\" version (default:
                                  current branch)
  --update / --no-update          Update package.json with the new version
  --tag / --no-tag                Create a git tag with the new version
  -w, --write                     Update package.json and create a git tag
  --error-on-dirty / --no-error-on-dirty
                                  Fail if the working directory is not clean
  --error-on-unreachable / --no-error-on-unreachable
                                  Fail if the \"from\" ref cannot reach the \"to\"
                                  ref
  --all-tags                      Consider every SemVer tag for the old
                                  version, not only those reachable from the
                                  new one
  --tsc TEXT                      TypeScript compiler executable  [default:
                                  tsc]
  -q, -s, --silent, --quiet       Don't show output, simply use the exit
                                  status
  -v, --verbose                   Show detailed output, may be repeated
  -h, --help                      Show this message and exit.

  Boolean options have \"opposites\" starting with a \"--no-\" prefix, eg. \"--no-
  update\". Every option can also be set through LISKOV_SEMVER_<OPTION>
  environment variables.
"

/-! ## Values

Values of options as text: truth values and counts.
-/

def trueWords : List String := ["1", "on", "t", "true", "y", "yes"]

def falseWords : List String := ["", "0", "f", "false", "n", "no", "off"]

def readTruth? (text : String) : Option Bool :=
  let word := String.ofList ((Text.trimChars text.toList).map Char.toLower)
  if trueWords.contains word then some true
  else if falseWords.contains word then some false
  else none

def truthReason (text : String) : String :=
  Text.quote text ++ " is not a valid boolean. Recognized values: , 0, 1, f, false, n, no, off, " ++
    "on, t, true, y, yes"

def decimalZeros : List Nat :=
  [0x30, 0x660, 0x6F0, 0x7C0, 0x966, 0x9E6, 0xA66, 0xAE6, 0xB66, 0xBE6, 0xC66, 0xCE6, 0xD66, 0xDE6,
    0xE50, 0xED0, 0xF20, 0x1040, 0x1090, 0x17E0, 0x1810, 0x1946, 0x19D0, 0x1A80, 0x1A90, 0x1B50,
    0x1BB0, 0x1C40, 0x1C50, 0xA620, 0xA8D0, 0xA900, 0xA9D0, 0xA9F0, 0xAA50, 0xABF0, 0xFF10, 0x104A0,
    0x10D30, 0x11066, 0x110F0, 0x11136, 0x111D0, 0x112F0, 0x11450, 0x114D0, 0x11650, 0x116C0,
    0x11730, 0x118E0, 0x11950, 0x11C50, 0x11D50, 0x11DA0, 0x16A60, 0x16AC0, 0x16B50, 0x1D7CE,
    0x1D7D8, 0x1D7E2, 0x1D7EC, 0x1D7F6, 0x1E140, 0x1E2F0, 0x1E950, 0x1FBF0]

def digitValue? (c : Char) : Option Nat :=
  (decimalZeros.find? fun first => first ≤ c.toNat && c.toNat < first + 10).map (c.toNat - ·)

def takeDigits? : (afterDigit : Bool) → List Char → Option (List Nat × List Char)
  | afterDigit, [] => if afterDigit then some ([], []) else none
  | afterDigit, c :: cs =>
    if c = '_' then if afterDigit then takeDigits? false cs else none
    else
      match digitValue? c with
      | none => if afterDigit then some ([], c :: cs) else none
      | some d => (takeDigits? true cs).map fun (digits, rest) => (d :: digits, rest)

def isNumberBlank (c : Char) : Bool :=
  Text.isBlank c && !(0x1C ≤ c.toNat && c.toNat ≤ 0x1F)

inductive NumberProblem where
  | notANumber
  | tooManyDigits (count : Nat)
  deriving DecidableEq

def readInt (text : String) : Except NumberProblem Int :=
  let cs := Text.trimBy isNumberBlank text.toList
  let (negative, cs) := match cs with
    | '-' :: cs => (true, cs)
    | '+' :: cs => (false, cs)
    | cs => (false, cs)
  match takeDigits? false cs with
  | none => .error .notANumber
  | some (digits, rest) =>
    if Text.digitLimit < digits.length then .error (.tooManyDigits digits.length)
    else if !rest.isEmpty then .error .notANumber
    else
      let n : Int := (digits.foldl (fun n d => 10 * n + d) 0 : Nat)
      .ok (if negative then -n else n)

def readCount (text : String) : Except String Nat :=
  match readInt text with
  | .error _ => .error (Text.quote text ++ " is not a valid integer range.")
  | .ok n =>
    if n < 0 then .error (toString n ++ " is not in the range x>=0.") else .ok n.toNat

/-! ## Options

Options on the command line: their spellings, and how the words of a command line are told apart
into settings and operands. Options and operands may be mixed, one-letter options may share a word,
a value may be the rest of the word, stand behind `=` or be the next word whatever it looks like,
and `--` ends the options.
-/

abbrev Environment := List (String × String)

inductive Parameter where
  | version
  | help
  | fromRef
  | toRef
  | update
  | tag
  | write
  | errorOnDirty
  | errorOnUnreachable
  | allTags
  | checker
  | silent
  | verbose
  deriving DecidableEq

inductive Effect where
  | takeText
  | switch (on : Bool)
  | count
  deriving DecidableEq

def spellings : List (String × Parameter × Effect) :=
  [("-V", .version, .switch true), ("--version", .version, .switch true),
    ("--from", .fromRef, .takeText), ("-f", .fromRef, .takeText),
    ("--to", .toRef, .takeText), ("-t", .toRef, .takeText),
    ("--update", .update, .switch true), ("--no-update", .update, .switch false),
    ("--tag", .tag, .switch true), ("--no-tag", .tag, .switch false),
    ("--write", .write, .switch true), ("-w", .write, .switch true),
    ("--error-on-dirty", .errorOnDirty, .switch true),
    ("--no-error-on-dirty", .errorOnDirty, .switch false),
    ("--error-on-unreachable", .errorOnUnreachable, .switch true),
    ("--no-error-on-unreachable", .errorOnUnreachable, .switch false),
    ("--all-tags", .allTags, .switch true),
    ("--tsc", .checker, .takeText),
    ("--silent", .silent, .switch true), ("--quiet", .silent, .switch true),
    ("-q", .silent, .switch true), ("-s", .silent, .switch true),
    ("--verbose", .verbose, .count), ("-v", .verbose, .count),
    ("-h", .help, .switch true), ("--help", .help, .switch true)]

def Parameter.hint (p : Parameter) : String :=
  let named := spellings.filter fun s => s.2.1 == p && s.2.2 != .switch false
  " / ".intercalate (named.map fun s => "'" ++ s.1 ++ "'")

def Parameter.variable? : Parameter → Option String
  | version => some "VERSION"
  | help => none
  | fromRef => some "FROM_REF"
  | toRef => some "TO_REF"
  | update => some "UPDATE"
  | tag => some "TAG"
  | write => some "WRITE"
  | errorOnDirty => some "ERROR_ON_DIRTY"
  | errorOnUnreachable => some "ERROR_ON_UNREACHABLE"
  | allTags => some "ALL_TAGS"
  | checker => some "TSC"
  | silent => some "SILENT"
  | verbose => some "VERBOSE"

inductive UsageError where
  | noSuchOption (name : String)
  | requiresArgument (name : String)
  | takesNoValue (name : String)
  | unexpected (operands : List String)
  | badValue (hint reason : String)
  deriving DecidableEq

def UsageError.message : UsageError → String
  | noSuchOption name => "No such option " ++ Text.quote name ++ "."
  | requiresArgument name => "Option " ++ Text.quote name ++ " requires an argument."
  | takesNoValue name => "Option " ++ Text.quote name ++ " does not take a value."
  | unexpected [operand] => "Got unexpected extra argument (" ++ operand ++ ")"
  | unexpected operands => "Got unexpected extra arguments (" ++ " ".intercalate operands ++ ")"
  | badValue hint reason => "Invalid value for " ++ hint ++ ": " ++ reason

inductive Setting where
  | text (value : String)
  | switch (on : Bool)
  | count
  deriving DecidableEq

structure Words where
  settings : List (Parameter × Setting) := []
  operands : List String := []
  deriving DecidableEq

structure Reading where
  settings : List (Parameter × Setting) := []
  waiting : Option (Parameter × String) := none

def readLetters : List Char → Except UsageError Reading
  | [] => .ok {}
  | c :: rest =>
    let name := String.ofList ['-', c]
    match spellings.lookup name with
    | none => .error (.noSuchOption name)
    | some (p, .takeText) =>
      .ok (if rest.isEmpty then { waiting := some (p, name) }
        else { settings := [(p, .text (String.ofList rest))] })
    | some (p, .switch on) => (readLetters rest).map fun r =>
      { r with settings := (p, .switch on) :: r.settings }
    | some (p, .count) => (readLetters rest).map fun r =>
      { r with settings := (p, .count) :: r.settings }

def readOption (word : String) : Except UsageError Reading :=
  let (front, value) := Text.cut '=' word.toList
  let name := String.ofList front
  if ['-', '-'].isPrefixOf word.toList then
    match spellings.lookup name, value with
    | none, _ => .error (.noSuchOption name)
    | some (p, .takeText), none => .ok { waiting := some (p, name) }
    | some (p, .takeText), some value => .ok { settings := [(p, .text (String.ofList value))] }
    | some _, some _ => .error (.takesNoValue name)
    | some (p, .switch on), none => .ok { settings := [(p, .switch on)] }
    | some (p, .count), none => .ok { settings := [(p, .count)] }
  else readLetters (word.toList.drop 1)

def isOption (word : String) : Bool := word.toList.head? == some '-' && word.length > 1

def readWords : List String → Except UsageError Words
  | [] => .ok {}
  | "--" :: words => .ok { operands := words }
  | word :: words =>
    if isOption word then
      match readOption word with
      | .error e => .error e
      | .ok ⟨settings, none⟩ =>
        (readWords words).map fun w => { w with settings := settings ++ w.settings }
      | .ok ⟨settings, some (p, name)⟩ =>
        match words with
        | [] => .error (.requiresArgument name)
        | value :: words =>
          (readWords words).map fun w =>
            { w with settings := settings ++ (p, .text value) :: w.settings }
    else
      (readWords words).map fun w => { w with operands := word :: w.operands }

end NextRelease.CommandLine
