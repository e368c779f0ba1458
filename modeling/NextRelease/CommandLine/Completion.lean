import NextRelease.CommandLine.Options
import NextRelease.Release

/-!
What interactive shells are offered while a command line is being typed. A variable of the
environment names the shell and says whether the text is asked for that teaches it to ask, or what
may stand where the cursor is.
-/

namespace NextRelease.CommandLine.Completion

/-! ## Words as a shell parts them -/

inductive Position where
  | between
  | word
  | quoted (quote : Char)
  | escaped (quote : Option Char)

def isSeparator (c : Char) : Bool := " \t\r\n".toList.contains c

def wordsFrom : Position → (word : List Char) → (isQuoted : Bool) → List Char → List String
  | .between, word, isQuoted, [] | .word, word, isQuoted, [] =>
    if word.isEmpty && !isQuoted then [] else [String.ofList word]
  | _, word, _, [] => [String.ofList word]
  | .quoted quote, word, _, c :: cs =>
    if c = quote then wordsFrom .word word true cs
    else if c = '\\' && quote = '\x22' then wordsFrom (.escaped (some quote)) word true cs
    else wordsFrom (.quoted quote) (word ++ [c]) true cs
  | .escaped none, word, isQuoted, c :: cs => wordsFrom .word (word ++ [c]) isQuoted cs
  | .escaped (some quote), word, isQuoted, c :: cs =>
    let kept := if c = '\\' || c = quote then [c] else ['\\', c]
    wordsFrom (.quoted quote) (word ++ kept) isQuoted cs
  | position, word, isQuoted, c :: cs =>
    if isSeparator c then
      if word.isEmpty && !isQuoted then wordsFrom .between [] false cs
      else String.ofList word :: wordsFrom .between [] false cs
    else if c = '\\' then wordsFrom (.escaped none) word isQuoted cs
    else if c = '\x27' || c = '\x22' then wordsFrom (.quoted c) word isQuoted cs
    else
      match position with
      | .between => wordsFrom .word [c] isQuoted cs
      | _ => wordsFrom .word (word ++ [c]) isQuoted cs

def wordsOf (text : String) : List String := wordsFrom .between [] false text.toList

/-! ## What is asked -/

inductive Dialect where
  | bash
  | zsh
  | fish
  | powershell
  deriving DecidableEq

def Dialect.ofName? : String → Option Dialect
  | "bash" => some bash
  | "zsh" => some zsh
  | "fish" => some fish
  | "powershell" => some powershell
  | _ => none

structure Prompt where
  words : List String
  current : String

def wordsVariable : String := "COMP_WORDS"

def cursorVariable : String := "COMP_CWORD"

def requiredVariable (env : Environment) (name : String) : Except Fault String :=
  match env.lookup name with
  | some value => .ok value
  | none => .error (.unsetVariable name)

def numberedPrompt (env : Environment) : Except Fault Prompt := do
  let words := wordsOf (← requiredVariable env wordsVariable)
  let text ← requiredVariable env cursorVariable
  match readInt text with
  | .error .notANumber => throw (.notANumber text)
  | .error (.tooManyDigits count) => throw (.numeralTooLong count)
  | .ok n =>
    let index := if n < 0 then words.length + n else n
    let current := if index < 0 then none else words[index.toNat]?
    return ⟨(words.take index.toNat).drop 1, current.getD ""⟩

def spelledPrompt (env : Environment) : Except Fault Prompt := do
  let words := wordsOf (← requiredVariable env wordsVariable)
  let text ← requiredVariable env cursorVariable
  let current ← if text = "" then pure ""
    else match wordsOf text with
      | word :: _ => pure word
      | [] => throw .noWord
  let words := words.drop 1
  return ⟨if current != "" && words.getLast? == some current then words.dropLast else words,
    current⟩

def Dialect.prompt : Dialect → Environment → Except Fault Prompt
  | bash, env | zsh, env | powershell, env => numberedPrompt env
  | fish, env => spelledPrompt env

/-! ## What is offered -/

def parameters : List Parameter :=
  [.version, .fromRef, .toRef, .update, .tag, .write, .errorOnDirty, .errorOnUnreachable,
    .allTags, .checker, .silent, .verbose, .help]

def description : Parameter → String
  | .version => "Show the version and exit."
  | .help => "Show this message and exit."
  | .fromRef => "Ref to use as \"old\" version (default: highest SemVer tag)"
  | .toRef => "Ref to use as \"new\" version (default: current branch)"
  | .update => "Update package.json with the new version"
  | .tag => "Create a git tag with the new version"
  | .write => "Update package.json and create a git tag"
  | .errorOnDirty => "Fail if the working directory is not clean"
  | .errorOnUnreachable => "Fail if the \"from\" ref cannot reach the \"to\" ref"
  | .allTags =>
    "Consider every SemVer tag for the old version, not only those reachable from the new one"
  | .checker => "TypeScript compiler executable"
  | .silent => "Don't show output, simply use the exit status"
  | .verbose => "Show detailed output, may be repeated"

inductive Offer where
  | word (text help : String)
  | directory (start : String)
  deriving DecidableEq

def lettersBeforeMistake : List Char → List Parameter
  | [] => []
  | c :: cs =>
    match spellings.lookup (String.ofList ['-', c]) with
    | some (_, .takeText) | none => []
    | some (p, _) => p :: lettersBeforeMistake cs

def givenBeforeMistake : List String → List Parameter
  | [] => []
  | "--" :: _ => []
  | word :: words =>
    if isOption word then
      match readOption word with
      | .error _ => if word.startsWith "--" then [] else lettersBeforeMistake (word.toList.drop 1)
      | .ok ⟨settings, none⟩ => settings.map (·.1) ++ givenBeforeMistake words
      | .ok ⟨settings, some (p, _)⟩ =>
        settings.map (·.1) ++ match words with
          | [] => []
          | _ :: words => p :: givenBeforeMistake words
    else givenBeforeMistake words

def operandCount (words : List String) : Nat :=
  match readWords words with
  | .ok words => words.operands.length
  | .error _ => 0

def startsOption (word : String) : Bool := word.startsWith "-"

def optionOffers (given : List Parameter) (start : String) : List Offer :=
  if !startsOption start then []
  else
    (parameters.filter fun p => !given.contains p).flatMap fun p =>
      let named := spellings.filter fun s => s.2.1 == p
      let ordered := (named.filter fun s => s.2.2 != .switch false) ++
        named.filter fun s => s.2.2 == .switch false
      (ordered.filter fun s => s.1.startsWith start).map fun s => .word s.1 (description p)

def awaitsValue (word : String) : Bool :=
  match spellings.lookup word with
  | some (_, .takeText) => true
  | _ => false

def Prompt.parted (prompt : Prompt) : Prompt :=
  if prompt.current = "=" then { prompt with current := "" }
  else if startsOption prompt.current then
    match Text.cut '=' prompt.current.toList with
    | (name, some value) => ⟨prompt.words ++ [String.ofList name], String.ofList value⟩
    | (_, none) => prompt
  else prompt

def Prompt.offers (prompt : Prompt) : List Offer :=
  let given := givenBeforeMistake prompt.words
  let operands := operandCount prompt.words
  let ⟨words, current⟩ := prompt.parted
  if !words.contains "--" && startsOption current then optionOffers given current
  else if words.getLast?.any awaitsValue then []
  else if operands = 0 then [.directory current]
  else if operands = 1 then []
  else optionOffers given current

def escapeColons (text : String) : String :=
  String.ofList (text.toList.flatMap fun c => if c = ':' then ['\\', ':'] else [c])

def Dialect.show : Dialect → Offer → String
  | bash, .word text _ => "plain," ++ text
  | bash, .directory start => "dir," ++ start
  | zsh, .word text help => "plain\n" ++ escapeColons text ++ "\n" ++ help
  | zsh, .directory start => "dir\n" ++ start ++ "\n_"
  | fish, .word text help => "plain," ++ text ++ "\t" ++ help
  | fish, .directory start => "dir," ++ start
  | powershell, .word text help => "plain\n" ++ text ++ "\n" ++ help
  | powershell, .directory start => "dir\n" ++ start ++ "\n_"

/-! ## Teaching a shell to ask -/

def requestVariable : String := "_LISKOV_SEMVER_COMPLETE"

def functionName : String := "_liskov_semver_completion"

def bashSource : List String :=
  [functionName ++ "() \x7b",
    "    local IFS=$'\\n'",
    "    local response",
    "",
    "    response=$(env COMP_WORDS=\"$\x7bCOMP_WORDS[*]\x7d\" COMP_CWORD=$COMP_CWORD " ++
      requestVariable ++ "=bash_complete $1)",
    "",
    "    for completion in $response; do",
    "        IFS=',' read type value <<< \"$completion\"",
    "",
    "        if [[ $type == 'dir' ]]; then",
    "            COMPREPLY=()",
    "            compopt -o dirnames",
    "        elif [[ $type == 'file' ]]; then",
    "            COMPREPLY=()",
    "            compopt -o default",
    "        elif [[ $type == 'plain' ]]; then",
    "            COMPREPLY+=($value)",
    "        fi",
    "    done",
    "",
    "    return 0",
    "\x7d",
    "",
    functionName ++ "_setup() \x7b",
    "    complete -o nosort -F " ++ functionName ++ " " ++ programName,
    "\x7d",
    "",
    functionName ++ "_setup;"]

def zshSource : List String :=
  ["#compdef " ++ programName,
    "",
    functionName ++ "() \x7b",
    "    local -a completions",
    "    local -a completions_with_descriptions",
    "    local -a response",
    "    (( ! $+commands[" ++ programName ++ "] )) && return 1",
    "",
    "    response=(\"$\x7b(@f)$(env COMP_WORDS=\"$\x7bwords[*]\x7d\" COMP_CWORD=$((CURRENT-1)) " ++
      requestVariable ++ "=zsh_complete " ++ programName ++ ")\x7d\")",
    "",
    "    for type key descr in $\x7bresponse\x7d; do",
    "        if [[ \"$type\" == \"plain\" ]]; then",
    "            if [[ \"$descr\" == \"_\" ]]; then",
    "                completions+=(\"$key\")",
    "            else",
    "                completions_with_descriptions+=(\"$key\":\"$descr\")",
    "            fi",
    "        elif [[ \"$type\" == \"dir\" ]]; then",
    "            _path_files -/",
    "        elif [[ \"$type\" == \"file\" ]]; then",
    "            _path_files -f",
    "        fi",
    "    done",
    "",
    "    if [ -n \"$completions_with_descriptions\" ]; then",
    "        _describe -V unsorted completions_with_descriptions -U",
    "    fi",
    "",
    "    if [ -n \"$completions\" ]; then",
    "        compadd -U -V unsorted -a completions",
    "    fi",
    "\x7d",
    "",
    "if [[ $zsh_eval_context[-1] == loadautofunc ]]; then",
    "    # autoload from fpath, call function directly",
    "    " ++ functionName ++ " \"$@\"",
    "else",
    "    # eval/source/. command, register function for later",
    "    compdef " ++ functionName ++ " " ++ programName,
    "fi"]

def fishSource : List String :=
  ["function " ++ functionName ++ ";",
    "    set -l response (env " ++ requestVariable ++
      "=fish_complete COMP_WORDS=(commandline -cp) COMP_CWORD=(commandline -t) " ++
      programName ++ ");",
    "",
    "    for completion in $response;",
    "        set -l metadata (string split \",\" $completion);",
    "",
    "        if test $metadata[1] = \"dir\";",
    "            __fish_complete_directories $metadata[2];",
    "        else if test $metadata[1] = \"file\";",
    "            __fish_complete_path $metadata[2];",
    "        else if test $metadata[1] = \"plain\";",
    "            echo $metadata[2];",
    "        end;",
    "    end;",
    "end;",
    "",
    "complete --no-files --command " ++ programName ++ " --arguments \"(" ++ functionName ++ ")\";"]

def powershellSource : List String :=
  ["Register-ArgumentCompleter -Native -CommandName " ++ programName ++ " -ScriptBlock \x7b",
    "    param($wordToComplete, $commandAst, $cursorPosition)",
    "",
    "    $prev_complete = $env:" ++ requestVariable,
    "    $prev_words = $env:COMP_WORDS",
    "    $prev_cword = $env:COMP_CWORD",
    "",
    "    $env:" ++ requestVariable ++ " = 'powershell_complete'",
    "    $env:COMP_WORDS = $commandAst.ToString()",
    "    if ($wordToComplete) \x7b",
    "        $env:COMP_CWORD = $commandAst.CommandElements.Count - 1",
    "    \x7d else \x7b",
    "        $env:COMP_CWORD = $commandAst.CommandElements.Count",
    "    \x7d",
    "",
    "    try \x7b",
    "        $response = & " ++ programName ++ " 2>$null",
    "    \x7d finally \x7b",
    "        $env:" ++ requestVariable ++ " = $prev_complete",
    "        $env:COMP_WORDS = $prev_words",
    "        $env:COMP_CWORD = $prev_cword",
    "    \x7d",
    "",
    "    if (-not $response) \x7b return \x7d",
    "",
    "    $prefix = \"$wordToComplete*\"",
    "    $lines = $response -split \"" ++ String.ofList [Char.ofNat 96] ++ "n\"",
    "    for ($i = 0; $i + 2 -lt $lines.Count; $i += 3) \x7b",
    "        $type = $lines[$i]",
    "        $value = $lines[$i + 1]",
    "        $descr = $lines[$i + 2]",
    "        if (-not $type) \x7b continue \x7d",
    "",
    "        if ($type -eq 'plain') \x7b",
    "            $tip = if ($descr -and $descr -ne '_') \x7b $descr \x7d else \x7b $value \x7d",
    "            [System.Management.Automation.CompletionResult]::new(",
    "                $value, $value, 'ParameterValue', $tip)",
    "        \x7d elseif ($type -eq 'dir') \x7b",
    "            Get-ChildItem -Directory -Path $prefix -ErrorAction SilentlyContinue |",
    "                ForEach-Object \x7b",
    "                    [System.Management.Automation.CompletionResult]::new(",
    "                        $_.FullName, $_.Name, 'ProviderContainer', $_.FullName)",
    "                \x7d",
    "        \x7d elseif ($type -eq 'file') \x7b",
    "            Get-ChildItem -Path $prefix -ErrorAction SilentlyContinue |",
    "                ForEach-Object \x7b",
    "                    $kind = 'ProviderItem'",
    "                    if ($_.PSIsContainer) \x7b $kind = 'ProviderContainer' \x7d",
    "                    [System.Management.Automation.CompletionResult]::new(",
    "                        $_.FullName, $_.Name, $kind, $_.FullName)",
    "                \x7d",
    "        \x7d",
    "    \x7d",
    "\x7d"]

def Dialect.source : Dialect → List String
  | bash => bashSource
  | zsh => zshSource
  | fish => fishSource
  | powershell => powershellSource

/-! ## Answers -/

def answer? (env : Environment) : Except Fault (Option Release.Report) :=
  match env.lookup requestVariable with
  | none | some "" => .ok none
  | some text =>
    let (shell, instruction) := Text.cut '_' text.toList
    match Dialect.ofName? (String.ofList shell), instruction.map String.ofList with
    | some dialect, some "source" =>
      .ok (some { exit := 0, out := "\n".intercalate dialect.source ++ "\n" })
    | some dialect, some "complete" => do
      let offers := (← dialect.prompt env).offers
      return some { exit := 0, out := "\n".intercalate (offers.map dialect.show) ++ "\n" }
    | _, _ => .ok (some { exit := 1 })

end NextRelease.CommandLine.Completion
