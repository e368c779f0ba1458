import NextRelease.CommandLine.Completion

/-!
From the words of a command line and the environment to what is to be done. The first bad value is
reported: operands come before options that are set through the environment, and those are looked
at in the order in which they are declared.
-/

namespace NextRelease.CommandLine

inductive Verbosity where
  | nothing
  | warnings
  | progress
  | everything
  deriving DecidableEq

def Verbosity.shows : Verbosity → Level → Bool
  | nothing, _ => false
  | warnings, level => level == .warning
  | progress, level => level != .debug
  | everything, _ => true

structure Invocation where
  order : Release.Order
  verbosity : Verbosity

def environmentValue? (env : Environment) (p : Parameter) : Option String :=
  match p.variable?.bind fun name => env.lookup ("LISKOV_SEMVER_" ++ name) with
  | none | some "" => none
  | some value => some value

def settingsOf (words : Words) (p : Parameter) : List Setting :=
  (words.settings.filter fun s => s.1 == p).map (·.2)

def textValue (words : Words) (env : Environment) (p : Parameter) : Option String :=
  match (settingsOf words p).getLast? with
  | some (.text value) => some value
  | _ => environmentValue? env p

def truthValue (words : Words) (env : Environment) (p : Parameter) (otherwise : Bool) :
    Except UsageError Bool :=
  match (settingsOf words p).getLast? with
  | some (.switch on) => .ok on
  | _ =>
    match environmentValue? env p with
    | none => .ok otherwise
    | some text =>
      match readTruth? text with
      | some on => .ok on
      | none => .error (.badValue p.hint (truthReason text))

def countValue (words : Words) (env : Environment) (p : Parameter) : Except UsageError Nat :=
  match settingsOf words p with
  | _ :: more => .ok (more.length + 1)
  | [] =>
    match environmentValue? env p with
    | none => .ok 0
    | some text => (readCount text).mapError fun reason => .badValue p.hint reason

def selfDescription (words : Words) (env : Environment) : Except UsageError (Option String) :=
  let asked := words.settings.findSome? fun s =>
    match s.1 with
    | .version => some versionText
    | .help => some helpText
    | _ => none
  match asked with
  | some text => .ok (some text)
  | none => do
    if ← truthValue words env .version false then return some versionText
    else return none

def directoryProblem? (text : String) : Script (Option String) := do
  let isPlainName := !text.endsWith "/" && !text.endsWith "/."
  let status ← if text = "" || FileTree.longestPath < text.utf8ByteSize then
      pure (.error .notFound)
    else Script.ask (.status (.ofString text)) pure
  match status with
  | .ok .directory => return none
  | .ok kind =>
    if isPlainName then
      if kind = .file then return some ("Directory " ++ Text.quote text ++ " is a file.")
      else return none
    else return some ("Directory " ++ Text.quote text ++ " does not exist.")
  | .error .nullCharacter => Script.fault (.files .nullCharacter)
  | .error _ => return some ("Directory " ++ Text.quote text ++ " does not exist.")

def readSettings (words : Words) (env : Environment) (order : Release.Order) :
    Except UsageError Invocation := do
  let fromRef := textValue words env .fromRef
  let toRef := textValue words env .toRef
  let update ← truthValue words env .update false
  let tag ← truthValue words env .tag false
  let write ← truthValue words env .write false
  let errorOnDirty ← truthValue words env .errorOnDirty true
  let errorOnUnreachable ← truthValue words env .errorOnUnreachable true
  let allTags ← truthValue words env .allTags false
  let checker := (textValue words env .checker).getD "tsc"
  let silent ← truthValue words env .silent false
  let verbose ← countValue words env .verbose
  let settings : Settings :=
    { errorOnDirty, errorOnUnreachable, checker
      tagPolicy := if allTags then .all else .reachable
      fromRef := Settings.named? fromRef
      toRef := Settings.named? toRef }
  let verbosity : Verbosity :=
    if silent then .nothing
    else if 2 ≤ verbose then .everything
    else if verbose = 1 then .progress
    else .warnings
  let order := { order with settings, silent, update := update || write, tag := tag || write }
  return ⟨order, verbosity⟩

inductive Meaning where
  | answer (report : Release.Report)
  | describe (text : String)
  | refuse (cause : UsageError)
  | invoke (invocation : Invocation)

def invocationLevels : Nat := 8

def orderFor (directory : String) (expected : Option String) : Release.Order :=
  { directory := .ofString directory, expected
    depth := Manifest.depthLimit - 1 - invocationLevels }

def checkOperands (words : Words) : Script (Except UsageError Release.Order) := do
  let directory := words.operands.head?.getD "."
  let expected := (words.operands.drop 1).head?
  match ← directoryProblem? directory with
  | some reason => return .error (.badValue "'[DIRECTORY]'" reason)
  | none =>
    match expected with
    | none => return .ok (orderFor directory none)
    | some text =>
      match Version.parse? text with
      | none =>
        return .error (.badValue "'[SEMVER]'" ("'" ++ text ++ "' is not a valid SemVer string."))
      | some _ => return .ok (orderFor directory text)

def interpretWords (args : List String) (env : Environment) : Script Meaning := do
  match readWords args with
  | .error cause => return .refuse cause
  | .ok words =>
    match selfDescription words env with
    | .error cause => return .refuse cause
    | .ok (some text) => return .describe text
    | .ok none =>
      match ← checkOperands words with
      | .error cause => return .refuse cause
      | .ok order =>
        match readSettings words env order with
        | .error cause => return .refuse cause
        | .ok invocation =>
          match words.operands.drop 2 with
          | [] => return .invoke invocation
          | operands => return .refuse (.unexpected operands)

def interpret (args : List String) (env : Environment) : Script Meaning :=
  match Completion.answer? env with
  | .error cause => Script.fault cause
  | .ok (some report) => return .answer report
  | .ok none => interpretWords args env

def abortedReport : Release.Report := { exit := 1, err := "\nAborted!\n" }

def Meaning.run : Meaning → Run Release.Report
  | answer report => return report
  | describe text => return { exit := 0, out := text }
  | refuse cause => return { exit := 1, err := Release.errorLine cause.message }
  | invoke invocation => do
    match ← (Release.run invocation.order).attempt with
    | .ok report => return report
    | .error .interrupted => return abortedReport
    | .error cause => Run.halt cause

def Meaning.verbosity : Meaning → Verbosity
  | invoke invocation => invocation.verbosity
  | _ => .warnings

end NextRelease.CommandLine
