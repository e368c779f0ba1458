import NextRelease.Files.Path
import NextRelease.Text.Basic

/-!
External commands and what a finished one leaves: its exit status and the text it printed.
-/

namespace NextRelease

structure Command where
  argv : List String
  cwd : Path
  deriving DecidableEq

structure CommandResult where
  code : Int
  out : String := ""
  err : String := ""
  deriving DecidableEq

namespace CommandResult

def ok (r : CommandResult) : Bool := r.code == 0

def lastLine (r : CommandResult) : String :=
  (((Text.lines r.out).map Text.trim).filter (· != "")).getLast?.getD ""

/-- One line that explains a failure: the last one of the error output, or of the standard output
if there is no error output, or else the exit status. -/
def detail (r : CommandResult) : String :=
  let text := Text.trim (if r.err != "" then r.err else r.out)
  if text = "" then "exit status " ++ toString r.code
  else (Text.lines text).getLast?.getD ""

end CommandResult

end NextRelease
