import NextRelease.Command.Scripted
import NextRelease.Text.Basic

/-!
Scenes: descriptions, as JSON, of the files that a run finds and of the rules that answer its
commands.
-/

namespace NextRelease.Scene

def field? (value : Json) (name : String) : Option Json :=
  match value with
  | .obj fields =>
    match Fields.get? (Text.ofString name) fields with
    | some .null => none
    | found => found
  | _ => none

def string? : Json → Option String
  | .str t => t.toString?
  | _ => none

def stringField? (value : Json) (name : String) : Option String :=
  (field? value name).bind string?

def boolField (value : Json) (name : String) (otherwise : Bool) : Bool :=
  match field? value name with
  | some (.bool b) => b
  | _ => otherwise

def intField (value : Json) (name : String) (otherwise : Int) : Int :=
  match field? value name with
  | some (.int n) => n
  | _ => otherwise

def items (value : Json) (name : String) : List Json :=
  match field? value name with
  | some (.arr items) => items
  | _ => []

def strings (value : Json) (name : String) : List String := (items value name).filterMap string?

def fields (value : Json) (name : String) : List (String × Json) :=
  match field? value name with
  | some (.obj fields) => fields.filterMap fun f => (Text.toString? f.1).map fun k => (k, f.2)
  | _ => []

def hexBytes : List Char → List UInt8
  | a :: b :: cs =>
    UInt8.ofNat ((Text.hexValue? a).getD 0 * 16 + (Text.hexValue? b).getD 0) :: hexBytes cs
  | _ => []

def planned (name : String) (content : Json) : Planned :=
  if name.endsWith "/" then .directory
  else
    match content, stringField? content "hex" with
    | .str t, _ => .file ((Text.toString? t).getD "").toUTF8
    | _, some digits => .file ⟨(hexBytes digits.toList).toArray⟩
    | _, none => .file .empty

def plantAll (base : Place) (tree : FileTree) (files : List (String × Json)) : FileTree :=
  files.foldl
    (fun tree file =>
      let names := base ++ (Path.ofString file.1).names
      (tree.plant names (planned file.1 file.2)).toOption.getD tree)
    tree

def linkAll (base : Place) (tree : FileTree) (links : List (String × Json)) : FileTree :=
  links.foldl
    (fun tree link =>
      let names := base ++ (Path.ofString link.1).names
      let target := base ++ (Path.ofString ((string? link.2).getD "")).names
      let made := (tree.makeDirectories names.dropLast).toOption.getD tree
      made.insert names (.link (toString (Path.ofPlace target))))
    tree

def plant (base : Place) (tree : FileTree) (value : Json) : FileTree :=
  linkAll base (plantAll base tree (fields value "files")) (fields value "links")

def rule (expand : String → String) (value : Json) : Rule :=
  let text (name : String) : String := expand ((stringField? value name).getD "")
  let ending : Ending :=
    if boolField value "missing" false then .missing
    else if boolField value "interrupt" false then .interrupted
    else .finished ⟨intField value "code" 0, text "out", text "err"⟩
  { argv := strings value "argv"
    cwd := stringField? value "cwd"
    ending
    delete := strings value "delete"
    write := (fields value "write").map fun f => (f.1, planned f.1 f.2)
    atTarget := stringField? value "at" == some "target" }

def rules (expand : String → String) (value : Json) : List Rule :=
  (items value "rules").map (rule expand)

def stringFields (value : Json) (name : String) : List (String × String) :=
  (fields value name).filterMap fun f => (string? f.2).map fun v => (f.1, v)

end NextRelease.Scene
