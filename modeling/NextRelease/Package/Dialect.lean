import NextRelease.Run.Script

/-!
Package managers: which one a directory uses, told by its lock file, and the commands of each.
-/

namespace NextRelease

inductive Dialect where
  | npm
  | pnpm
  | yarn
  deriving DecidableEq

structure DialectCommands where
  rename : List String
  install : List String
  installProduction : List String
  build : List String
  pack : List String
  packFilename : Option String
  deriving DecidableEq

namespace Dialect

def all : List Dialect := [npm, pnpm, yarn]

def name : Dialect → String
  | npm => "npm"
  | pnpm => "pnpm"
  | yarn => "yarn"

def ofName? (name : String) : Option Dialect := all.find? (·.name == name)

def unknownMessage (name : String) : String := Text.quote name ++ " is not a valid Dialect"

def lockFiles : List (String × Dialect) :=
  [("pnpm-lock.yaml", pnpm), ("yarn.lock", yarn), ("package-lock.json", npm),
    ("npm-shrinkwrap.json", npm)]

def commands : Dialect → DialectCommands
  | npm => ⟨["npm", "pkg", "set"], ["npm", "install"], ["npm", "install", "--omit=dev"],
      ["npm", "run", "build"], ["npm", "pack"], none⟩
  | pnpm => ⟨["pnpm", "pkg", "set"], ["pnpm", "install"], ["pnpm", "install", "--prod"],
      ["pnpm", "run", "build"], ["pnpm", "pack"], none⟩
  | yarn => ⟨["npm", "pkg", "set"], ["yarn", "install"], ["yarn", "install", "--production"],
      ["yarn", "run", "build"], ["yarn", "pack", "--filename", "package.tgz"],
      some "package.tgz"⟩

def detectAmong (directory : Path) : List (String × Dialect) → Script Dialect
  | [] => return npm
  | (marker, dialect) :: markers => do
    if ← Script.isFile (directory.child marker) then return dialect
    else detectAmong directory markers

def detect (directory : Path) : Script Dialect := detectAmong directory lockFiles

end Dialect

end NextRelease
