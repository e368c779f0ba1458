import NextRelease.Shell.Octets
import NextRelease.Shell.Permission
import NextRelease.Shell.Tool.Basic

/-!
Names of files: whether they could be such, here or on all systems, and new ones.
-/

namespace NextRelease.Shell.Tool

namespace PathCheck

def isPortable (c : Char) : Bool := c.isAlphanum || "._-/".toList.contains c

def components (path : Octets) : List Octets := (Text.splitOn '/' path).filter (!·.isEmpty)

def tooLong (most size : Nat) (subject text : Octets) : Octets :=
  "limit ".toList ++ natText most ++ " exceeded by length ".toList ++ natText size ++
    " of file name ".toList ++ subject ++ text

def mistake? (m : Machine) (isBasic isStrict : Bool) (path : Octets) : Option Octets :=
  let hyphen := isStrict && (components path).any fun name => name.head? == some '-'
  let stranger := (Wide.ofOctets path).find? fun c => !isPortable c
  let status := m.entry path |>.map fun place => (m.files.get? place).isSome
  let isThere := !isBasic && status.toOption == some true
  let most := if isBasic then 255 else 4095
  let longest := if isBasic then 14 else 255
  if hyphen then some ("leading '-' in a component of file name ".toList ++ shellQuoted path)
  else if (isBasic || isStrict) && path.isEmpty then some "empty file name".toList
  else
    match isBasic, stranger, status with
    | true, some c, _ =>
      some ("nonportable character ".toList ++ inQuotes (Wide.toOctets [c]) ++
        " in file name ".toList ++ shellQuoted path)
    | false, _, .error fault =>
      if fault = .notFound && !path.isEmpty then none else some (about path fault)
    | _, _, _ =>
      if isThere then none
      else if most < path.length then some (tooLong most path.length [] (shellQuoted path))
      else
        ((components path).find? fun name => longest < name.length).map fun name =>
          tooLong longest name.length "component ".toList (inQuotes name)

end PathCheck

def pathchk : Tool :=
  withOptions true [⟨'p', "", false⟩, ⟨'P', "", false⟩, ⟨'a', "portability", false⟩] 1
    fun name options operands => do
      if operands.isEmpty then misuse 1 name "missing operand".toList
      operands.forM fun path => do
        match PathCheck.mistake? (← get) (options.has 'p' || options.has 'a')
            (options.has 'P' || options.has 'a') path with
        | some text => fail 1 name text
        | none => pure ()

/-! ## New names

Files and directories of new names, which are made from templates.
-/

namespace Template

def letters : Octets :=
  "abcdefghijklmnopqrstuvwxyzABCDEFGHIJKLMNOPQRSTUVWXYZ0123456789".toList

def fill (count seed : Nat) : Octets :=
  (randomNumbers count seed).map fun n => letters[n % letters.length]?.getD 'x'

def parts (template : Octets) : Octets × Nat × Octets :=
  let behind := (template.reverse.takeWhile (· != 'X')).reverse
  let rest := template.take (template.length - behind.length)
  let count := (rest.reverse.takeWhile (· == 'X')).length
  (rest.take (rest.length - count), count, behind)

def freePath (m : Machine) (front behind : Octets) (count : Nat) : (fuel : Nat) → (seed : Nat) →
    Octets
  | 0, seed => front ++ fill count seed ++ behind
  | fuel + 1, seed =>
    let path := front ++ fill count seed ++ behind
    match m.entry path with
    | .ok place =>
      if (m.files.get? place).isSome then freePath m front behind count fuel (seed + 7919) else path
    | .error _ => path

def flags : List Flag :=
  [⟨'d', "directory", false⟩, ⟨'q', "quiet", false⟩, ⟨'u', "dry-run", false⟩,
    ⟨'s', "suffix", true⟩, ⟨'p', "", true⟩, ⟨'T', "tmpdir", .maybe⟩, ⟨'t', "", false⟩]

/-- The template as a path, or why there is none; options say what stands around it. -/
def readTemplate (m : Machine) (options : Options) (template : Option Octets) :
    Except Octets (Octets × Octets) := do
  let given := template.getD "tmp.XXXXXXXXXX".toList
  let suffix := options.value? 's'
  if suffix.isSome && given.getLast? != some 'X' then
    throw ("with --suffix, template ".toList ++ inQuotes given ++ " must end in X".toList)
  let text := given ++ suffix.getD []
  let (front, count, behind) := if suffix.isSome then
      let (front, count, _) := parts given
      (front, count, suffix.getD [])
    else parts given
  if behind.contains '/' then
    throw ("invalid suffix ".toList ++ inQuotes behind ++ ", contains directory separator".toList)
  if count < 3 then throw ("too few X's in template ".toList ++ inQuotes given)
  let ambient := ((m.value? "TMPDIR".toList).filter (!·.isEmpty))
  let asked := (options.filter fun option => "pT".toList.contains option.1).getLast?.map (·.2)
  let asked := asked.filter (!·.isEmpty)
  let inDirectory (directory : Octets) : Octets × Octets :=
    (joined directory text, joined directory front)
  let usual := "/tmp".toList
  if options.has 't' then
    if given.contains '/' then
      throw ("invalid template, ".toList ++ inQuotes given ++
        ", contains directory separator".toList)
    return inDirectory (ambient.getD (asked.getD usual))
  if options.has 'p' || options.has 'T' || template.isNone then
    if given.head? == some '/' then
      throw ("invalid template, ".toList ++ inQuotes given ++
        "; with --tmpdir, it may not be absolute".toList)
    return inDirectory (asked.getD (ambient.getD usual))
  return (text, front)

end Template

def mktemp : Tool :=
  withOptions false Template.flags 1 fun name options operands => do
    let m ← get
    if let _ :: _ :: _ := operands then
      misuse 1 name "too many templates".toList
      return
    match Template.readTemplate m options operands.head? with
    | .error text => fail 1 name text
    | .ok (text, front) =>
      let behind := match options.value? 's' with
        | some suffix => suffix
        | none => (Template.parts text).2.2
      let count := text.length - front.length - behind.length
      let seed := m.nextProcess * 48271 + m.files.entries.length
      let path := Template.freePath m front behind count 64 seed
      let isDirectory := options.has 'd'
      let made ← if options.has 'u' then pure (.ok ())
        else if isDirectory then changeFiles fun m => m.files.makeDirectory (m.route path)
        else writeFile path []
      match made with
      | .error fault =>
        let kind := if isDirectory then "directory" else "file"
        if options.has 'q' then finish 1
        else
          fail 1 name (("failed to create " ++ kind ++ " via template ").toList ++ inQuotes text ++
            ": ".toList ++ faultText fault)
      | .ok () => do
        modify fun m =>
          match m.entry path with
          | .ok place =>
            if options.has 'u' then m
            else
              { m with files := m.files.setMode place (if isDirectory then 0o700 else 0o600) }
          | .error _ => m
        print (path ++ ['\n'])

end NextRelease.Shell.Tool
