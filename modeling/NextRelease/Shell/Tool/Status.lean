import NextRelease.Shell.Permission
import NextRelease.Shell.Tool.Date

/-!
What can be said of a file without reading it: its kind, its permissions, its size, and how often it
is named.
-/

namespace NextRelease.Shell.Tool

structure Status where
  node : FileNode
  mode : Nat
  links : Nat
  size : Nat
  times : FileTimes

namespace Status

def letter (s : Status) : Char :=
  match s.node with
  | .file _ => '-'
  | .directory => 'd'
  | .link _ => 'l'
  | .device .pipe => 'p'
  | .device _ => 'c'

def kindBits (s : Status) : Nat :=
  match s.node with
  | .file _ => 0o100000
  | .directory => 0o40000
  | .link _ => 0o120000
  | .device .pipe => 0o10000
  | .device _ => 0o20000

def kindName (s : Status) : String :=
  match s.node with
  | .file bytes => if bytes.isEmpty then "regular empty file" else "regular file"
  | .directory => "directory"
  | .link _ => "symbolic link"
  | .device .pipe => "fifo"
  | .device _ => "character special file"

def letters (s : Status) : Octets := s.letter :: Permission.letters s.mode

def blocks (s : Status) : Nat :=
  match s.node with
  | .file _ | .directory => (s.size + 4095) / 4096 * 8
  | .link _ | .device _ => 0

def target? (s : Status) : Option Octets :=
  match s.node with
  | .link target => some (octets target)
  | _ => none

def deviceNumber (s : Status) : Nat × Nat :=
  match s.node with
  | .device .null => (1, 3)
  | .device .zero => (1, 5)
  | .device .full => (1, 7)
  | .device .random => (1, 9)
  | .device .pipe => (0, 0)
  | _ => (0, 0)

end Status

def statusAt? (m : Machine) (place : Place) : Option Status :=
  let node := if place.isEmpty then some FileNode.directory else m.files.get? place
  node.map fun node =>
    let inner := (m.files.below place).filter fun entry =>
      entry.1.length == 1 && match entry.2 with
        | .directory => true
        | _ => false
    { node
      mode := if place.isEmpty then 0o755 else m.files.mode place
      links := match node with
        | .directory => 2 + inner.length
        | _ => (m.files.namesAt place).length
      size := match node with
        | .file bytes => bytes.size
        | .directory => 4096
        | .link target => target.utf8ByteSize
        | .device _ => 0
      times := m.files.timesAt place }

def statusOf (m : Machine) (follows : Bool) (path : Octets) : Except FileFault Status := do
  let place ← if follows || path.getLast? == some '/' then
      if path.isEmpty then .error .notFound else m.files.locate (m.route path)
    else m.entry path
  match statusAt? m place with
  | none => .error .notFound
  | some s =>
    if path.getLast? == some '/' && s.letter != 'd' then .error .notADirectory else .ok s

/-! ## Formats -/

def fullTime (m : Machine) (time : Int) : Octets :=
  ((momentOf time).inZone (zoneOf m)).text "%Y-%m-%d %H:%M:%S.%N %z".toList

def timeOf (m : Machine) (s : Status) (letter : Char) : Int :=
  match letter.toLower with
  | 'x' => s.times.read
  | 'y' => s.times.changed
  | _ => m.files.now

/-- What a letter of a format says of a file, written as the directive says. -/
def statusPart (m : Machine) (path : Octets) (s : Status) (d : Directive) : Octets :=
  let text (text : Octets) : Octets :=
    d.pad (match d.precision with
      | some n => text.take n
      | none => text)
  let flags := d.flags.filter fun c => c != '+' && c != ' '
  let number (n : Nat) : Octets := { d with flags, conversion := 'd' }.whole (Int.ofNat n)
  let based (c : Char) (n : Nat) : Octets := { d with conversion := c }.unsigned n
  match d.conversion with
  | 'n' => text path
  | 'N' =>
    text (shellQuoted path ++ match s.target? with
      | some target => " -> ".toList ++ shellQuoted target
      | none => [])
  | 'F' => text s.kindName.toList
  | 'A' => text s.letters
  | 'a' => based 'o' s.mode
  | 's' => number s.size
  | 'b' => number s.blocks
  | 'B' => number 512
  | 'o' => number 4096
  | 'h' => number s.links
  | 'u' | 'g' => number 0
  | 'U' | 'G' => text "root".toList
  | 'f' => based 'x' (s.kindBits + s.mode)
  | 't' => based 'x' s.deviceNumber.1
  | 'T' => based 'x' s.deviceNumber.2
  | 'd' => number 65024
  | 'D' => based 'x' 65024
  | 'i' =>
    let place := (m.entry path).toOption.getD []
    let first := (m.files.namesAt place).getLast?.getD place
    number (100000 + (m.files.entries.findIdx fun entry => entry.1 == first))
  | 'm' => text ['/']
  | 'w' | 'x' | 'y' | 'z' => text (fullTime m (timeOf m s d.conversion))
  | 'W' | 'X' | 'Y' | 'Z' =>
    let time := timeOf m s d.conversion
    match d.precision with
    | none => { d with flags, conversion := 'd' }.whole (time / 1000000000)
    | some n =>
      let digits := natText (time % 1000000000).toNat
      let fraction := List.replicate (9 - digits.length) '0' ++ digits
      { d with precision := none }.pad ((toString (time / 1000000000)).toList ++
        if n = 0 then [] else
          '.' :: fraction.take n ++ List.replicate (n - fraction.length) '0')
  | _ => ['?']

def statusText (m : Machine) (path : Octets) (s : Status) (escapes : Bool) :
    (fuel : Nat) → Octets → Octets
  | 0, cs => cs
  | _, [] => []
  | _, ['%'] => ['%']
  | fuel + 1, '%' :: cs =>
    let flags := cs.takeWhile "-+ #0'".toList.contains
    let rest := cs.drop flags.length
    let width := rest.takeWhile Char.isDigit
    let rest := rest.drop width.length
    let (precision, rest) := match rest with
      | '.' :: more =>
        let digits := more.takeWhile Char.isDigit
        let isTime := (more.drop digits.length).head?.any "WXYZ".toList.contains
        (some (if digits.isEmpty && isTime then 9 else readNat digits), more.drop digits.length)
      | rest => (none, rest)
    match rest with
    | [] => '?' :: []
    | '%' :: more => '%' :: statusText m path s escapes fuel more
    | c :: more =>
      statusPart m path s { flags, width := readNat width, precision, conversion := c } ++
        statusText m path s escapes fuel more
  | fuel + 1, '\\' :: cs =>
    match if escapes then takeEscape? cs else none with
    | some (c, more) => c :: statusText m path s escapes fuel more
    | none => '\\' :: statusText m path s escapes fuel cs
  | fuel + 1, c :: cs => c :: statusText m path s escapes fuel cs

def usualStatusFormat (s : Status) : String :=
  "  File: %n" ++ (if s.target?.isSome then " -> " ++ textOf (s.target?.getD []) else "") ++
    "\n  Size: %-10s\tBlocks: %-10b IO Block: %-6o %F\n" ++
    "Device: 254,0\tInode: %-10i  Links: %h\n" ++
    "Access: (%04a/%A)  Uid: (%5u/%8U)   Gid: (%5g/%8G)\n" ++
    "Access: %x\nModify: %y\nChange: %z\n Birth: %w\n"

def stat : Tool :=
  withOptions false
    [⟨'L', "dereference", false⟩, ⟨'f', "file-system", false⟩, ⟨'c', "format", true⟩,
      ⟨'p', "printf", true⟩, ⟨'t', "terse", false⟩] 1 fun name options operands => do
    if operands.isEmpty then misuse 1 name "missing operand".toList
    else
      operands.forM fun path => do
        let m ← get
        match statusOf m (options.has 'L') path with
        | .error fault =>
          fail 1 name ("cannot statx ".toList ++ shellQuoted path ++ ": ".toList ++
            faultText fault)
        | .ok s =>
          let (format, escapes, ending) : Octets × Bool × Octets :=
            match (options.filter fun option => "cp".toList.contains option.1).getLast? with
            | some ('p', format) => (format, true, [])
            | some (_, format) => (format, false, ['\n'])
            | none =>
              if options.has 't' then
                ("%n %s %b %f %u %g %D %i %h %t %T %X %Y %Z %W %o\n".toList, false, [])
              else ((usualStatusFormat s).toList, false, [])
          print (statusText m path s escapes (format.length + 1) format ++ ending)

end NextRelease.Shell.Tool
