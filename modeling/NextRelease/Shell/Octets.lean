/-!
Octets, the characters of shell scripts and of what programs print.
-/

namespace NextRelease.Shell

abbrev Octets := List Char

instance : Hashable Octets := ⟨fun cs => cs.foldl (fun h c => mixHash h c.val.toUInt64) 7⟩

def octets (s : String) : Octets := s.toUTF8.toList.map fun b => Char.ofNat b.toNat

def toBytes (cs : Octets) : ByteArray := ⟨(cs.map fun c => UInt8.ofNat c.toNat).toArray⟩

def ofBytes (bytes : ByteArray) : Octets := bytes.toList.map fun b => Char.ofNat b.toNat

def textOf (cs : Octets) : String := (String.fromUTF8? (toBytes cs)).getD ""

def isBackquote (c : Char) : Bool := c.toNat == 96

def isGap (c : Char) : Bool := c == ' ' || c == '\t'

def isNameStart (c : Char) : Bool := c.isAlpha || c == '_'

def isNameChar (c : Char) : Bool := c.isAlphanum || c == '_'

def isName : Octets → Bool
  | [] => false
  | c :: cs => isNameStart c && cs.all isNameChar

def isNumber (cs : Octets) : Bool := !cs.isEmpty && cs.all Char.isDigit

def readNat (cs : Octets) : Nat := Nat.ofDigitChars 10 (cs.takeWhile Char.isDigit) 0

def natText (n : Nat) : Octets := (toString n).toList

def intText (n : Int) : Octets := (toString n).toList

def consLine (c : Char) (texts : List Octets) : List Octets :=
  if c = '\n' then [c] :: texts
  else
    match texts with
    | [] => [[c]]
    | line :: rest => (c :: line) :: rest

def lines (cs : Octets) : List Octets := cs.foldr consLine []

def firstLine (cs : Octets) : Octets :=
  let line := cs.takeWhile (· != '\n')
  line ++ (cs.drop line.length).take 1

def withoutBreak (line : Octets) : Octets :=
  if line.getLast? == some '\n' then line.dropLast else line

structure Written where
  pieces : List (Int × Octets) := []
  size : Nat := 0

namespace Written

def add (w : Written) (piece : Octets) (time : Int := 0) : Written :=
  ⟨(time, piece) :: w.pieces, w.size + piece.length⟩

def joinPiece (piece : Int × Octets) (pieces : List (Int × Octets)) : List (Int × Octets) :=
  match pieces with
  | (time, text) :: rest =>
    if time = piece.1 then (time, piece.2 ++ text) :: rest else piece :: pieces
  | [] => [piece]

def inOrder (w : Written) : List (Int × Octets) :=
  let pieces := w.pieces.reverse
  let isOrdered := (pieces.zip (pieces.drop 1)).all fun pair => pair.1.1 ≤ pair.2.1
  (if isOrdered then pieces else pieces.mergeSort fun a b => a.1 ≤ b.1).foldr joinPiece []

def text (w : Written) : Octets := w.inOrder.flatMap (·.2)

end Written

end NextRelease.Shell

/-! ## Characters

Texts as characters. An octet that belongs to no character becomes one that no text has, so that
every text can be put back together.
-/

namespace NextRelease.Shell.Wide

def strayBase : Nat := 0x10ff00

def isStray (c : Char) : Bool := strayBase + 128 ≤ c.toNat

def continued? (c : Char) : Option Nat :=
  if 128 ≤ c.toNat && c.toNat < 192 then some (c.toNat - 128) else none

def charOf? (least value : Nat) : Option Char :=
  if least ≤ value && value < strayBase && !(0xd800 ≤ value && value < 0xe000) then
    some (Char.ofNat value)
  else none

/-- The character at the head of a text, and how many octets it has. -/
def head? (cs : Octets) : Option (Char × Nat) := do
  match cs with
  | [] => none
  | c :: cs =>
    let lead := c.toNat
    if lead < 128 then return (c, 1)
    let bits ← (cs.take 3).mapM fun c => some (continued? c)
    match bits with
    | some a :: rest =>
      if lead < 224 then return (← charOf? 0x80 ((lead - 192) * 64 + a), 2)
      match rest with
      | some b :: rest =>
        if lead < 240 then return (← charOf? 0x800 (((lead - 224) * 64 + a) * 64 + b), 3)
        match rest with
        | some c :: _ =>
          if lead < 248 then
            return (← charOf? 0x10000 ((((lead - 240) * 64 + a) * 64 + b) * 64 + c), 4)
          none
        | _ => none
      | _ => none
    | _ => none

def behind : (skipped : Nat) → Octets → List Char
  | _, [] => []
  | skipped + 1, _ :: cs => behind skipped cs
  | 0, c :: cs =>
    match head? (c :: cs) with
    | some (d, size) => d :: behind (size - 1) cs
    | none => Char.ofNat (strayBase + c.toNat) :: behind 0 cs

def isAscii (cs : List Char) : Bool := cs.all fun c => c.toNat < 128

def ofOctets (cs : Octets) : List Char := if isAscii cs then cs else behind 0 cs

def toOctets (cs : List Char) : Octets :=
  if isAscii cs then cs
  else
    cs.flatMap fun c =>
      if isStray c then [Char.ofNat (c.toNat - strayBase)] else octets (String.singleton c)

def isSound (cs : Octets) : Bool := isAscii cs || !(behind 0 cs).any isStray

/-! ## Letters -/

def isLetter (c : Char) : Bool :=
  let n := c.toNat
  n == 0xaa || n == 0xb5 || n == 0xba || (0xc0 ≤ n && n != 0xd7 && n != 0xf7 && n < 0x2000) ||
    (0x2c00 ≤ n && n < 0x2e00) || (0x3040 ≤ n && n < 0xd800) || (0xf900 ≤ n && n < 0xfe00) ||
    (0xff21 ≤ n && n < 0xffe0 && !(0xff3b ≤ n && n ≤ 0xff40)) ||
    (0x10000 ≤ n && n < 0x1d000) || (0x20000 ≤ n && n < 0x40000)

def isPaired (n : Nat) : Bool :=
  (0x100 ≤ n && n < 0x130) || (0x14a ≤ n && n < 0x178) || (0x460 ≤ n && n < 0x482) ||
    (0x48a ≤ n && n < 0x4c0) || (0x4d0 ≤ n && n < 0x530) || (0x1e00 ≤ n && n < 0x1e96)

def isOddlyPaired (n : Nat) : Bool := (0x139 ≤ n && n < 0x149) || (0x179 ≤ n && n < 0x17f)

/-- The small letter for a character, which may be the character itself. -/
def lower (c : Char) : Char :=
  let n := c.toNat
  if n < 128 then c.toLower
  else if (0xc0 ≤ n && n ≤ 0xde && n != 0xd7) || (0x391 ≤ n && n ≤ 0x3a9 && n != 0x3a2) ||
      (0x410 ≤ n && n < 0x430) || (0xff21 ≤ n && n ≤ 0xff3a) then Char.ofNat (n + 32)
  else if 0x400 ≤ n && n < 0x410 then Char.ofNat (n + 80)
  else if (isPaired n && n % 2 == 0) || (isOddlyPaired n && n % 2 == 1) then Char.ofNat (n + 1)
  else c

/-- The large letter for a character, which may be the character itself. -/
def upper (c : Char) : Char :=
  let n := c.toNat
  if n < 128 then c.toUpper
  else if (0xe0 ≤ n && n ≤ 0xfe && n != 0xf7) || (0x3b1 ≤ n && n ≤ 0x3c9 && n != 0x3c2) ||
      (0x430 ≤ n && n < 0x450) || (0xff41 ≤ n && n ≤ 0xff5a) then Char.ofNat (n - 32)
  else if 0x450 ≤ n && n < 0x460 then Char.ofNat (n - 80)
  else if (isPaired n && n % 2 == 1) || (isOddlyPaired n && n % 2 == 0) then Char.ofNat (n - 1)
  else c

end NextRelease.Shell.Wide
