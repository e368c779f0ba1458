import NextRelease.Shell.Tool.Basic

/-!
Texts written in the letters of a small alphabet. The bits of a few octets make a group of letters,
and a group that lacks octets is filled up.
-/

namespace NextRelease.Shell.Tool

structure Alphabet where
  letters : Octets
  bits : Nat
  size : Nat
  givesParts : Bool := false

namespace Alphabet

def capitals : Octets := "ABCDEFGHIJKLMNOPQRSTUVWXYZ".toList

def digits : Octets := "0123456789".toList

def base64 : Alphabet :=
  ⟨capitals ++ capitals.map Char.toLower ++ digits ++ ['+', '/'], 6, 4, true⟩

def base64url : Alphabet := { base64 with letters := base64.letters.take 62 ++ ['-', '_'] }

def base32 : Alphabet := ⟨capitals ++ "234567".toList, 5, 8, false⟩

def base32hex : Alphabet := ⟨digits ++ capitals.take 22, 5, 8, false⟩

def base16 : Alphabet := ⟨digits ++ capitals.take 6, 4, 2, false⟩

def base2 : Alphabet := ⟨['0', '1'], 1, 8, false⟩

def octetCount (a : Alphabet) : Nat := a.size * a.bits / 8

def encodeGroup (a : Alphabet) (group : Octets) : Octets :=
  let missing := a.octetCount - group.length
  let number := group.foldl (fun n c => n * 256 + c.toNat) 0 * Nat.pow 256 missing
  let letter (i : Nat) : Char :=
    a.letters[number / Nat.pow 2 (a.bits * (a.size - 1 - i)) % Nat.pow 2 a.bits]?.getD '='
  let used := (group.length * 8 + a.bits - 1) / a.bits
  (List.range used).map letter ++ List.replicate (a.size - used) '='

def decodeGroup (a : Alphabet) (group : Octets) : Octets × Bool :=
  let front := group.takeWhile a.letters.contains
  let number := front.foldl (fun n c => n * Nat.pow 2 a.bits + a.letters.idxOf c) 0
  let count := front.length * a.bits / 8
  let whole := number / Nat.pow 2 (front.length * a.bits - count * 8)
  let octets := (List.range count).map fun i =>
    Char.ofNat (whole / Nat.pow 256 (count - 1 - i) % 256)
  /- A letter more than the octets need is no group. -/
  let isTight := (count * 8 + a.bits - 1) / a.bits == front.length && count != 0
  let isFilled := group.length == a.size && (group.drop front.length).all (· == '=')
  if isTight && isFilled then (octets, true)
  else (if group.length = a.size || a.givesParts then octets else [], false)

end Alphabet

def octetGroups (size : Nat) : (fuel : Nat) → Octets → List Octets
  | 0, _ => []
  | _, [] => []
  | fuel + 1, cs => cs.take size :: octetGroups size fuel (cs.drop size)

def wrapped (width : Nat) (text : Octets) : Octets :=
  if width = 0 then text
  else (octetGroups width (text.length + 1) text).flatMap (· ++ ['\n'])

def decodeGroups (a : Alphabet) : List Octets → List Octets × Bool
  | [] => ([], true)
  | group :: groups =>
    match a.decodeGroup group with
    | (octets, true) =>
      let (more, isWhole) := decodeGroups a groups
      (octets :: more, isWhole)
    | (octets, false) => ([octets], false)

/-- Encodes what it reads, or decodes it. -/
def codeInput (a : Alphabet) (name : Octets) (options : Options) (operands : List Octets) :
    Act Unit := do
  let value := (options.value? 'w').getD "76".toList
  match operands with
  | _ :: extra :: _ => misuse 1 name ("extra operand ".toList ++ inQuotes extra)
  | operands =>
    if !isNumber value then
      fail 1 name ("invalid wrap size: ".toList ++ inQuotes value)
      return
    let path := operands.head?.getD ['-']
    match ← content path with
    | .error (.file .isADirectory) => fail 1 name "read error: Is a directory".toList
    | .error fault => fail 1 name (quotedIfPeculiar path ++ ": ".toList ++ fault.text)
    | .ok text =>
      if options.has 'd' then
        let isKept (c : Char) : Bool :=
          c != '\n' && (!options.has 'i' || c == '=' || a.letters.contains c)
        let letters := text.filter isKept
        let (parts, isWhole) :=
          decodeGroups a (octetGroups a.size (letters.length + 1) letters)
        print parts.flatten
        if !isWhole then fail 1 name "invalid input".toList
      else
        let groups := octetGroups a.octetCount (text.length + 1) text
        print (wrapped (readNat value) (groups.flatMap a.encodeGroup))

def codeFlags : List Flag :=
  [⟨'d', "decode", false⟩, ⟨'i', "ignore-garbage", false⟩, ⟨'w', "wrap", true⟩]

def codeTool (a : Alphabet) : Tool := withOptions false codeFlags 1 (codeInput a)

def basenc : Tool :=
  let alphabets : List (Char × Alphabet) :=
    [('6', .base64), ('u', .base64url), ('3', .base32), ('h', .base32hex), ('1', .base16),
      ('2', .base2)]
  withOptions false
    (codeFlags ++ [⟨'6', "base64", false⟩, ⟨'u', "base64url", false⟩, ⟨'3', "base32", false⟩,
      ⟨'h', "base32hex", false⟩, ⟨'1', "base16", false⟩, ⟨'2', "base2msbf", false⟩]) 1
    fun name options operands =>
      match (options.last? "6u3h12").bind fun letter => alphabets.lookup letter with
      | some a => codeInput a name options operands
      | none => misuse 1 name "missing encoding type".toList

end NextRelease.Shell.Tool
