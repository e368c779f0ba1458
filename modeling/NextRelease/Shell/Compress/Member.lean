import NextRelease.Shell.Compress.Block

/-!
Reading compressed texts. The bits of an octet come from the lowest one on, those of a code one
after the other until they are the code of a symbol.
-/

namespace NextRelease.Shell.Compress

inductive Damage where
  | cutShort
  | broken
  deriving DecidableEq

structure Unpacking where
  packed : Array Char
  place : Nat := 0
  text : Array Char := #[]

abbrev Unpack := ExceptT Damage (StateM Unpacking)

namespace Unpack

def bit : Unpack Nat := do
  let s ← get
  match s.packed[s.place / 8]? with
  | none => throw .cutShort
  | some c =>
    set { s with place := s.place + 1 }
    return c.toNat / Nat.pow 2 (s.place % 8) % 2

def bits : (count : Nat) → Unpack Nat
  | 0 => return 0
  | count + 1 => do
    let low ← bit
    return low + 2 * (← bits count)

structure Key where
  counts : Array Nat
  symbols : Array Nat

def Key.ofLengths (lengths : List Nat) : Key :=
  let numbered := lengths.zip (List.range lengths.length)
  { counts := lengthCounts lengths.toArray
    symbols := ((List.range 16).drop 1).toArray.flatMap fun n =>
      ((numbered.filter fun entry => entry.1 = n).map (·.2)).toArray }

def symbolFrom (key : Key) : (fuel : Nat) → (length code first index : Nat) → Unpack Nat
  | 0, _, _, _, _ => throw .broken
  | fuel + 1, length, code, first, index => do
    let code := code + (← bit)
    let count := key.counts.getD length 0
    if code < first + count then
      match key.symbols[index + (code - first)]? with
      | some symbol => return symbol
      | none => throw .broken
    else symbolFrom key fuel (length + 1) (2 * code) (2 * (first + count)) (index + count)

def symbol (key : Key) : Unpack Nat := symbolFrom key 15 1 0 0 0

def copy (distance : Nat) : (length : Nat) → Unpack Unit
  | 0 => return ()
  | length + 1 => do
    let s ← get
    match s.text[s.text.size - distance]? with
    | some c => do
      set { s with text := s.text.push c }
      copy distance length
    | none => throw .broken

def parts (symbols distances : Key) : (fuel : Nat) → Unpack Unit
  | 0 => throw .broken
  | fuel + 1 => do
    let n ← symbol symbols
    if n < 256 then
      modify fun s => { s with text := s.text.push (Char.ofNat n) }
      parts symbols distances fuel
    else if n = endSymbol then return ()
    else
      let l := n - 257
      match lengthStarts[l]? with
      | none => throw .broken
      | some start => do
        let length := start + (← bits (extraOfSymbol n))
        let d ← symbol distances
        match distanceStarts[d]? with
        | none => throw .broken
        | some start => do
          let distance := start + (← bits (extraOfDistance d))
          if (← get).text.size < distance then throw .broken
          copy distance length
          parts symbols distances fuel

def align : Unpack Unit := modify fun s => { s with place := (s.place + 7) / 8 * 8 }

def octets (count : Nat) : Unpack Octets := do
  align
  let s ← get
  let start := s.place / 8
  if s.packed.size < start + count then throw .cutShort
  set { s with place := s.place + 8 * count }
  return (s.packed.extract start (start + count)).toList

def number (count : Nat) : Unpack Nat := do
  return (← octets count).foldr (fun c n => c.toNat + 256 * n) 0

def lengths (key : Key) (count : Nat) : (fuel : Nat) → (done : List Nat) → Unpack (List Nat)
  | 0, _ => throw .broken
  | fuel + 1, done => do
    if count < done.length then throw .broken
    if done.length = count then return done.reverse
    let n ← symbol key
    if n < 16 then lengths key count fuel (n :: done)
    else
      let again (length times : Nat) : Unpack (List Nat) :=
        lengths key count fuel (List.replicate times length ++ done)
      if n = 16 then
        match done with
        | [] => throw .broken
        | last :: _ => again last (3 + (← bits 2))
      else if n = 17 then again 0 (3 + (← bits 3))
      else again 0 (11 + (← bits 7))

/-- Unpacks a block; the answer is whether it was the last one. -/
def block (fuel : Nat) : Unpack Bool := do
  let isLast ← bit
  match ← bits 2 with
  | 0 => do
    let size ← number 2
    if size + (← number 2) != 65535 then throw .broken
    let text ← octets size
    modify fun s => { s with text := s.text ++ text.toArray }
  | 1 => parts (.ofLengths fixedLengths.toList) (.ofLengths (List.replicate 30 5)) fuel
  | 2 => do
    let count := 257 + (← bits 5)
    let distanceCount := 1 + (← bits 5)
    let given := 4 + (← bits 4)
    let raw ← (lengthOrder.take given).mapM fun n => do return (n, ← bits 3)
    let own := (List.range 19).map fun n => (raw.lookup n).getD 0
    let all ← lengths (.ofLengths own) (count + distanceCount) 400 []
    parts (.ofLengths (all.take count)) (.ofLengths (all.drop count)) fuel
  | _ => throw .broken
  return isLast = 1

def blocks : (fuel : Nat) → Unpack Unit
  | 0 => throw .broken
  | fuel + 1 => do
    if ← block (8 * (← get).packed.size + 1) then return ()
    else blocks fuel

end Unpack

/-! ## Members

Compressed files: a head that tells when a file was changed and what it was called, its compressed
text, and what the text sums up to.
-/

/-! ## Sums -/

def remainders : Array UInt32 :=
  (Array.range 256).map fun n =>
    (List.range 8).foldl
      (fun (r : UInt32) _ => if r &&& 1 = 0 then r >>> 1 else (r >>> 1) ^^^ 0xedb88320)
      (UInt32.ofNat n)

def checkSum (text : Octets) : Nat :=
  let add (sum : UInt32) (c : Char) : UInt32 :=
    (sum >>> 8) ^^^ remainders.getD (sum.toUInt8 ^^^ UInt8.ofNat c.toNat).toNat 0
  (~~~(text.foldl add 0xffffffff)).toNat

def numberOctets : (count : Nat) → Nat → Octets
  | 0, _ => []
  | count + 1, n => Char.ofNat (n % 256) :: numberOctets count (n / 256)

/-! ## Members -/

structure Head where
  name : Option Octets := none
  time : Nat := 0
  level : Nat := 6

def mark : Octets := ['\x1f', '\x8b']

def Head.text (h : Head) : Octets :=
  let speed : Char := if h.level = 1 then '\x04' else if h.level = 9 then '\x02' else '\x00'
  mark ++ ['\x08', if h.name.isSome then '\x08' else '\x00'] ++ numberOctets 4 h.time ++
    [speed, '\x03'] ++ match h.name with
      | some name => name ++ ['\x00']
      | none => []

def packed (h : Head) (text : Octets) : Octets :=
  h.text ++ deflated h.level text ++ numberOctets 4 (checkSum text) ++ numberOctets 4 text.length

inductive Trouble where
  | unmarked
  | cutShort
  | broken
  | wrongSum
  | wrongLength

def Damage.trouble : Damage → Trouble
  | cutShort => .cutShort
  | broken => .broken

structure Member where
  name : Option Octets := none
  time : Nat := 0
  text : Octets
  headSize : Nat
  packedSize : Nat
  sum : Nat

def readName : (fuel : Nat) → Unpack Octets
  | 0 => throw .cutShort
  | fuel + 1 => do
    match ← Unpack.octets 1 with
    | [c] => if c = '\x00' then return [] else return c :: (← readName fuel)
    | _ => throw .cutShort

def readHead (room : Nat) : Unpack Head := do
  let _ ← Unpack.number 1
  let flags ← Unpack.number 1
  let time ← Unpack.number 4
  let _ ← Unpack.octets 2
  let has (bit : Nat) : Bool := flags / Nat.pow 2 bit % 2 = 1
  if has 2 then
    let size ← Unpack.number 2
    let _ ← Unpack.octets size
  let name ← if has 3 then some <$> readName room else pure none
  if has 4 then
    let _ ← readName room
  if has 1 then
    let _ ← Unpack.octets 2
  return { name, time }

/-- Reads a compressed file from some octets; what has been unpacked of it comes with its troubles,
and what follows it is the rest. -/
def readMember (file : Octets) : Except (List Trouble × Octets) (Member × Octets) :=
  if file.length < 2 then .error ([.cutShort], [])
  else if !mark.isPrefixOf file then .error ([.unmarked], [])
  else
    let room := file.length + 1
    let start : Unpacking := { packed := (file.drop 2).toArray }
    match (readHead room).run.run start with
    | (.error damage, _) => .error ([damage.trouble], [])
    | (.ok head, opened) =>
      match (Unpack.blocks (8 * room)).run.run opened with
      | (.error damage, unpacked) => .error ([damage.trouble], unpacked.text.toList)
      | (.ok _, unpacked) =>
        let text := unpacked.text.toList
        let sums : Unpack (Nat × Nat) := do return (← Unpack.number 4, ← Unpack.number 4)
        match sums.run.run unpacked with
        | (.error damage, _) => .error ([damage.trouble], text)
        | (.ok (sum, length), ended) =>
          let troubles := (if sum = checkSum text then [] else [Trouble.wrongSum]) ++
            (if length = text.length % 4294967296 then [] else [Trouble.wrongLength])
          if !troubles.isEmpty then .error (troubles, text)
          else
            let headSize := 2 + opened.place / 8
            let size := 2 + (ended.place + 7) / 8
            let member : Member :=
              { head with text, headSize, packedSize := size - headSize - 8, sum }
            .ok (member, file.drop size)

end NextRelease.Shell.Compress
