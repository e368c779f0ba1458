import NextRelease.Shell.Octets
import Std.Data.HashMap

/-!
Compressed texts: codes, references back, and blocks of bits. No code begins with another one of the
same kind. The lengths follow from how often symbols are used: the two rarest ones are joined again
and again, and a code is as long as its symbol was joined often; the codes themselves follow from the
lengths.
-/

namespace NextRelease.Shell.Compress

/-! ## Codes of given lengths -/

def lengthCounts (lengths : Array Nat) : Array Nat :=
  lengths.foldl (fun counts n => if n = 0 then counts else counts.modify n (· + 1))
    (Array.replicate 16 0)

def firstCodes (counts : Array Nat) : Array Nat :=
  ((List.range 16).foldl
    (fun ((code, firsts) : Nat × Array Nat) n =>
      let code := (code + (if n = 0 then 0 else counts.getD (n - 1) 0)) * 2
      (code, firsts.push code))
    (0, #[])).2

def reversedBits : (count : Nat) → Nat → Nat
  | 0, _ => 0
  | count + 1, n => n % 2 * Nat.pow 2 count + reversedBits count (n / 2)

def codesOf (lengths : Array Nat) : Array Nat :=
  let firsts := firstCodes (lengthCounts lengths)
  (lengths.foldl
    (fun ((next, codes) : Array Nat × Array Nat) n =>
      if n = 0 then (next, codes.push 0)
      else (next.modify n (· + 1), codes.push (reversedBits n (next.getD n 0))))
    (firsts, #[])).2

/-! ## Lengths for frequencies -/

structure Joining where
  uses : Array Nat
  heights : Array Nat
  heap : Array Nat
  joined : List Nat := []
  parents : Array Nat

namespace Joining

def isBefore (j : Joining) (m n : Nat) : Bool :=
  let a := j.uses.getD m 0
  let b := j.uses.getD n 0
  a < b || (a = b && j.heights.getD m 0 ≤ j.heights.getD n 0)

def sink (j : Joining) (node : Nat) : (fuel : Nat) → (place : Nat) → Array Nat → Array Nat
  | 0, _, heap => heap
  | fuel + 1, place, heap =>
    let size := heap.size
    let child := 2 * place
    if size < child then heap.setIfInBounds (place - 1) node
    else
      let left := heap.getD (child - 1) 0
      let right := heap.getD child 0
      let (child, lower) :=
        if child < size && j.isBefore right left then (child + 1, right) else (child, left)
      if j.isBefore node lower then heap.setIfInBounds (place - 1) node
      else sink j node fuel child (heap.setIfInBounds (place - 1) lower)

def ordered (j : Joining) : Joining :=
  let half := j.heap.size / 2
  let heap := (List.range half).foldl
    (fun heap i =>
      let place := half - i
      j.sink (heap.getD (place - 1) 0) (heap.size + 1) place heap)
    j.heap
  { j with heap }

/-- Joins the two rarest nodes until one is left. -/
def joinAll : (fuel : Nat) → Joining → Joining
  | 0, j => j
  | fuel + 1, j =>
    if j.heap.size < 2 then j
    else
      let first := j.heap.getD 0 0
      let last := j.heap.back?.getD 0
      let heap := j.sink last (j.heap.size + 1) 1 j.heap.pop
      let second := heap.getD 0 0
      let node := j.uses.size
      let j := { j with
        uses := j.uses.push (j.uses.getD first 0 + j.uses.getD second 0)
        heights := j.heights.push
          (max (j.heights.getD first 0) (j.heights.getD second 0) + 1)
        joined := second :: first :: j.joined
        parents := ((j.parents.setIfInBounds first node).setIfInBounds second node).push 0 }
      joinAll fuel { j with heap := j.sink node (heap.size + 1) 1 heap }

end Joining

def shortened (longest : Nat) : (fuel : Nat) → (excess : Nat) → Array Nat → Array Nat
  | 0, _, counts => counts
  | fuel + 1, excess, counts =>
    if excess = 0 then counts
    else
      let bits := ((List.range longest).filter fun n => n != 0 && counts.getD n 0 != 0).foldl max 0
      let counts := ((counts.modify bits (· - 1)).modify (bits + 1) (· + 2)).modify longest (· - 1)
      shortened longest fuel (excess - 2) counts

/-- How long the codes of symbols are that are used so often; at least two symbols get one. -/
def codeLengths (longest : Nat) (uses : Array Nat) : Array Nat :=
  let size := uses.size
  let used := (List.range size).filter fun n => uses.getD n 0 != 0
  let greatest := (used.getLast?).getD 0
  let forced := match used with
    | [] => [0, 1]
    | [n] => if n < 2 then [n + 1] else [0]
    | _ => []
  let uses := forced.foldl (fun uses n => uses.setIfInBounds n 1) uses
  let greatest := forced.foldl max greatest
  let j : Joining :=
    { uses, heights := Array.replicate size 0, heap := (used ++ forced).toArray
      parents := Array.replicate size 0 }
  let j := j.ordered.joinAll size
  let root := j.uses.size - 1
  /- From the root down; a node is never joined before what it was joined from. -/
  let (lengths, counts, excess) := j.joined.foldl
    (fun ((lengths, counts, excess) : Array Nat × Array Nat × Nat) n =>
      let bits := lengths.getD (j.parents.getD n 0) 0 + 1
      let isLong := longest < bits
      let bits := min bits longest
      (lengths.setIfInBounds n bits, if n < size then counts.modify bits (· + 1) else counts,
        if isLong then excess + 1 else excess))
    ((Array.replicate (root + 1) 0).setIfInBounds root 0, Array.replicate 17 0, 0)
  let lengths :=
    if excess = 0 then lengths
    else
      let counts := shortened longest (excess + 1) excess counts
      let leaves := j.joined.reverse.filter (· ≤ greatest)
      let bits := (List.range longest).reverse.flatMap fun n =>
        List.replicate (counts.getD (n + 1) 0) (n + 1)
      (leaves.zip bits).foldl (fun lengths (n, bits) => lengths.setIfInBounds n bits) lengths
  lengths.extract 0 size

/-! ## Repeats

Texts as octets and references to what has come before. A place may refer to one of the earlier
places where the same three octets stand; the first place of all is never referred to.
-/

inductive Part where
  | octet (c : Char)
  | again (distance length : Nat)
  deriving Inhabited

structure Effort where
  good : Nat
  lazy : Nat
  nice : Nat
  chain : Nat
  waits : Bool

def efforts : Array Effort :=
  #[⟨4, 4, 8, 4, false⟩, ⟨4, 5, 16, 8, false⟩, ⟨4, 6, 32, 32, false⟩, ⟨4, 4, 16, 16, true⟩,
    ⟨8, 16, 32, 32, true⟩, ⟨8, 16, 128, 128, true⟩, ⟨8, 32, 128, 256, true⟩,
    ⟨32, 128, 258, 1024, true⟩, ⟨32, 258, 258, 4096, true⟩]

def effortOf (level : Nat) : Effort := efforts.getD (level - 1) ⟨8, 16, 128, 128, true⟩

def shortest : Nat := 3

def longest : Nat := 258

def farthest : Nat := 32506

def tooFar : Nat := 4096

structure Places where
  last : Std.HashMap Nat Nat := {}
  before : Array Nat := #[]

def keyAt (text : Array Char) (place : Nat) : Nat :=
  let octet (i : Nat) : Nat := (text.getD i '\x00').toNat
  (octet place * 256 + octet (place + 1)) * 256 + octet (place + 2)

def Places.note (p : Places) (text : Array Char) : Places × Nat :=
  let place := p.before.size
  if text.size < place + 3 then ({ p with before := p.before.push 0 }, 0)
  else
    let key := keyAt text place
    let old := p.last.getD key 0
    (⟨p.last.insert key place, p.before.push old⟩, old)

def Places.noteAll (text : Array Char) : (count : Nat) → Places → Places
  | 0, p => p
  | count + 1, p => noteAll text count (p.note text).1

def sameLength (text : Array Char) (a b : Nat) : (most : Nat) → Nat
  | 0 => 0
  | most + 1 =>
    if text.getD a '\x00' == text.getD b '\x00' then sameLength text (a + 1) (b + 1) most + 1 else 0

def longestAt (text : Array Char) (before : Array Nat) (nice place least : Nat) :
    (chain : Nat) → (candidate best start : Nat) → Nat × Nat
  | 0, _, best, start => (best, start)
  | chain + 1, candidate, best, start =>
    let room := min longest (text.size - place)
    let size := sameLength text candidate place room
    let (best, start) := if best < size then (size, candidate) else (best, start)
    let next := before.getD candidate 0
    if nice ≤ size && best = size || next ≤ least then (best, start)
    else longestAt text before nice place least chain next best start

def repeatAt (e : Effort) (text : Array Char) (before : Array Nat) (place candidate last : Nat) :
    Nat × Nat :=
  let chain := if e.good ≤ last then e.chain / 4 else e.chain
  longestAt text before e.nice place (place - farthest) chain candidate last 0

/-- The parts of a text where repeats are taken as they come. -/
def partsAtOnce (e : Effort) (text : Array Char) : (fuel : Nat) → Places → (place : Nat) →
    List Part → List Part
  | 0, _, _, done => done
  | fuel + 1, p, place, done =>
    if text.size ≤ place then done
    else
      let (p, candidate) := p.note text
      let (size, start) :=
        if candidate != 0 && place - candidate ≤ farthest then
          repeatAt e text p.before place candidate (shortest - 1)
        else (0, 0)
      if shortest ≤ size then
        /- The places inside of a long repeat are passed without being noted. -/
        let p := if size ≤ e.lazy then p.noteAll text (size - 1)
          else { p with before := p.before ++ Array.replicate (size - 1) 0 }
        partsAtOnce e text fuel p (place + size) (.again (place - start) size :: done)
      else partsAtOnce e text fuel p (place + 1) (.octet (text.getD place '\x00') :: done)

/-- The parts of a text where a repeat waits for a longer one at the next place; `last` is the
repeat that waits, and `waits` says that an octet does. -/
def partsInTurn (e : Effort) (text : Array Char) : (fuel : Nat) → Places → (place : Nat) →
    (last : Nat × Nat) → (waits : Bool) → List Part → List Part
  | 0, _, _, _, _, done => done
  | fuel + 1, p, place, (lastSize, lastStart), waits, done =>
    if text.size ≤ place then
      if waits then .octet (text.getD (place - 1) '\x00') :: done else done
    else
      let (p, candidate) := p.note text
      let (size, start) :=
        if candidate != 0 && lastSize < e.lazy && place - candidate ≤ farthest then
          let (size, start) := repeatAt e text p.before place candidate lastSize
          if size = shortest && tooFar < place - start then (size - 1, start) else (size, start)
        else (shortest - 1, 0)
      if shortest ≤ lastSize && size ≤ lastSize then
        let p := p.noteAll text (lastSize - 2)
        partsInTurn e text fuel p (place + lastSize - 1) (shortest - 1, 0) false
          (.again (place - 1 - lastStart) lastSize :: done)
      else
        let done := if waits then .octet (text.getD (place - 1) '\x00') :: done else done
        partsInTurn e text fuel p (place + 1) (size, start) true done

def partsOf (e : Effort) (text : Array Char) : List Part :=
  let fuel := text.size + 1
  (if e.waits then partsInTurn e text fuel {} 0 (shortest - 1, 0) false []
    else partsAtOnce e text fuel {} 0 []).reverse

/-! ## Blocks

Compressed texts as blocks of bits. A block holds octets as they are, or the codes of its parts,
which are fixed ones or ones made for the block; whatever is shortest is taken.
-/

/-! ## Bits -/

structure Bits where
  octets : List Char := []
  value : Nat := 0
  count : Nat := 0

namespace Bits

def settle : (fuel : Nat) → Bits → Bits
  | 0, b => b
  | fuel + 1, b =>
    if b.count < 8 then b
    else settle fuel ⟨Char.ofNat (b.value % 256) :: b.octets, b.value / 256, b.count - 8⟩

def put (b : Bits) (value count : Nat) : Bits :=
  settle 8 { b with value := b.value + value * Nat.pow 2 b.count, count := b.count + count }

def fill (b : Bits) : Bits := if b.count = 0 then b else b.put 0 (8 - b.count)

end Bits

/-! ## Symbols -/

structure Book where
  lengths : Array Nat
  codes : Array Nat

def Book.ofLengths (lengths : Array Nat) : Book := ⟨lengths, codesOf lengths⟩

def Book.put (book : Book) (b : Bits) (symbol : Nat) : Bits :=
  b.put (book.codes.getD symbol 0) (book.lengths.getD symbol 0)

def startsOf (first : Nat) (extra : List Nat) : Array Nat :=
  (extra.foldl (fun ((next, starts) : Nat × Array Nat) bits =>
    (next + Nat.pow 2 bits, starts.push next)) (first, #[])).2

def lengthExtra : List Nat :=
  [0, 0, 0, 0, 0, 0, 0, 0, 1, 1, 1, 1, 2, 2, 2, 2, 3, 3, 3, 3, 4, 4, 4, 4, 5, 5, 5, 5, 0]

def lengthStarts : Array Nat := (startsOf 3 (lengthExtra.take 28)).push 258

def distanceExtra : List Nat :=
  [0, 0, 0, 0, 1, 1, 2, 2, 3, 3, 4, 4, 5, 5, 6, 6, 7, 7, 8, 8, 9, 9, 10, 10, 11, 11, 12, 12, 13, 13]

def distanceStarts : Array Nat := startsOf 1 distanceExtra

def symbolOf (starts : Array Nat) (value : Nat) : Nat :=
  ((List.range starts.size).filter fun i => starts.getD i 0 ≤ value).length - 1

def lengthSymbols : Array Nat := (Array.range 259).map (symbolOf lengthStarts)

def distanceSymbol (distance : Nat) : Nat :=
  if distance < 5 then distance - 1
  else
    let high := (distance - 1).log2
    2 * high + (distance - 1) / Nat.pow 2 (high - 1) % 2

def lengthSymbol (length : Nat) : Nat := lengthSymbols.getD length 0

def endSymbol : Nat := 256

def fixedLengths : Array Nat :=
  (Array.range 288).map fun n =>
    if n < 144 then 8 else if n < 256 then 9 else if n < 280 then 7 else 8

def fixedBook : Book := .ofLengths fixedLengths

def fixedDistances : Book := .ofLengths (Array.replicate 30 5)

def usesOf (parts : List Part) : Array Nat × Array Nat :=
  parts.foldl
    (fun ((symbols, distances) : Array Nat × Array Nat) part =>
      match part with
      | .octet c => (symbols.modify c.toNat (· + 1), distances)
      | .again distance length =>
        (symbols.modify (257 + lengthSymbol length) (· + 1),
          distances.modify (distanceSymbol distance) (· + 1)))
    ((Array.replicate 286 0).setIfInBounds endSymbol 1, Array.replicate 30 0)

def bitsFor (uses lengths : Array Nat) (extra : Nat → Nat) : Nat :=
  (List.range uses.size).foldl
    (fun n i => n + uses.getD i 0 * (lengths.getD i 0 + extra i)) 0

def extraOfSymbol (symbol : Nat) : Nat :=
  if symbol ≤ endSymbol then 0 else lengthExtra.toArray.getD (symbol - 257) 0

def extraOfDistance (symbol : Nat) : Nat := distanceExtra.toArray.getD symbol 0

/-! ## Lengths of codes as symbols -/

def lengthOrder : List Nat := [16, 17, 18, 0, 8, 7, 9, 6, 10, 5, 11, 4, 12, 3, 13, 2, 14, 1, 15]

def runExtra (symbol : Nat) : Nat :=
  if symbol = 16 then 2 else if symbol = 17 then 3 else if symbol = 18 then 7 else 0

def runSymbols (length count : Nat) (isNew : Bool) : List (Nat × Nat) :=
  let least := if length != 0 && isNew then 4 else 3
  if count < least then List.replicate count (length, 0)
  else if length != 0 then (if isNew then [(length, 0)] else []) ++
    [(16, count - 3 - (if isNew then 1 else 0))]
  else if count ≤ 10 then [(17, count - 3)]
  else [(18, count - 11)]

def lengthRuns : (previous current count : Nat) → (isFirst : Bool) → List Nat → List (Nat × Nat)
  | previous, current, count, isFirst, [] =>
    if count = 0 then [] else runSymbols current count (isFirst || previous != current)
  | previous, current, count, isFirst, n :: rest =>
    let isNew := isFirst || previous != current
    let most := if current = 0 then 138 else if isNew then 7 else 6
    if count = 0 then lengthRuns previous n 1 isFirst rest
    else if n = current && count < most then lengthRuns previous current (count + 1) isFirst rest
    else runSymbols current count isNew ++ lengthRuns current n 1 false rest

def usedLengths (least : Nat) (lengths : Array Nat) : List Nat :=
  let used := (lengths.toList.reverse.dropWhile (· == 0)).reverse
  used ++ List.replicate (least - used.length) 0

/-! ## Blocks -/

/-- Writes the parts of a block with codes. -/
def putParts (symbols distances : Book) (parts : List Part) (b : Bits) : Bits :=
  let b := parts.foldl
    (fun b part =>
      match part with
      | .octet c => symbols.put b c.toNat
      | .again distance length =>
        let l := lengthSymbol length
        let b := (symbols.put b (257 + l)).put (length - lengthStarts.getD l 0)
          (extraOfSymbol (257 + l))
        let d := distanceSymbol distance
        (distances.put b d).put (distance - distanceStarts.getD d 0) (extraOfDistance d))
    b
  symbols.put b endSymbol

def putStored (text : Octets) (b : Bits) : Bits :=
  let b := b.fill
  let b := (b.put text.length 16).put (65535 - text.length) 16
  { b with octets := text.reverse ++ b.octets }

def putBlock (isLast : Bool) (text : Octets) (parts : List Part) (b : Bits) : Bits :=
  let (uses, distanceUses) := usesOf parts
  let own := Book.ofLengths (codeLengths 15 uses)
  let ownDistances := Book.ofLengths (codeLengths 15 distanceUses)
  let lengths := usedLengths 257 own.lengths
  let distanceLengths := usedLengths 1 ownDistances.lengths
  let runs := lengthRuns 0 0 0 true lengths ++ lengthRuns 0 0 0 true distanceLengths
  let runUses := runs.foldl (fun uses run => uses.modify run.1 (· + 1)) (Array.replicate 19 0)
  let runBook := Book.ofLengths (codeLengths 7 runUses)
  let order := (lengthOrder.reverse.dropWhile fun n => runBook.lengths.getD n 0 = 0).reverse
  let order := lengthOrder.take (max 4 order.length)
  let ownBits := bitsFor uses own.lengths extraOfSymbol +
    bitsFor distanceUses ownDistances.lengths extraOfDistance +
    bitsFor runUses runBook.lengths runExtra + 3 * order.length + 14
  let fixedBits := bitsFor uses fixedLengths extraOfSymbol +
    bitsFor distanceUses fixedDistances.lengths extraOfDistance
  let ownSize := (ownBits + 10) / 8
  let fixedSize := (fixedBits + 10) / 8
  let last := if isLast then 1 else 0
  if text.length + 4 ≤ min ownSize fixedSize && text.length < 65536 then
    putStored text (b.put last 3)
  else if fixedSize ≤ ownSize then
    putParts fixedBook fixedDistances parts (b.put (last + 2) 3)
  else
    let b := b.put (last + 4) 3
    let b := ((b.put (lengths.length - 257) 5).put (distanceLengths.length - 1) 5).put
      (order.length - 4) 4
    let b := order.foldl (fun b n => b.put (runBook.lengths.getD n 0) 3) b
    let b := runs.foldl (fun b run => (runBook.put b run.1).put run.2 (runExtra run.1)) b
    putParts own ownDistances parts b

def Part.size : Part → Nat
  | octet _ => 1
  | again _ length => length

def endsBlock (weighs : Bool) (parts references bits octets : Nat) : Bool :=
  let isWorth := weighs && parts % 4096 = 0 && references < parts / 2 && bits / 8 < octets / 2
  isWorth || parts = 32767 || references = 32768

def inBlocks (weighs : Bool) : (parts references bits octets : Nat) → List Part → List Part →
    List (List Part × Nat)
  | _, _, _, octets, done, [] => [(done.reverse, octets)]
  | parts, references, bits, octets, done, part :: rest =>
    let parts := parts + 1
    let (references, more) := match part with
      | .octet _ => (references, 8)
      | .again distance _ => (references + 1, 13 + extraOfDistance (distanceSymbol distance))
    let octets' := octets + part.size
    /- A part is found at the place behind it. -/
    if endsBlock weighs parts references (bits + more) (octets + 1) then
      (((part :: done).reverse), octets') :: inBlocks weighs 0 0 0 0 [] rest
    else inBlocks weighs parts references (bits + more) octets' (part :: done) rest

def putBlocks : List (List Part × Nat) → Octets → Bits → Bits
  | [], _, b => b
  | (parts, size) :: rest, text, b =>
    putBlocks rest (text.drop size) (putBlock rest.isEmpty (text.take size) parts b)

def deflated (level : Nat) (text : Octets) : Octets :=
  let parts := partsOf (effortOf level) text.toArray
  ((putBlocks (inBlocks (2 < level) 0 0 0 0 [] parts) text {}).fill).octets.reverse

end NextRelease.Shell.Compress
