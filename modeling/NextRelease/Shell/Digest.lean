import NextRelease.Shell.Octets

/-!
Digests of texts. A text is padded to whole blocks, and each block changes a state of a few words;
the digest is what the last state is written as. Sums and redundancy checks go octet by octet.
-/

namespace NextRelease.Shell.Digest

/-! ## Blocks -/

def octetsOf : (count : Nat) → Nat → List UInt8
  | 0, _ => []
  | count + 1, n => UInt8.ofNat (n % 256) :: octetsOf count (n / 256)

def padded (blockSize lengthSize : Nat) (highFirst : Bool) (bytes : ByteArray) : ByteArray :=
  let filled := (bytes.size + 1 + lengthSize) % blockSize
  let zeros := if filled = 0 then 0 else blockSize - filled
  let length := octetsOf lengthSize (8 * bytes.size)
  let length := if highFirst then length.reverse else length
  let back := (0x80 : UInt8) :: (List.replicate zeros 0 ++ length)
  bytes ++ ⟨back.toArray⟩

def byteAt (bytes : ByteArray) (i : Nat) : UInt8 := (bytes.data[i]?).getD 0

def wordAt (w : Nat) (highFirst : Bool) (bytes : ByteArray) (start : Nat) : BitVec w :=
  let size := w / 8
  BitVec.ofNat w ((List.range size).foldl
    (fun n k =>
      n * 256 + (byteAt bytes (start + if highFirst then k else size - 1 - k)).toNat)
    0)

def blockAt (w : Nat) (highFirst : Bool) (bytes : ByteArray) (start : Nat) : List (BitVec w) :=
  (List.range 16).map fun i => wordAt w highFirst bytes (start + i * (w / 8))

def overBlocks {State : Type} (w : Nat) (highFirst : Bool) (bytes : ByteArray)
    (step : State → List (BitVec w) → State) (start : State) : State :=
  (List.range (bytes.size / (2 * w))).foldl
    (fun state i => step state (blockAt w highFirst bytes (i * (2 * w)))) start

def writtenWords {w : Nat} (highFirst : Bool) (words : List (BitVec w)) : Octets :=
  words.flatMap fun word =>
    let bytes := octetsOf (w / 8) word.toNat
    (if highFirst then bytes.reverse else bytes).map fun b => Char.ofNat b.toNat

/-! ## Fractions of roots -/

def primes (count : Nat) : List Nat :=
  ((List.range 420).filter fun n =>
    2 ≤ n && (List.range n).all fun d => d < 2 || n % d != 0).take count

def rootBelow (power n : Nat) : Nat :=
  (List.range 80).foldr
    (fun bit root =>
      let next := root + Nat.pow 2 bit
      if Nat.pow next power ≤ n then next else root)
    0

def rootBits (w power n : Nat) : BitVec w :=
  BitVec.ofNat w (rootBelow power (n * Nat.pow 2 (w * power)))

def squareRootBits (w skipped : Nat) : List (BitVec w) :=
  ((primes 16).drop skipped |>.take 8).map (rootBits w 2)

/-! ## Message digests -/

def sineBits : Array (BitVec 32) :=
  #[0xd76aa478, 0xe8c7b756, 0x242070db, 0xc1bdceee, 0xf57c0faf, 0x4787c62a, 0xa8304613, 0xfd469501,
    0x698098d8, 0x8b44f7af, 0xffff5bb1, 0x895cd7be, 0x6b901122, 0xfd987193, 0xa679438e, 0x49b40821,
    0xf61e2562, 0xc040b340, 0x265e5a51, 0xe9b6c7aa, 0xd62f105d, 0x02441453, 0xd8a1e681, 0xe7d3fbc8,
    0x21e1cde6, 0xc33707d6, 0xf4d50d87, 0x455a14ed, 0xa9e3e905, 0xfcefa3f8, 0x676f02d9, 0x8d2a4c8a,
    0xfffa3942, 0x8771f681, 0x6d9d6122, 0xfde5380c, 0xa4beea44, 0x4bdecfa9, 0xf6bb4b60, 0xbebfbc70,
    0x289b7ec6, 0xeaa127fa, 0xd4ef3085, 0x04881d05, 0xd9d4d039, 0xe6db99e5, 0x1fa27cf8, 0xc4ac5665,
    0xf4292244, 0x432aff97, 0xab9423a7, 0xfc93a039, 0x655b59c3, 0x8f0ccc92, 0xffeff47d, 0x85845dd1,
    0x6fa87e4f, 0xfe2ce6e0, 0xa3014314, 0x4e0811a1, 0xf7537e82, 0xbd3af235, 0x2ad7d2bb, 0xeb86d391]

structure Quad where
  a : BitVec 32
  b : BitVec 32
  c : BitVec 32
  d : BitVec 32

namespace Quad

def mix (q : Quad) (round : Nat) : BitVec 32 × Nat × Nat :=
  let turn (amounts : List Nat) : Nat := amounts[round % 4]?.getD 0
  match round / 16 with
  | 0 => ((q.b &&& q.c) ||| (~~~q.b &&& q.d), round, turn [7, 12, 17, 22])
  | 1 => ((q.d &&& q.b) ||| (~~~q.d &&& q.c), 5 * round + 1, turn [5, 9, 14, 20])
  | 2 => (q.b ^^^ q.c ^^^ q.d, 3 * round + 5, turn [4, 11, 16, 23])
  | _ => (q.c ^^^ (q.b ||| ~~~q.d), 7 * round, turn [6, 10, 15, 21])

def step (block : Array (BitVec 32)) (q : Quad) (round : Nat) : Quad :=
  let (mixed, index, turn) := q.mix round
  let sum := mixed + q.a + sineBits.getD round 0 + block.getD (index % 16) 0
  ⟨q.d, q.b + sum.rotateLeft turn, q.b, q.c⟩

def overBlock (q : Quad) (block : List (BitVec 32)) : Quad :=
  let words := block.toArray
  let last := (List.range 64).foldl (step words) q
  ⟨q.a + last.a, q.b + last.b, q.c + last.c, q.d + last.d⟩

end Quad

def md5 (text : Octets) : Octets :=
  let q := overBlocks 32 false (padded 64 8 false (toBytes text)) Quad.overBlock
    ⟨0x67452301, 0xefcdab89, 0x98badcfe, 0x10325476⟩
  writtenWords false [q.a, q.b, q.c, q.d]

/-! ## Secure hashes -/

def schedule {w : Nat} (count : Nat) (next : List (BitVec w) → BitVec w)
    (block : List (BitVec w)) : List (BitVec w) :=
  ((List.range (count - 16)).foldl (fun words _ => next words :: words) block.reverse).reverse

def before {w : Nat} (words : List (BitVec w)) (places : Nat) : BitVec w :=
  words[places - 1]?.getD 0

def addWords {w : Nat} (xs ys : List (BitVec w)) : List (BitVec w) := List.zipWith (· + ·) xs ys

namespace Sha1

def round (state : List (BitVec 32)) (word : BitVec 32 × Nat) : List (BitVec 32) :=
  match state with
  | [a, b, c, d, e] =>
    let (mixed, constant) : BitVec 32 × BitVec 32 := match word.2 / 20 with
      | 0 => ((b &&& c) ||| (~~~b &&& d), 0x5a827999)
      | 1 => (b ^^^ c ^^^ d, 0x6ed9eba1)
      | 2 => ((b &&& c) ||| (b &&& d) ||| (c &&& d), 0x8f1bbcdc)
      | _ => (b ^^^ c ^^^ d, 0xca62c1d6)
    [a.rotateLeft 5 + mixed + e + constant + word.1, a, b.rotateLeft 30, c, d]
  | state => state

def overBlock (state block : List (BitVec 32)) : List (BitVec 32) :=
  let next (words : List (BitVec 32)) : BitVec 32 :=
    (before words 3 ^^^ before words 8 ^^^ before words 14 ^^^ before words 16).rotateLeft 1
  addWords state ((schedule 80 next block).zipIdx.foldl round state)

end Sha1

def sha1 (text : Octets) : Octets :=
  writtenWords true (overBlocks 32 true (padded 64 8 true (toBytes text)) Sha1.overBlock
    [0x67452301, 0xefcdab89, 0x98badcfe, 0x10325476, 0xc3d2e1f0])

structure Turns where
  first : Nat
  second : Nat
  third : Nat

def Turns.rotated {w : Nat} (t : Turns) (x : BitVec w) : BitVec w :=
  x.rotateRight t.first ^^^ x.rotateRight t.second ^^^ x.rotateRight t.third

def Turns.shifted {w : Nat} (t : Turns) (x : BitVec w) : BitVec w :=
  x.rotateRight t.first ^^^ x.rotateRight t.second ^^^ x >>> t.third

/-- What tells the members of the second family of secure hashes apart. -/
structure Sha2 (w : Nat) where
  constants : List (BitVec w)
  state : List (BitVec w)
  early : Turns
  late : Turns
  upper : Turns
  lower : Turns
  size : Nat

namespace Sha2

variable {w : Nat}

def round (s : Sha2 w) (state : List (BitVec w)) (word : BitVec w × BitVec w) : List (BitVec w) :=
  match state with
  | [a, b, c, d, e, f, g, h] =>
    let choice := (e &&& f) ^^^ (~~~e &&& g)
    let majority := (a &&& b) ^^^ (a &&& c) ^^^ (b &&& c)
    let first := h + s.lower.rotated e + choice + word.2 + word.1
    let second := s.upper.rotated a + majority
    [first + second, a, b, c, d + first, e, f, g]
  | state => state

def overBlock (s : Sha2 w) (state block : List (BitVec w)) : List (BitVec w) :=
  let next (words : List (BitVec w)) : BitVec w :=
    s.late.shifted (before words 2) + before words 7 + s.early.shifted (before words 15) +
      before words 16
  let words := schedule s.constants.length next block
  addWords state ((words.zip s.constants).foldl s.round state)

def digest (s : Sha2 w) (text : Octets) : Octets :=
  let bytes := padded (2 * w) (w / 4) true (toBytes text)
  (writtenWords true (overBlocks w true bytes s.overBlock s.state)).take s.size

end Sha2

def short (state : List (BitVec 32)) (size : Nat) : Sha2 32 :=
  { constants := (primes 64).map (rootBits 32 3), state, size
    early := ⟨7, 18, 3⟩, late := ⟨17, 19, 10⟩, upper := ⟨2, 13, 22⟩, lower := ⟨6, 11, 25⟩ }

def long (state : List (BitVec 64)) (size : Nat) : Sha2 64 :=
  { constants := (primes 80).map (rootBits 64 3), state, size
    early := ⟨1, 8, 7⟩, late := ⟨19, 61, 6⟩, upper := ⟨28, 34, 39⟩, lower := ⟨14, 18, 41⟩ }

def sha224 : Octets → Octets :=
  (short ((squareRootBits 64 8).map fun word => word.setWidth 32) 28).digest

def sha256 : Octets → Octets := (short (squareRootBits 32 0) 32).digest

def sha384 : Octets → Octets := (long (squareRootBits 64 8) 48).digest

def sha512 : Octets → Octets := (long (squareRootBits 64 0) 64).digest

/-! ## Mixing columns and diagonals -/

namespace Blake2

/-- The order in which a round takes the words of a block. -/
def orders : List (List Nat) :=
  [[0, 1, 2, 3, 4, 5, 6, 7, 8, 9, 10, 11, 12, 13, 14, 15],
    [14, 10, 4, 8, 9, 15, 13, 6, 1, 12, 0, 2, 11, 7, 5, 3],
    [11, 8, 12, 0, 5, 2, 15, 13, 10, 14, 3, 6, 7, 1, 9, 4],
    [7, 9, 3, 1, 13, 12, 11, 14, 2, 6, 5, 10, 4, 0, 15, 8],
    [9, 0, 5, 7, 2, 4, 10, 15, 14, 1, 11, 12, 6, 8, 3, 13],
    [2, 12, 6, 10, 0, 11, 8, 3, 4, 13, 7, 5, 15, 14, 1, 9],
    [12, 5, 1, 15, 14, 13, 4, 10, 0, 7, 6, 3, 9, 2, 8, 11],
    [13, 11, 7, 14, 12, 1, 3, 9, 5, 0, 15, 4, 8, 6, 2, 10],
    [6, 15, 14, 9, 11, 3, 0, 8, 12, 2, 13, 7, 1, 4, 10, 5],
    [10, 2, 8, 4, 7, 6, 1, 5, 15, 11, 9, 14, 3, 12, 13, 0]]

def lanes : List (Nat × Nat × Nat × Nat) :=
  [(0, 4, 8, 12), (1, 5, 9, 13), (2, 6, 10, 14), (3, 7, 11, 15),
    (0, 5, 10, 15), (1, 6, 11, 12), (2, 7, 8, 13), (3, 4, 9, 14)]

def mixLane (v : Array (BitVec 64)) (lane : Nat × Nat × Nat × Nat) (x y : BitVec 64) :
    Array (BitVec 64) :=
  let (i, j, k, l) := lane
  let (a, b, c, d) := (v.getD i 0, v.getD j 0, v.getD k 0, v.getD l 0)
  let a := a + b + x
  let d := (d ^^^ a).rotateRight 32
  let c := c + d
  let b := (b ^^^ c).rotateRight 24
  let a := a + b + y
  let d := (d ^^^ a).rotateRight 16
  let c := c + d
  let b := (b ^^^ c).rotateRight 63
  (((v.setIfInBounds i a).setIfInBounds j b).setIfInBounds k c).setIfInBounds l d

def mixRound (block : Array (BitVec 64)) (v : Array (BitVec 64)) (round : Nat) :
    Array (BitVec 64) :=
  let order := orders[round % 10]?.getD []
  lanes.zipIdx.foldl
    (fun v lane =>
      let word (n : Nat) : BitVec 64 := block.getD (order[n]?.getD 0) 0
      mixLane v lane.1 (word (2 * lane.2)) (word (2 * lane.2 + 1)))
    v

/-- Changes a state by a block; `total` is the number of octets up to its end. -/
def overBlock (total : Nat) (isLast : Bool) (state block : List (BitVec 64)) : List (BitVec 64) :=
  let counted (words : List (BitVec 64)) : List (BitVec 64) :=
    words.zipIdx.map fun word => match word.2 with
      | 4 => word.1 ^^^ BitVec.ofNat 64 total
      | 6 => if isLast then ~~~word.1 else word.1
      | _ => word.1
  let start := (state ++ counted (squareRootBits 64 0)).toArray
  let v := ((List.range 12).foldl (mixRound block.toArray) start).toList
  List.zipWith (· ^^^ ·) state (List.zipWith (· ^^^ ·) v (v.drop 8))

def digest (size : Nat) (text : Octets) : Octets :=
  let bytes := toBytes text
  let blocks := max 1 ((bytes.size + 127) / 128)
  let start := (squareRootBits 64 0).zipIdx.map fun word =>
    if word.2 = 0 then word.1 ^^^ BitVec.ofNat 64 (0x01010000 + size) else word.1
  let state := (List.range blocks).foldl
    (fun state i =>
      let isLast := i + 1 = blocks
      overBlock (if isLast then bytes.size else (i + 1) * 128) isLast state
        (blockAt 64 false bytes (i * 128)))
    start
  (writtenWords false state).take size

end Blake2

/-! ## Sums -/

def remainders : Array UInt32 :=
  (List.range 256).toArray.map fun n =>
    (List.range 8).foldl
      (fun (r : UInt32) _ => if r &&& 0x80000000 = 0 then r <<< 1 else (r <<< 1) ^^^ 0x04c11db7)
      (UInt32.ofNat n <<< 24)

def redundancy (text : Octets) : Nat :=
  let size := text.length
  let length := (octetsOf 8 size).take
    (((List.range 8).filter fun k => size / Nat.pow 256 k != 0).length)
  let add (crc : UInt32) (octet : UInt8) : UInt32 :=
    (crc <<< 8) ^^^ remainders.getD ((crc >>> 24).toUInt8 ^^^ octet).toNat 0
  let crc := text.foldl (fun crc c => add crc (UInt8.ofNat c.toNat)) 0
  (~~~(length.foldl add crc)).toNat

def rotatedSum (text : Octets) : Nat :=
  text.foldl (fun sum c => (sum / 2 + sum % 2 * 0x8000 + c.toNat) % 0x10000) 0

def foldedSum (text : Octets) : Nat :=
  let sum := (text.foldl (fun sum c => sum + c.toNat) 0) % 0x100000000
  let r := sum % 0x10000 + sum / 0x10000
  r % 0x10000 + r / 0x10000

/-! ## As digits -/

def hexDigits (octets : Octets) : Octets :=
  octets.flatMap fun c =>
    let digits := Nat.toDigits 16 c.toNat
    List.replicate (2 - digits.length) '0' ++ digits

end NextRelease.Shell.Digest
