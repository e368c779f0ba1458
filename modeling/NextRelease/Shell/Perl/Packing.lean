import NextRelease.Shell.Perl.Function

/-!
Packed octets: a template tells item by item how values stand in a text, as numbers of some width,
as texts of some length or as digits. Packing writes values by a template, and unpacking reads them.
-/

namespace NextRelease.Shell.Perl

inductive TemplateItem where
  | one (letter : Char) (highFirst? : Option Bool) (count : Option Nat)
  | group (items : List TemplateItem) (count : Option Nat)
  | counted (length item : TemplateItem)
  | sum (bits : Nat) (item : TemplateItem)

namespace TemplateItem

def readCount (cs : Octets) : Option Nat × Octets :=
  match cs with
  | '*' :: rest => (none, rest)
  | '[' :: rest => (some (readNat (rest.takeWhile Char.isDigit)), (rest.dropWhile (· != ']')).drop 1)
  | cs =>
    let digits := cs.takeWhile Char.isDigit
    (some (if digits.isEmpty then 1 else readNat digits), cs.drop digits.length)

def followed (item : TemplateItem) (behind : Octets) (more : List TemplateItem) :
    List TemplateItem :=
  match (behind.dropWhile isSpaceChar).head?, more with
  | some '/', next :: more => .counted item next :: more
  | _, more => item :: more

def read : (fuel : Nat) → Octets → List TemplateItem
  | 0, _ | _, [] => []
  | fuel + 1, c :: cs =>
    if isSpaceChar c || c = '/' then read fuel cs
    else if c = '#' then read fuel (cs.dropWhile (· != '\n'))
    else if c = '%' then
      let digits := cs.takeWhile Char.isDigit
      match read fuel (cs.drop digits.length) with
      | item :: more => .sum (if digits.isEmpty then 16 else readNat digits) item :: more
      | [] => []
    else if c = '(' then
      match delimited '(' (cs.length + 1) 0 cs with
      | some (inner, behind) =>
        let (count, behind) := readCount behind
        followed (.group (read fuel inner) count) behind (read fuel behind)
      | none => []
    else
      let signs := cs.takeWhile fun c => c == '<' || c == '>' || c == '!'
      let order := if signs.contains '>' then some true
        else if signs.contains '<' then some false
        else none
      let (count, behind) := readCount (cs.drop signs.length)
      followed (.one c order count) behind (read fuel behind)

def ofText (text : Octets) : List TemplateItem := read (text.length + 1) text

def withCount (item : TemplateItem) (count : Option Nat) : TemplateItem :=
  match item with
  | .one letter order _ => .one letter order count
  | .group items _ => .group items count
  | item => item

end TemplateItem

/-! ## Numbers -/

structure NumberForm where
  width : Nat
  highFirst : Bool := false
  isSigned : Bool := false

def numberForm? (letter : Char) (order : Option Bool) : Option NumberForm :=
  let form (width : Nat) (isSigned : Bool) : NumberForm :=
    { width, isSigned, highFirst := order.getD false }
  match letter with
  | 'C' | 'W' | 'U' => some (form 1 false)
  | 'c' => some (form 1 true)
  | 'n' => some { width := 2, highFirst := true }
  | 'N' => some { width := 4, highFirst := true }
  | 'v' => some { width := 2 }
  | 'V' => some { width := 4 }
  | 'S' => some (form 2 false)
  | 's' => some (form 2 true)
  | 'L' | 'I' => some (form 4 false)
  | 'l' | 'i' => some (form 4 true)
  | 'Q' | 'J' => some (form 8 false)
  | 'q' | 'j' => some (form 8 true)
  | _ => none

def numberOctets : (count : Nat) → Nat → Octets
  | 0, _ => []
  | count + 1, n => Char.ofNat (n % 256) :: numberOctets count (n / 256)

def numberOfOctets (cs : Octets) : Nat := cs.foldr (fun c n => c.toNat + 256 * n) 0

def NumberForm.write (f : NumberForm) (n : Nat) : Octets :=
  let cs := numberOctets f.width n
  if f.highFirst then cs.reverse else cs

def NumberForm.read (f : NumberForm) (cs : Octets) : Int :=
  let n := numberOfOctets (if f.highFirst then cs.reverse else cs)
  if f.isSigned then Int.bmod n (Nat.pow 256 f.width) else n

def septets : (fuel : Nat) → (isLast : Bool) → Nat → Octets
  | 0, _, _ => []
  | fuel + 1, isLast, n =>
    let low := Char.ofNat (n % 128 + if isLast then 0 else 128)
    (if n < 128 then [] else septets fuel false (n / 128)) ++ [low]

def realForm? : Char → Option (Nat × (Float → Nat) × (Nat → Float))
  | 'f' => some (4, fun x => x.toFloat32.toBits.toNat,
      fun n => (Float32.ofBits (UInt32.ofNat n)).toFloat)
  | 'd' | 'F' => some (8, fun x => x.toBits.toNat, fun n => Float.ofBits (UInt64.ofNat n))
  | _ => none

/-! ## Digits -/

def octetsOfDigits (bits : Nat) (highFirst : Bool) : (fuel : Nat) → Octets → Octets
  | 0, _ | _, [] => []
  | fuel + 1, cs =>
    let size := 8 / bits
    let digits := (cs.take size).map fun c => ((Sum.digitOf? 16 c).getD 0) % Nat.pow 2 bits
    let digits := digits ++ List.replicate (size - digits.length) 0
    let digits := if highFirst then digits else digits.reverse
    Char.ofNat (digits.foldl (fun n digit => n * Nat.pow 2 bits + digit) 0) ::
      octetsOfDigits bits highFirst fuel (cs.drop size)

def digitsOfOctet (bits : Nat) (highFirst : Bool) (c : Char) : Octets :=
  let digits := (List.range (8 / bits)).map fun i =>
    Nat.digitChar (c.toNat / Nat.pow 2 (bits * i) % Nat.pow 2 bits)
  if highFirst then digits.reverse else digits

def digitForm? : Char → Option (Nat × Bool)
  | 'H' => some (4, true)
  | 'h' => some (4, false)
  | 'B' => some (1, true)
  | 'b' => some (1, false)
  | _ => none

/-! ## Packing -/

def paddedText (letter : Char) (count : Option Nat) (text : Octets) : Octets :=
  let filler := if letter = 'A' then ' ' else '\x00'
  match count with
  | none => if letter = 'Z' then text ++ ['\x00'] else text
  | some n =>
    let text := text.take (if letter = 'Z' then n - 1 else n)
    text ++ List.replicate (n - text.length) filler

def packedNumber (letter : Char) (order : Option Bool) (v : Scalar) : Octets :=
  if letter = 'U' || letter = 'W' then characterOctets v.toQuantity.toWord
  else if letter = 'w' then septets 70 true v.toQuantity.toWord
  else
    match numberForm? letter order, realForm? letter with
    | some form, _ => form.write v.toQuantity.toWord
    | none, some (width, bits, _) =>
      ({ width, highFirst := order.getD false } : NumberForm).write (bits v.toQuantity.toFloat)
    | none, none => []

/-- Puts values together as octets behind those that are there; the answer is all of them and the
values that are left. -/
def packItems : (fuel : Nat) → (start : Nat) → List TemplateItem → Octets → List Scalar →
    Octets × List Scalar
  | 0, _, _, out, vs => (out, vs)
  | _, _, [], out, vs => (out, vs)
  | fuel + 1, start, u :: us, out, vs =>
    let (out, vs) := match u with
      | .group items count => repeated fuel items (count.getD vs.length) count.isNone out vs
      | .sum _ item => packItems fuel start [item] out vs
      | .counted length item =>
        let (data, left) := match item with
          | .one letter _ count =>
            if "aAZ".toList.contains letter then
              let text := (vs.head?.getD .undefined).toText
              (paddedText letter count text, vs.drop 1)
            else packItems fuel 0 [item] [] vs
          | item => packItems fuel 0 [item] [] vs
        let count := match item with
          | .one letter _ _ =>
            if "aAZ".toList.contains letter then data.length else vs.length - left.length
          | .group _ count => count.getD vs.length
          | _ => vs.length - left.length
        let (out, _) := packItems fuel start [length] out [.ofNat count]
        (out ++ data, left)
      | .one letter order count =>
        if "aAZ".toList.contains letter then
          (out ++ paddedText letter count (vs.head?.getD .undefined).toText, vs.drop 1)
        else
          match digitForm? letter with
          | some (bits, highFirst) =>
            let text := (vs.head?.getD .undefined).toText
            let digits := text.take (count.getD text.length)
            (out ++ octetsOfDigits bits highFirst (digits.length + 1) digits, vs.drop 1)
          | none =>
            match letter with
            | 'x' => (out ++ List.replicate (count.getD 0) '\x00', vs)
            | 'X' => (out.take (out.length - count.getD 0), vs)
            | '@' =>
              let size := start + count.getD 0
              (out.take size ++ List.replicate (size - out.length) '\x00', vs)
            | letter =>
              let count := count.getD vs.length
              let mine := vs.take count ++ List.replicate (count - vs.length) .undefined
              (out ++ mine.flatMap (packedNumber letter order), vs.drop count)
    packItems fuel start us out vs
where
  repeated : (fuel : Nat) → List TemplateItem → (count : Nat) → (isOpen : Bool) → Octets →
      List Scalar → Octets × List Scalar
    | 0, _, _, _, out, vs | _, _, 0, _, out, vs => (out, vs)
    | fuel + 1, items, count + 1, isOpen, out, vs =>
      if isOpen && vs.isEmpty then (out, vs)
      else
        let (out, vs) := packItems fuel out.length items out vs
        repeated fuel items count isOpen out vs

def packingBound (template : Octets) (size : Nat) : Nat := 4 * (template.length + 1) * (size + 64)

def pack (template : Octets) (vs : List Scalar) : Octets :=
  (packItems (packingBound template vs.length) 0 (TemplateItem.ofText template) [] vs).1

/-! ## Unpacking -/

def unpackedText (letter : Char) (count : Option Nat) (cs : Octets) : Octets × Nat :=
  let part := cs.take (count.getD cs.length)
  match letter with
  | 'A' => ((part.reverse.dropWhile fun c => isSpaceChar c || c == '\x00').reverse, part.length)
  | 'Z' =>
    let text := part.takeWhile (· != '\x00')
    (text, if count.isNone then min (text.length + 1) part.length else part.length)
  | _ => (part, part.length)

def readSeptets : (count : Nat) → (done : Nat) → Octets → List Scalar × Octets
  | 0, _, cs => ([], cs)
  | _, _, [] => ([], [])
  | count + 1, done, c :: cs =>
    let n := done * 128 + c.toNat % 128
    if 128 ≤ c.toNat then readSeptets (count + 1) n cs
    else
      let (vs, rest) := readSeptets count 0 cs
      (.ofNat n :: vs, rest)

def readNumbers (width : Nat) (read : Octets → Scalar) (count : Option Nat) (cs : Octets) :
    List Scalar × Nat :=
  let count := min (count.getD (cs.length / width)) (cs.length / width)
  ((List.range count).map fun i => read ((cs.drop (width * i)).take width), width * count)

def checksum (bits : Nat) (vs : List Scalar) : Scalar :=
  let worth (v : Scalar) : Int := match v with
    | .text digits => digits.count '1'
    | v => v.toQuantity.toInt
  let total := vs.foldl (fun n v => n + worth v) 0
  .whole (total % (Nat.pow 2 bits : Nat))

/-- Takes octets apart from a place on; the answer is their values and where the rest begins. -/
def unpackItems (text : Octets) : (fuel : Nat) → (start place : Nat) → List TemplateItem →
    List Scalar × Nat
  | 0, _, place, _ => ([], place)
  | _, _, place, [] => ([], place)
  | fuel + 1, start, place, u :: us =>
    let cs := text.drop place
    let (vs, place) := match u with
      | .group items count => repeated fuel items (count.getD (cs.length + 1)) count.isNone place
      | .sum bits item =>
        let (vs, place) := unpackItems text fuel start place [item]
        ([checksum bits vs], place)
      | .counted length item =>
        let (vs, place) := unpackItems text fuel start place [length]
        let count := (vs.head?.getD .undefined).toInt.toNat
        unpackItems text fuel start place [item.withCount (some count)]
      | .one letter order count =>
        if "aAZ".toList.contains letter then
          let (part, size) := unpackedText letter count cs
          ([.text part], place + size)
        else
          match digitForm? letter with
          | some (bits, highFirst) =>
            let digits := cs.flatMap (digitsOfOctet bits highFirst)
            let mine := digits.take (count.getD digits.length)
            ([.text mine], place + (mine.length * bits + 7) / 8)
          | none =>
            match letter, numberForm? letter order, realForm? letter with
            | 'x', _, _ => ([], place + count.getD cs.length)
            | 'X', _, _ => ([], place - count.getD 0)
            | '@', _, _ => ([], start + count.getD 0)
            | 'w', _, _ =>
              let (vs, rest) := readSeptets (count.getD cs.length) 0 cs
              (vs, text.length - rest.length)
            | _, some form, _ =>
              let (vs, size) := readNumbers form.width (fun cs => .whole (form.read cs)) count cs
              (vs, place + size)
            | _, none, some (width, _, value) =>
              let form : NumberForm := { width, highFirst := order.getD false }
              let read (cs : Octets) : Scalar :=
                (Quantity.real (value (form.read cs).toNat)).settled.toScalar
              let (vs, size) := readNumbers width read count cs
              (vs, place + size)
            | _, none, none => ([], place)
    let (more, place) := unpackItems text fuel start place us
    (vs ++ more, place)
where
  repeated : (fuel : Nat) → List TemplateItem → (count : Nat) → (isOpen : Bool) → (place : Nat) →
      List Scalar × Nat
    | 0, _, _, _, place | _, _, 0, _, place => ([], place)
    | fuel + 1, items, count + 1, isOpen, place =>
      if isOpen && text.length ≤ place then ([], place)
      else
        let (vs, place) := unpackItems text fuel place place items
        let (more, place) := repeated fuel items count isOpen place
        (vs ++ more, place)

def unpack (template text : Octets) : List Scalar :=
  (unpackItems text (packingBound template text.length) 0 0 (TemplateItem.ofText template)).1

end NextRelease.Shell.Perl
