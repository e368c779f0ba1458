/-!
What has to be deleted from one sequence and inserted to get another one. The shortest such script
is found from both ends at once: on each diagonal one walks as far as equal members reach, and where
the two walks meet, the task is parted. The changes are then moved to where they read best.
-/

namespace NextRelease.Shell.Difference

structure Pair where
  left : Array Nat
  right : Array Nat

def Pair.same (p : Pair) (x y : Int) : Bool :=
  0 ≤ x && 0 ≤ y &&
    match p.left[x.toNat]?, p.right[y.toNat]? with
    | some a, some b => a == b
    | _, _ => false

structure Window where
  leftStart : Int
  leftEnd : Int
  rightStart : Int
  rightEnd : Int

structure Front where
  lowest : Int
  highest : Int
  reached : Array Int
  shift : Int

namespace Front

def reach (f : Front) (d : Int) : Int := f.reached.getD (d + f.shift).toNat 0

def set (f : Front) (d x : Int) : Front :=
  { f with reached := f.reached.setIfInBounds (d + f.shift).toNat x }

def widen (f : Front) (least most outside : Int) : Front :=
  let f := if least < f.lowest then { f.set (f.lowest - 2) outside with lowest := f.lowest - 1 }
    else { f with lowest := f.lowest + 1 }
  if f.highest < most then { f.set (f.highest + 2) outside with highest := f.highest + 1 }
  else { f with highest := f.highest - 1 }

def diagonals (f : Front) : List Int :=
  if f.highest < f.lowest then []
  else
    (List.range (((f.highest - f.lowest) / 2).toNat + 1)).map fun k => f.highest - 2 * Int.ofNat k

end Front

def slideOn (p : Pair) (w : Window) : (fuel : Nat) → (x y : Int) → Int
  | 0, x, _ => x
  | fuel + 1, x, y =>
    if x < w.leftEnd && y < w.rightEnd && p.same x y then slideOn p w fuel (x + 1) (y + 1) else x

def slideBack (p : Pair) (w : Window) : (fuel : Nat) → (x y : Int) → Int
  | 0, x, _ => x
  | fuel + 1, x, y =>
    if w.leftStart < x && w.rightStart < y && p.same (x - 1) (y - 1) then
      slideBack p w fuel (x - 1) (y - 1)
    else x

def advance (p : Pair) (w : Window) (forward : Bool) (meets : Bool) (fuel : Nat) (other : Front) :
    List Int → Front → Front × Option (Int × Int)
  | [], f => (f, none)
  | d :: ds, f =>
    let (low, high) := (f.reach (d - 1), f.reach (d + 1))
    let start := if forward then (if low < high then high else low + 1)
      else if low < high then low else high - 1
    let slide := if forward then slideOn else slideBack
    let x := slide p w fuel start (start - d)
    let f := f.set d x
    let isCrossed := if forward then other.reach d ≤ x else x ≤ other.reach d
    if meets && other.lowest ≤ d && d ≤ other.highest && isCrossed then (f, some (x, x - d))
    else advance p w forward meets fuel other ds f

def meet (p : Pair) (w : Window) (odd : Bool) (size : Nat) :
    (fuel : Nat) → (front back : Front) → Int × Int
  | 0, _, _ => (w.leftStart, w.rightStart)
  | fuel + 1, front, back =>
    let least := w.leftStart - w.rightEnd
    let most := w.leftEnd - w.rightStart
    let front := front.widen least most (-1)
    match advance p w true odd size back front.diagonals front with
    | (_, some place) => place
    | (front, none) =>
      let back := back.widen least most 1000000000
      match advance p w false (!odd) size front back.diagonals back with
      | (_, some place) => place
      | (back, none) => meet p w odd size fuel front back

def part (p : Pair) (w : Window) : Int × Int :=
  let size := (w.leftEnd - w.leftStart + (w.rightEnd - w.rightStart)).toNat
  let shift := w.rightEnd - w.leftStart + 2
  let blank := Array.replicate (size + 6) (0 : Int)
  let first := w.leftStart - w.rightStart
  let last := w.leftEnd - w.rightEnd
  let front : Front := { lowest := first, highest := first, reached := blank, shift }
  let back : Front := { lowest := last, highest := last, reached := blank, shift }
  meet p w ((first - last) % 2 != 0) (size + 1) (size + 2) (front.set first w.leftStart)
    (back.set last w.leftEnd)

def between (first last : Int) : List Int :=
  (List.range (last - first).toNat).map fun k => first + Int.ofNat k

/-- The members of both sequences that have to be deleted and inserted. -/
def script (p : Pair) : (fuel : Nat) → Window → List Int × List Int
  | 0, w => (between w.leftStart w.leftEnd, between w.rightStart w.rightEnd)
  | fuel + 1, w =>
    let size := (w.leftEnd - w.leftStart + (w.rightEnd - w.rightStart)).toNat
    let x := slideOn p w (size + 1) w.leftStart w.rightStart
    let w := { w with rightStart := w.rightStart + (x - w.leftStart), leftStart := x }
    let x := slideBack p w (size + 1) w.leftEnd w.rightEnd
    let w := { w with rightEnd := w.rightEnd - (w.leftEnd - x), leftEnd := x }
    if w.leftStart = w.leftEnd then ([], between w.rightStart w.rightEnd)
    else if w.rightStart = w.rightEnd then (between w.leftStart w.leftEnd, [])
    else
      let (x, y) := part p w
      let (deleted, inserted) := script p fuel { w with leftEnd := x, rightEnd := y }
      let (deleted', inserted') := script p fuel { w with leftStart := x, rightStart := y }
      (deleted ++ deleted', inserted ++ inserted')

/-! ## Moving changes -/

abbrev Changed := Array Bool

def Changed.at (changed : Changed) (i : Int) : Bool := 0 ≤ i && changed.getD i.toNat false

def Changed.put (changed : Changed) (i : Int) (b : Bool) : Changed :=
  changed.setIfInBounds i.toNat b

def Changed.behind (changed : Changed) : (fuel : Nat) → Int → Int
  | 0, i => i
  | fuel + 1, i => if changed.at i then Changed.behind changed fuel (i + 1) else i

def Changed.front (changed : Changed) : (fuel : Nat) → Int → Int
  | 0, i => i
  | fuel + 1, i => if changed.at i then Changed.front changed fuel (i - 1) else i

structure Run where
  changed : Changed
  start : Int
  stop : Int
  place : Int
  beside : Int

variable (members : Array Nat) (other : Changed) (limit : Int) (size : Nat)

def sameMembers (i j : Int) : Bool :=
  0 ≤ i && 0 ≤ j && members[i.toNat]? == members[j.toNat]?

def Run.back : (fuel : Nat) → Run → Run
  | 0, r => r
  | fuel + 1, r =>
    if 0 < r.start && sameMembers members (r.start - 1) (r.stop - 1) then
      let changed := (r.changed.put (r.start - 1) true).put (r.stop - 1) false
      let start := Changed.front changed size (r.start - 2) + 1
      Run.back fuel
        { r with
          changed, start, stop := r.stop - 1
          place := Changed.front other size (r.place - 1) }
    else r

def Run.on : (fuel : Nat) → Run → Run
  | 0, r => r
  | fuel + 1, r =>
    if r.stop < limit && sameMembers members r.start r.stop then
      let changed := (r.changed.put r.start false).put r.stop true
      let stop := Changed.behind changed size (r.stop + 1)
      let place := Changed.behind other size (r.place + 1)
      let beside := if other.at (r.place + 1) then stop else r.beside
      Run.on fuel { changed, start := r.start + 1, stop, place, beside }
    else r

def Run.merge : (fuel : Nat) → Run → Run
  | 0, r => r
  | fuel + 1, r =>
    let length := r.stop - r.start
    let r := Run.back members other size size r
    let r := { r with beside := if other.at (r.place - 1) then r.stop else limit }
    let r := Run.on members other limit size size r
    if length = r.stop - r.start then r else Run.merge fuel r

def Run.settle : (fuel : Nat) → Run → Run
  | 0, r => r
  | fuel + 1, r =>
    if r.beside < r.stop then
      let changed := (r.changed.put (r.start - 1) true).put (r.stop - 1) false
      Run.settle fuel
        { r with changed, start := r.start - 1, stop := r.stop - 1
                 place := Changed.front other size (r.place - 1) }
    else r

def moveRuns : (fuel : Nat) → (i j : Int) → Changed → Changed
  | 0, _, _, changed => changed
  | fuel + 1, i, j, changed =>
    if limit ≤ i then changed
    else if changed.at i then
      let stop := Changed.behind changed size i
      let place := Changed.behind other size j
      let r := Run.settle other size size (Run.merge members other limit size size
        { changed, start := i, stop, place, beside := limit })
      moveRuns fuel r.stop r.place r.changed
    else moveRuns fuel (i + 1) (Changed.behind other size j + 1) changed

/-! ## Hunks -/

structure Hunk where
  left : Nat
  deleted : Nat
  right : Nat
  inserted : Nat
  deriving DecidableEq

def hunksFrom (deleted inserted : Changed) : (fuel : Nat) → (i j : Int) → List Hunk
  | 0, _, _ => []
  | fuel + 1, i, j =>
    if deleted.at i || inserted.at j then
      let i' := Changed.behind deleted (deleted.size + 1) i
      let j' := Changed.behind inserted (inserted.size + 1) j
      ⟨i.toNat, (i' - i).toNat, j.toNat, (j' - j).toNat⟩ ::
        hunksFrom deleted inserted fuel i' j'
    else hunksFrom deleted inserted fuel (i + 1) (j + 1)

def commonLength : List Nat → List Nat → Nat
  | a :: as, b :: bs => if a = b then commonLength as bs + 1 else 0
  | _, _ => 0

def marks (size : Nat) (places : List Int) : Changed :=
  places.foldl (fun changed i => Changed.put changed i true) (Array.replicate size false)

/-- The hunks between two sequences. What both start and end with is left out first, up to some
members that changes may be moved over, and then the members that the other sequence does not have
at all. -/
def hunks (horizon : Nat) (left right : List Nat) : List Hunk :=
  let common := commonLength left right
  let back := commonLength (left.drop common).reverse (right.drop common).reverse - horizon
  let start := common - horizon
  let (left', right') := (left.drop start, right.drop start)
  let (left', right') := (left'.take (left'.length - back), right'.take (right'.length - back))
  let (xs, ys) := (left'.toArray, right'.toArray)
  let kept (ns others : List Nat) : List (Nat × Nat) :=
    ns.zipIdx.filter fun n => others.contains n.1
  let (keptLeft, keptRight) := (kept left' right', kept right' left')
  let places (ns : List (Nat × Nat)) : Array Int := (ns.map fun n => Int.ofNat n.2).toArray
  let (deleted, inserted) := script
    ⟨(keptLeft.map (·.1)).toArray, (keptRight.map (·.1)).toArray⟩
    (2 * (keptLeft.length + keptRight.length) + 4)
    ⟨0, Int.ofNat keptLeft.length, 0, Int.ofNat keptRight.length⟩
  let named (ns : List (Nat × Nat)) (found : List Int) : List Int :=
    found.map fun i => (places ns).getD i.toNat 0
  let lost (ns others : List Nat) : List Int :=
    (ns.zipIdx.filter fun n => !others.contains n.1).map fun n => Int.ofNat n.2
  let changedLeft := marks xs.size (lost left' right' ++ named keptLeft deleted)
  let changedRight := marks ys.size (lost right' left' ++ named keptRight inserted)
  let size := xs.size + ys.size + 4
  let changedLeft :=
    moveRuns xs changedRight (Int.ofNat xs.size) size (2 * size) 0 0 changedLeft
  let changedRight :=
    moveRuns ys changedLeft (Int.ofNat ys.size) size (2 * size) 0 0 changedRight
  (hunksFrom changedLeft changedRight size 0 0).map fun hunk =>
    { hunk with left := hunk.left + start, right := hunk.right + start }

end NextRelease.Shell.Difference
