import NextRelease.Shell.Perl.Pattern

/-!
Looking for matches. What comes first at a place goes on with what follows it, and where that leads
nowhere, the next way is tried.
-/

namespace NextRelease.Shell.Perl

abbrev Spans := List (Nat × Nat × Nat)

def sameChar (ignoreCase : Bool) (c d : Char) : Bool :=
  c == d || (ignoreCase && c.toLower == d.toLower)

def Pattern.takes? (c : Char) : Pattern → Option Bool
  | .char ignoreCase d => some (sameChar ignoreCase c d)
  | .any breaks => some (breaks || c != '\n')
  | .oneOf ignoreCase negated members =>
    let has (c : Char) : Bool := members.any (Member.has c)
    some ((has c || (ignoreCase && (has c.toLower || has c.toUpper))) != negated)
  | _ => none

def Pattern.isSingle (p : Pattern) : Bool := (p.takes? 'a').isSome

structure Subject where
  text : Array Char
  whole : Pattern
  start : Nat

def runLength (text : Array Char) (p : Pattern) : (most : Nat) → (place : Nat) → Nat
  | 0, _ => 0
  | most + 1, place =>
    match text[place]? with
    | some c => if p.takes? c = some true then runLength text p most (place + 1) + 1 else 0
    | none => 0

def isWordEdge (text : Array Char) (place : Nat) : Bool :=
  let before := 0 < place && ((text[place - 1]?).any isWordChar)
  let behind := (text[place]?).any isWordChar
  before != behind

def Subject.holds? (s : Subject) (place : Nat) : Pattern → Option Bool
  | .empty | .definition _ => some true
  | .textStart => some (place == 0)
  | .textEnd => some (place == s.text.size)
  | .lastBreak =>
    some (place == s.text.size || (place + 1 == s.text.size && s.text[place]? == some '\n'))
  | .lineStart => some (place == 0 || s.text[place - 1]? == some '\n')
  | .lineEnd => some (place == s.text.size || s.text[place]? == some '\n')
  | .searchStart => some (place == s.start)
  | .wordEdge negated => some (isWordEdge s.text place != negated)
  | _ => none

abbrev Onward := Nat → Spans → Option (Nat × Spans)

def Subject.hasAgain (s : Subject) (ignoreCase : Bool) (start size place : Nat) : Bool :=
  place + size ≤ s.text.size &&
    (List.range size).all fun i =>
      sameChar ignoreCase (s.text[start + i]?.getD 'a') (s.text[place + i]?.getD 'a')

/-- Matches at a place and goes on; the first way that leads to an end counts. -/
def matchAt (s : Subject) : (fuel : Nat) → Pattern → (place : Nat) → Spans → Onward →
    Option (Nat × Spans)
  | 0, _, _, _, _ => none
  | fuel + 1, p, place, spans, onward =>
    match s.holds? place p with
    | some true => onward place spans
    | some false => none
    | none =>
      match p with
      | .keep => onward place ((0, place, place) :: spans)
      | .sequence first second =>
        matchAt s fuel first place spans fun place spans =>
          matchAt s fuel second place spans onward
      | .choice first second =>
        match matchAt s fuel first place spans onward with
        | some found => some found
        | none => matchAt s fuel second place spans onward
      | .group number inner =>
        matchAt s fuel inner place spans fun stop spans =>
          onward stop ((number, place, stop) :: spans)
      | .again ignoreCase number =>
        match spans.lookup number with
        | none => none
        | some (start, stop) =>
          if s.hasAgain ignoreCase start (stop - start) place then
            onward (place + (stop - start)) spans
          else none
      | .recursion number =>
        let inner? := if number = 0 then some s.whole else s.whole.ofGroup? number
        match inner? with
        | none => none
        -- what its groups take inside is forgotten behind it
        | some inner => matchAt s fuel inner place spans fun stop _ => onward stop spans
      | .look true negated inner =>
        -- only the first way through counts: what comes behind it does not ask for another one
        match matchAt s fuel inner place spans fun place spans => some (place, spans) with
        | some (_, inside) => if negated then none else onward place inside
        | none => if negated then onward place spans else none
      | .look false negated inner =>
        let found := (List.range (place + 1)).findSome? fun back =>
          matchAt s fuel inner (place - back) spans fun stop spans =>
            if stop = place then some (stop, spans) else none
        match found with
        | some (_, inside) => if negated then none else onward place inside
        | none => if negated then onward place spans else none
      | .atomic inner =>
        match matchAt s fuel inner place spans fun place spans => some (place, spans) with
        | some (place, spans) => onward place spans
        | none => none
      | .ifGroup number yes no =>
        matchAt s fuel (if number != 0 && (spans.lookup number).isSome then yes else no) place
          spans onward
      | .ifLook condition yes no =>
        match matchAt s fuel condition place spans fun place spans => some (place, spans) with
        | some (_, inside) => matchAt s fuel yes place inside onward
        | none => matchAt s fuel no place spans onward
      | .repeated least most greed inner =>
        -- turns of one character each differ in their number only
        if inner.isSingle then
          let longest := runLength s.text inner
            (min (most.getD s.text.size) (s.text.size - place)) place
          if longest < least then none
          else
            let lengths := (List.range (longest - least + 1)).map (· + least)
            match greed with
            | .greedy => lengths.reverse.findSome? fun size => onward (place + size) spans
            | .lazy => lengths.findSome? fun size => onward (place + size) spans
            | .possessive => onward (place + longest) spans
        else if greed = .possessive then
          match matchAt s fuel (.repeated least most .greedy inner) place spans
              fun place spans => some (place, spans) with
          | some (place, spans) => onward place spans
          | none => none
        else
          let more (_ : Unit) : Option (Nat × Spans) :=
            if most = some 0 then none
            else
              matchAt s fuel inner place spans fun stop spans =>
                -- a turn that takes nothing would be followed by another one for ever
                if stop = place && least = 0 then none
                else
                  matchAt s fuel (.repeated (least - 1) (most.map (· - 1)) greed inner) stop
                    spans onward
          if 0 < least then more ()
          else if greed = .lazy then
            match onward place spans with
            | some found => some found
            | none => more ()
          else
            match more () with
            | some found => some found
            | none => onward place spans
      | p =>
        match s.text[place]? with
        | some c => if p.takes? c = some true then onward (place + 1) spans else none
        | none => none

structure Match where
  start : Nat
  stop : Nat
  spans : Spans := []
  deriving Inhabited

def Match.ofSpans (start stop : Nat) (spans : Spans) : Match :=
  match spans.lookup 0 with
  | some (start, _) => ⟨start, stop, spans.filter (·.1 != 0)⟩
  | none => ⟨start, stop, spans⟩

namespace Subject

def steps (s : Subject) : Nat := 16 * s.text.size + 65536

def searchFrom (s : Subject) : (count : Nat) → (place : Nat) → Option Match
  | 0, _ => none
  | count + 1, place =>
    match matchAt s s.steps s.whole place [] fun stop spans => some (stop, spans) with
    | some (stop, spans) => some (.ofSpans place stop spans)
    | none => searchFrom s count (place + 1)

end Subject

def search (text : Array Char) (p : Pattern) (place : Nat) (barred : Option Nat) : Option Match :=
  let s : Subject := ⟨text, p, place⟩
  let accept (start : Nat) : Onward := fun stop spans =>
    if stop = start && barred = some start then none else some (stop, spans)
  match barred with
  | none => s.searchFrom (text.size + 1 - place) place
  | some _ =>
    match matchAt s s.steps p place [] (accept place) with
    | some (stop, spans) => some (.ofSpans place stop spans)
    | none => s.searchFrom (text.size - place) (place + 1)

def searchAll (text : Array Char) (p : Pattern) : (fuel : Nat) → (place : Nat) →
    (barred : Option Nat) → List Match
  | 0, _, _ => []
  | fuel + 1, place, barred =>
    if text.size < place then []
    else
      match search text p place barred with
      | none => []
      | some found =>
        let barred := if found.start = found.stop then some found.stop else none
        found :: searchAll text p fuel found.stop barred

end NextRelease.Shell.Perl
