import NextRelease.Shell.Tool.Sequence

/-!
Putting words in an order that respects what is known to stand in front of what. Words that nothing
has to stand in front of wait in a queue; where none is left, a loop is named and opened.
-/

namespace NextRelease.Shell.Tool

namespace Precedence

structure Item where
  word : Octets
  count : Nat := 0
  behind : List Octets := []
  isWritten : Bool := false
  link : Option Octets := none

abbrev Items := List Item

def find? (items : Items) (word : Octets) : Option Item := items.find? (·.word == word)

def update (items : Items) (word : Octets) (change : Item → Item) : Items :=
  items.map fun item => if item.word == word then change item else item

def add (items : Items) (word : Octets) : Items :=
  if (find? items word).isSome then items
  else
    let front := items.takeWhile fun item => compare item.word word == .lt
    front ++ { word } :: items.drop front.length

def relate (items : Items) (first second : Octets) : Items :=
  if first == second then items
  else
    update (update items second fun item => { item with count := item.count + 1 }) first
      fun item => { item with behind := second :: item.behind }

def ofWords : Items → List Octets → Items
  | items, first :: second :: words =>
    ofWords (relate (add (add items first) second) first second) words
  | items, _ => items

def drain : (fuel : Nat) → Items → (queue : List Octets) → Items × List Octets
  | 0, items, _ => (items, [])
  | _, items, [] => (items, [])
  | fuel + 1, items, word :: queue =>
    let behind := ((find? items word).map Item.behind).getD []
    let items := update items word fun item => { item with isWritten := true }
    let (items, freed) := behind.foldl
      (fun (state : Items × List Octets) next =>
        let items := update state.1 next fun item => { item with count := item.count - 1 }
        let isFree := (find? items next).any fun item => item.count == 0
        (items, if isFree then state.2 ++ [next] else state.2))
      (items, [])
    let (items, words) := drain fuel items (queue ++ freed)
    (items, word :: words)

def way (items : Items) : (fuel : Nat) → Octets → List Octets
  | 0, _ => []
  | fuel + 1, word =>
    word :: match (find? items word).bind Item.link with
      | some next => way items fuel next
      | none => []

/-- One look at all words for the loop that the way from `start` on is a part of; once it is found,
its words are answered and it is opened. -/
def seek : (words : List Octets) → (start : Option Octets) → Items →
    Items × Option Octets × List Octets
  | [], start, items => (items, start, [])
  | word :: words, start, items =>
    match find? items word, start with
    | none, _ => seek words start items
    | some item, none => seek words (if 0 < item.count then some word else none) items
    | some item, some first =>
      if item.count = 0 || !item.behind.contains first then seek words start items
      else if item.link.isNone then
        seek words (some word) (update items word fun item => { item with link := some first })
      else
        let all := way items (items.length + 1) first
        let round := all.takeWhile (· != word) ++ [word]
        let opened := update items word fun item => { item with behind := item.behind.erase first }
        let opened := update opened first fun item => { item with count := item.count - 1 }
        let cleared := opened.map fun item =>
          if all.contains item.word then { item with link := none } else item
        (cleared, none, round)

def openLoop : (fuel : Nat) → (start : Option Octets) → Items → Items × List Octets
  | 0, _, items => (items, [])
  | fuel + 1, start, items =>
    let (items, start, round) := seek (items.map Item.word) start items
    if round.isEmpty && start.isSome then openLoop fuel start items else (items, round)

end Precedence

def tsort : Tool :=
  withOptions false [] 1 fun name _ operands => do
    match operands with
    | _ :: extra :: _ => misuse 1 name ("extra operand ".toList ++ inQuotes extra)
    | operands =>
      let path := operands.head?.getD ['-']
      match ← content path with
      | .error (.file .isADirectory) => pure ()
      | .error fault => fail 1 name (quotedIfPeculiar path ++ ": ".toList ++ fault.text)
      | .ok text =>
        let words := wordsOf text
        if words.length % 2 = 1 then
          fail 1 name (quotedIfPeculiar path ++ ": input contains an odd number of tokens".toList)
        else
          let start := Precedence.ofWords [] words
          let step (items : Precedence.Items) : Act Precedence.Items := do
            let free := items.filter fun item => item.count == 0 && !item.isWritten
            let (items, order) := Precedence.drain (items.length + 1) items
              (free.map Precedence.Item.word)
            print (order.flatMap (· ++ ['\n']))
            if items.all Precedence.Item.isWritten then return items
            fail 1 name (quotedIfPeculiar path ++ ": input contains a loop:".toList)
            let (items, round) := Precedence.openLoop (items.length + 2) none items
            round.forM (report name)
            return items
          let _ ← (List.range (words.length + 1)).foldlM
            (fun items _ =>
              if items.all Precedence.Item.isWritten then return items else step items)
            start

end NextRelease.Shell.Tool
