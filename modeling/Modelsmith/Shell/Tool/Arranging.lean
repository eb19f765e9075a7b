import Modelsmith.Shell.Tool.Sorting

/-! Items in an order that goes with others, or in none. -/

set_option autoImplicit false

namespace Modelsmith.Shell.Tool

/-! Partial orders. -/

structure OrderItem where
  name : Octets
  behind : List Nat := []
  before : Nat := 0
  done : Bool := false

structure PartialOrder where
  items : Array OrderItem := #[]

namespace PartialOrder

def number? (order : PartialOrder) (name : Octets) : Option Nat :=
  order.items.findIdx? fun item => item.name = name

def withItem (order : PartialOrder) (name : Octets) : PartialOrder × Nat :=
  match order.number? name with
  | some number => (order, number)
  | none => ({ items := order.items.push { name } }, order.items.size)

def withPair (order : PartialOrder) (first second : Octets) : PartialOrder :=
  let (order, former) := order.withItem first
  let (order, latter) := order.withItem second
  if former = latter then order
  else
    { items := (order.items.modify former fun item =>
        { item with behind := latter :: item.behind }).modify latter fun item =>
          { item with before := item.before + 1 } }

def ofWords : PartialOrder → List Octets → Option PartialOrder
  | order, [] => some order
  | _, [_] => none
  | order, first :: second :: rest => ofWords (order.withPair first second) rest

def byName (order : PartialOrder) : List Nat :=
  (List.range order.items.size).mergeSort fun left right =>
    Text.precedes ((order.items[left]?.map (·.name)).getD [])
      ((order.items[right]?.map (·.name)).getD [])

def isFree (order : PartialOrder) (number : Nat) : Bool :=
  order.items[number]?.any fun item => item.before = 0 && !item.done

def release (order : PartialOrder) (number : Nat) : PartialOrder × List Nat :=
  let behind := (order.items[number]?.map (·.behind)).getD []
  let order : PartialOrder :=
    { items := order.items.modify number fun item => { item with done := true, behind := [] } }
  behind.foldl (fun (order, free) next =>
    let order : PartialOrder :=
      { items := order.items.modify next fun item => { item with before := item.before - 1 } }
    (order, if order.isFree next then free ++ [next] else free)) (order, [])

def drain : (fuel : Nat) → PartialOrder → List Nat → List Octets → PartialOrder × List Octets
  | 0, order, _, taken => (order, taken)
  | _, order, [], taken => (order, taken)
  | fuel + 1, order, number :: queue, taken =>
    let name := (order.items[number]?.map (·.name)).getD []
    let (order, free) := order.release number
    drain fuel order (queue ++ free) (name :: taken)

def forget (order : PartialOrder) (former latter : Nat) : PartialOrder :=
  { items := (order.items.modify former fun item =>
      { item with behind := item.behind.erase latter }).modify latter fun item =>
        { item with before := item.before - 1 } }

end PartialOrder

structure LoopSearch where
  order : PartialOrder
  trail : List Nat := []
  loop : Option (List Nat) := none

namespace LoopSearch

def visit (search : LoopSearch) (number : Nat) : LoopSearch :=
  match search.loop, search.trail, search.order.items[number]? with
  | none, [], some item => if 0 < item.before then { search with trail := [number] } else search
  | none, first :: rest, some item =>
    if item.before = 0 || !item.behind.contains first then search
    else if (first :: rest).dropLast.contains number then
      { search with
        order := search.order.forget number first
        loop := some ((first :: rest).takeWhile (· ≠ number) ++ [number]) }
    else { search with trail := number :: first :: rest }
  | _, _, _ => search

def run : (fuel : Nat) → LoopSearch → LoopSearch
  | 0, search => search
  | fuel + 1, search =>
    let search := search.order.byName.foldl visit search
    if search.loop.isSome then search else run fuel search

end LoopSearch

def orderAll : (fuel : Nat) → PartialOrder → List Octets → List (List Octets) →
    List Octets × List (List Octets)
  | 0, _, taken, loops => (taken.reverse, loops.reverse)
  | fuel + 1, order, taken, loops =>
    let free := order.byName.filter order.isFree
    let (order, taken) := PartialOrder.drain (order.items.size + 1) order free taken
    if order.items.all fun item => item.before = 0 then (taken.reverse, loops.reverse)
    else
      let search := LoopSearch.run (order.items.size + 2) { order }
      let names := (search.loop.getD []).map fun number =>
        (order.items[number]?.map (·.name)).getD []
      orderAll fuel search.order taken (names :: loops)

def tsort : Tool := optioned ⟨"", "", []⟩ 1 fun found => do
  if let extra :: _ := found.operands.drop 1 then
    usage ("extra operand " ++ cited extra)
    return 1
  let path := found.operands.headD ['-']
  match ← content path with
  | .error reason =>
    complain (shown path ++ ": " ++ reason)
    return 1
  | .ok text =>
    let isDivider (c : Char) : Bool := c = ' ' || c = '\t' || c = '\n'
    let words := (text.splitBy fun c d => isDivider c == isDivider d).filter fun word =>
      !(word.head?.any isDivider)
    match PartialOrder.ofWords {} words with
    | none =>
      complain (shown path ++ ": input contains an odd number of tokens")
      return 1
    | some order =>
      let (names, loops) := orderAll (words.length + 2) order [] []
      for loop in loops do
        complain (shown path ++ ": input contains a loop:")
        loop.forM complain
      let shown := names.flatMap (· ++ ['\n'])
      if !shown.isEmpty then Step.print shown
      return if loops.isEmpty then 0 else 1

/-! Any order. -/

/-- Any order is one the lines may come in. -/
def shuf : Tool := optioned ⟨"e", "n", [("echo", 'e'), ("head-count", 'n')]⟩ 1 fun found => do
  let refuse (words : Octets) : Step Nat := do
    complain words
    return 1
  let mut most : Option Nat := none
  for (letter, text) in found.options do
    if letter = 'n' then
      match natural? text with
      | some count => most := some (min count (most.getD count))
      | none => return ← refuse ("invalid line count: " ++ cited text)
  let path := found.operands.headD ['-']
  match ← if found.has 'e' then pure (.ok (found.operands.flatMap (· ++ ['\n']))) else content path with
  | .error reason => refuse (shown path ++ ": " ++ reason)
  | .ok text =>
    let items := bareLines text
    let text := (items.take (most.getD items.length)).flatMap (· ++ ['\n'])
    if !text.isEmpty then Step.print text
    return 0

end Modelsmith.Shell.Tool
