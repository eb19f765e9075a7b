import Modelsmith.Shell.Tool.Basic

/-! Tabs and the columns that they lead to. -/

set_option autoImplicit false

namespace Modelsmith.Shell.Tool

structure TabStops where
  columns : List Nat := []
  every : Nat := 0

namespace TabStops

def next? (stops : TabStops) (column : Nat) : Option Nat :=
  match stops.columns.find? (column < ·) with
  | some stop => some stop
  | none => if 0 < stops.every then some (stops.every * (column / stops.every + 1)) else none

def ascends : (before : Nat) → List Nat → Except Octets Unit
  | _, [] => .ok ()
  | before, column :: rest =>
    if column = 0 then .error "tab size cannot be 0"
    else if column ≤ before then .error "tab sizes must be ascending"
    else ascends column rest

def read (texts : List Octets) : Except Octets TabStops := do
  let parts := (texts.flatMap (Expansion.splitOnChar ',')).filter (!·.isEmpty)
  let columns ← parts.mapM fun part =>
    match natural? part with
    | some column => .ok column
    | none =>
      .error ("tab size contains invalid character(s): " ++ cited (part.dropWhile Char.isDigit))
  ascends 0 columns
  match columns with
  | [] => return { every := 8 }
  | [column] => return { every := column }
  | _ => return { columns }

end TabStops

def withStops (arguments : List Octets) : List Octets :=
  arguments.flatMap fun text =>
    match text with
    | '-' :: c :: rest =>
      if c.isDigit && rest.all fun d => d.isDigit || d = ',' then ["-t", c :: rest]
      else [text]
    | _ => [text]

def changingLines (spec : Options) (arguments : List Octets)
    (change : Found → TabStops → Octets → Octets) : Step Nat :=
  withOptions spec 1 (withStops arguments) fun found => do
    let texts := (found.options.filter fun (letter, _) => letter = 't').map Prod.snd
    match TabStops.read texts with
    | .error words =>
      complain words
      return 1
    | .ok stops =>
      eachContent found.operands fun _ text => do
        let shown := (lines text).flatMap (change found stops)
        if !shown.isEmpty then Step.print shown

def expanded (stops : TabStops) (initial : Bool) : (column : Nat) → (active : Bool) → Octets →
    Octets
  | _, _, [] => []
  | column, active, c :: rest =>
    if !active then c :: expanded stops initial column false rest
    else if c = '\t' then
      let next := (stops.next? column).getD (column + 1)
      List.replicate (next - column) ' ' ++ expanded stops initial next true rest
    else if c = '\x08' then c :: expanded stops initial (column - 1) active rest
    else
      let stays := !initial || c = ' '
      c :: expanded stops initial (column + 1) stays rest

def expand : Tool := fun arguments =>
  let spec : Options := ⟨"i", "t", [("initial", 'i'), ("tabs", 't')]⟩
  changingLines spec arguments fun found stops => expanded stops (found.has 'i') 0 true

structure Gathering where
  column : Nat := 0
  pending : Octets := []
  oneBefore : Bool := false
  afterBlank : Bool := true
  active : Bool := true

def gathered (stops : TabStops) (whole : Bool) : Gathering → Octets → Octets
  | state, [] => state.pending.reverse
  | state, c :: rest =>
    if !state.active then c :: gathered stops whole state rest
    else
      let isBlank := c = ' ' || c = '\t'
      /- Writes what is pending and then the character. -/
      let write (state : Gathering) (c : Char) : Octets :=
        let shown := if state.oneBefore && 1 < state.pending.length then
          '\t' :: state.pending.reverse.drop 1 else state.pending.reverse
        shown ++ c :: gathered stops whole
          { state with
            pending := []
            oneBefore := if shown.isEmpty then state.oneBefore else false
            afterBlank := isBlank
            active := state.active && (whole || isBlank) } rest
      if isBlank then
        match stops.next? state.column with
        | none => write { state with active := false } c
        | some next =>
          let discard (state : Gathering) : Gathering :=
            { state with
              pending := if state.oneBefore then state.pending.reverse.take 1 else [] }
          if c = '\t' then
            let pending := if state.pending.isEmpty then [] else
              (state.pending.reverse.drop 1 |>.reverse) ++ ['\t']
            write (discard { state with column := next, pending }) '\t'
          else
            let column := state.column + 1
            if state.afterBlank && column = next then
              let pending := (state.pending.reverse.drop 1 |>.reverse) ++ ['\t']
              write (discard { state with column, pending }) '\t'
            else
              gathered stops whole
                { state with
                  column
                  oneBefore := state.oneBefore || column = next
                  pending := c :: state.pending
                  afterBlank := true } rest
      else if c = '\x08' then write { state with column := state.column - 1 } c
      else write { state with column := state.column + 1 } c

def unexpand : Tool := fun arguments =>
  let spec : Options := ⟨"aF", "t", [("all", 'a'), ("first-only", 'F'), ("tabs", 't')]⟩
  changingLines spec arguments fun found stops =>
    gathered stops ((found.has 'a' || found.has 't') && !found.has 'F') {}

end Modelsmith.Shell.Tool
