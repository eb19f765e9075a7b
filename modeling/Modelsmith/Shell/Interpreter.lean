import Modelsmith.Shell.Builtin
import Modelsmith.Shell.Tool

/-! Running scripts. -/

set_option autoImplicit false

namespace Modelsmith.Shell.Interpreter

structure Flags where
  tested : Bool
  final : Bool

def depthLimit : Nat := 2000

def callLimit : Nat := 1000

def scriptText (files : Files) (path : String) : Except FileFault Octets :=
  match files.read path with
  | .error .isDirectory => .ok []
  | other => other

def atLine (line : Nat) : Step Unit := Step.modifyProcess fun process => { process with line }

def withDescriptors {α : Type} (step : Step α) : Step α := do
  let before := (← Step.process).descriptors
  let restore : Step Unit :=
    Step.modifyProcess fun process => { process with descriptors := before }
  let value ← tryCatch step fun stop => do
    restore
    throw stop
  restore
  return value

def isolated (final told : Bool) (change : Process → Process) (step : Step Unit) : Step Nat := do
  let outer ← Step.process
  let number := (← get).world.nextNumber
  Step.modifyWorld fun world => { world with nextNumber := number + 1 }
  Step.modifyProcess fun process =>
    change { process with
      number
      ancestors := process.number :: process.ancestors
      traps := process.traps.filter (·.2.isEmpty)
      signals := []
      slots := [] }
  let stop? ← tryCatch (do
    step
    return none) fun stop => return some stop
  let status := (← Step.process).status
  Step.modifyProcess fun _ => outer
  match stop? with
  | some (.killed target signal) =>
    if target ≠ number then throw (.killed target signal)
    if final && outer.traps.isEmpty then throw (.killed outer.number signal)
    if told && signal ≠ 2 && signal ≠ 13 then Step.report (Builtin.signalReport signal).toList
    return 128 + signal
  | some .starved => throw .starved
  | _ => return status

def waits : (fuel : Nat) → Command → Bool
  | 0, _ => false
  | fuel + 1, command =>
    match command with
    | .simple _ _ (word :: _) _ => Word.plain? word = some "sleep".toList
    | .sequence first second | .and first second | .or first second =>
      waits fuel first || waits fuel second
    | .not body | .subshell _ body _ | .redirected _ body _ => waits fuel body
    | .pipeline commands => commands.any (waits fuel)
    | .choice test body otherwise => waits fuel test || waits fuel body || waits fuel otherwise
    | .loop _ test body => waits fuel test || waits fuel body
    | .each _ _ _ body => waits fuel body
    | _ => false

def withArguments (arguments : List Octets) (process : Process) : Process :=
  { process with
    arguments
    loops := 0
    depth := process.depth + 1
    calls := process.calls + 1
    optionOffset := 0 }

inductive Kind where
  | builtin (name : String)
  | function (body : Command)
  | program

def kindOf (name : Octets) : Step Kind := do
  let text := String.ofList name
  if name.contains '/' then return .program
  if Builtin.isSpecial text then return .builtin text
  match (← Step.process).functions.lookup name with
  | some body => return .function body
  | none => return if Builtin.isBuiltin text then .builtin text else .program

def searchPath : Step String := do return Text.ofOctets ((← Step.value? "PATH").getD [])

def locate (path : String) (name : Octets) : Step (Except FileFault (String × Octets)) := do
  let files ← Step.files
  if name.isEmpty then return Host.search files "" false ((path.splitOn ":").filter (· ≠ ""))
  return Host.locate path files (Text.ofOctets name)

def locateFor (path : String) (arguments : List Octets) :
    Step (Except FileFault (String × Octets)) := do
  match ← locate path (arguments.headD []) with
  | .error fault => return .error fault
  | .ok found =>
    let settings := (← Step.environment).map fun (name, value) => name ++ '=' :: value
    return if Host.canTake (arguments ++ settings) then .ok found else .error .tooMuch

def programFault : FileFault → String
  | .notFound | .notDirectory => "not found"
  | fault => fault.reason

def startStatus (name : Octets) : FileFault → Nat
  | .denied => if name.contains '/' then 126 else 127
  | fault => Tool.startStatus fault

def trace (stream : Option Nat) (assignments : List Octets) (words : List Octets) : Step Unit := do
  let mark := (← Step.value? "PS4").getD "+ "
  let text := mark ++ Expansion.joinWith [' '] (assignments ++ words) ++ ['\n']
  withDescriptors do
    Step.setDescriptor 2 stream
    let _ ← Step.write 2 text

def expandAssignment (substitute : Expansion.Substitute) (word : Word) :
    Step (Octets × Octets) := do
  match assignment? word with
  | some (name, value) => return (name, ← Expansion.assignedText substitute value)
  | none => return ([], [])

def firstFields (substitute : Expansion.Substitute) :
    List Word → Step (List Octets × List Word)
  | [] => return ([], [])
  | word :: rest => do
    match ← Expansion.wordFields substitute word with
    | [] => firstFields substitute rest
    | fields => return (fields, rest)

def otherFields (substitute : Expansion.Substitute) (declaration : Bool) :
    List Word → Step (List Octets)
  | [] => return []
  | word :: rest => do
    let fields ←
      match if declaration then assignment? word else none with
      | some (name, value) => do
        let text ← Expansion.assignedText substitute value
        pure [name ++ '=' :: text]
      | none => Expansion.wordFields substitute word
    return fields ++ (← otherFields substitute declaration rest)

def commandWords : List Octets → Option (Bool × List Octets)
  | ['-', '-'] :: rest => if rest.isEmpty then none else some (false, rest)
  | ['-', 'p'] :: rest =>
    match commandWords rest with
    | some (_, words) => some (true, words)
    | none => none
  | [] => none
  | first :: rest =>
    if first.head? = some '-' && 1 < first.length then none else some (false, first :: rest)

def noteFound (name : Octets) : Step Unit :=
  Step.modifyProcess fun process =>
    if name.contains '/' || process.found.contains name then process
    else { process with found := process.found ++ [name] }

def notePrograms (commands : List Command) : Step Unit :=
  commands.forM fun command => do
    match command with
    | .simple _ _ (word :: _) _ =>
      match Word.plain? word with
      | some name =>
        if isName name then
          match ← kindOf name, ← locate (← searchPath) name with
          | .program, .ok _ => noteFound name
          | _, _ => return
      | none => return
    | _ => return

def foundRank (name : Octets) : Nat :=
  let first := (name.headD '\x00').toNat * 16
  (first + (name.map Char.toNat).sum) % 32768 % 31

def hashed (operands : List Octets) : Step Nat := do
  let (letters, names) ← Builtin.options "r" "" operands
  if !letters.isEmpty then
    Step.modifyProcess fun process => { process with found := [] }
    return 0
  if names.isEmpty then
    for rank in List.range 31 do
      for name in (← Step.process).found do
        if foundRank name = rank then
          match ← locate (← searchPath) name with
          | .ok (path, _) => Step.printLine (Text.octets path)
          | .error _ => pure ()
    return 0
  let mut status := 0
  for name in names do
    match ← kindOf name, ← locate (← searchPath) name with
    | .program, .ok _ => noteFound name
    | .program, .error fault =>
      Step.complain (name ++ ": " ++ (programFault fault).toList)
      status := 1
    | _, _ => pure ()
  return status

def pathOf? (name : Octets) : Step (Option Octets) := do
  if name.contains '/' then
    return if (← Step.files).exists (Text.ofOctets name) then some name else none
  match ← locate (← searchPath) name with
  | .ok (path, _) => return some (Text.octets path)
  | .error _ => return none

def describe (verbose : Bool) (name : Octets) : Step Nat := do
  let text := String.ofList name
  let process ← Step.process
  let say (short long : Octets) : Step Nat := do
    Step.printLine (if verbose then name ++ long else short)
    return 0
  if Token.keywords.contains text then say name " is a shell keyword"
  else
    match process.aliases.lookup name with
    | some value =>
      say ("alias " ++ name ++ '=' :: Builtin.quoted value)
        (" is an alias for " ++ value)
    | none =>
      match ← kindOf name with
      | .builtin _ =>
        if Builtin.isSpecial text then say name " is a special shell builtin"
        else say name " is a shell builtin"
      | .function _ => say name " is a shell function"
      | .program =>
        match ← pathOf? name with
        | some path =>
          let known := if process.found.contains name then " is a tracked alias for " else " is "
          noteFound name
          say path (known ++ path)
        | none =>
          if verbose then Step.printLine (name ++ ": not found")
          return 127

def typeOf : List Octets → Step Nat
  | [] => return 0
  | name :: rest => do
    let status ← describe true name
    let others ← typeOf rest
    return max status others

def inheritedTrail (files : Files) (environment : List (Octets × Octets)) : Octets :=
  match environment.lookup "PWD".toList with
  | some path =>
    let reached := (files.find (Text.ofOctets path)).toOption.map Prod.fst
    if path.head? = some '/' && reached = some files.current then path
    else Builtin.pathText files.current
  | none => Builtin.pathText files.current

def freshProcess (name : Octets) (environment : List (Octets × Octets)) (trail : Octets)
    (process : Process) : Process :=
  let setting (value : Octets) (exported : Bool) : Variable := ⟨some value, exported, false⟩
  let fixed := [("IFS", " \t\n"), ("OPTIND", "1")].map fun (name, value) =>
    (name.toList, setting value.toList false)
  let defaults :=
    [("PATH", Host.searchPath), ("PS1", "$ "), ("PS2", "> "), ("PS4", "+ ")].map
      fun (name, value) =>
        (name.toList, match environment.lookup name.toList with
          | some given => setting given true
          | none => setting value.toList false)
  let directory := ("PWD".toList, setting trail true)
  let parent := toString (process.ancestors.headD process.shell)
  let standing := fixed ++ defaults ++ [("PPID".toList, setting parent.toList false)]
  let given := environment.filterMap fun (name, value) =>
    if name = directory.1 then some directory
    else if (standing.lookup name).isSome then none
    else some (name, setting value true)
  let settings :=
    (if (given.lookup directory.1).isSome then given else directory :: given) ++ standing
  { name
    settings
    descriptors := process.descriptors
    directory := process.directory
    trail
    number := process.number
    shell := process.number
    ancestors := process.ancestors
    deaf := process.deaf ++ (process.traps.filter (·.2.isEmpty)).map Prod.fst
    mask := process.mask
    deadline := process.deadline
    depth := process.depth }

def interpreterLine? (content : Octets) : Option (Octets × Option Octets) :=
  match content with
  | '#' :: '!' :: rest =>
    let blank (c : Char) : Bool := c = ' ' || c = '\t'
    let line := (rest.takeWhile (· ≠ '\n')).dropWhile blank
    let path := line.takeWhile fun c => !blank c
    let argument := ((line.drop path.length).dropWhile blank).reverse.dropWhile blank |>.reverse
    some (path, if argument.isEmpty then none else some argument)
  | _ => none

def assignOwn (name value : Octets) : Step Unit := do
  Step.remember name
  Step.assign name value
  Step.mark name fun content => { content with exported := true }

def background (body : Command) (targets : List Redirection) : Step Unit := do
  let number := (← get).world.nextNumber
  let input ← Step.addStream ⟨.nowhere, true, false⟩
  let process ← Step.process
  let body := if targets.isEmpty then body else .redirected process.line body targets
  let others := process.descriptors.filter fun (descriptor, _) => descriptor ≠ 0
  let copy := { process with
    ancestors := process.number :: process.ancestors
    traps := process.traps.filter (·.2.isEmpty)
    signals := []
    descriptors := (0, input) :: others
    slots := [] }
  Step.modifyWorld fun world =>
    { world with nextNumber := number + 1, jobs := world.jobs ++ [⟨number, copy, body⟩] }
  Builtin.addJob number (match body with
    | .pipeline commands => commands.length
    | _ => 1)

inductive Round where
  | done
  | again
  | over
  deriving DecidableEq

def once (level : Nat) (step : Step Unit) : Step Round := do
  let round ← tryCatch (do
    step
    return Round.done) fun stop =>
      match stop with
      | .leave (count + 1) => if count = 0 then return .over else throw (.leave count)
      | .next (count + 1) => if count = 0 then return .again else throw (.next count)
      | stop => throw stop
  if round ≠ .done then Step.modifyProcess fun process => { process with loops := level }
  return round

def settle (flags : Flags) : Step Unit := do
  let process ← Step.process
  if process.switches.exitOnFailure && !flags.tested && process.status ≠ 0 then throw .exit

def checkOutput (status : Nat) : Step Nat := do
  let process ← Step.process
  match process.lost with
  | none => return status
  | some _ =>
    Step.modifyProcess fun process => { process with lost := none }
    Step.complain (process.command.getD [] ++ ": I/O error")
    return max status 1

def named (name : Octets) (special : Bool) (step : Step Nat) : Step Unit := do
  let before := (← Step.process).command
  Step.modifyProcess fun process => { process with command := some name }
  let restore : Step Unit := Step.modifyProcess fun process => { process with command := before }
  let status ← tryCatch (do
    let status ← step
    checkOutput status) fun stop => do
      if stop = .fault && !special then
        let _ ← checkOutput 0
        restore
        return (← Step.process).status
      restore
      throw stop
  restore
  Step.setStatus status

mutual

def run (flags : Flags) (command : Command) : (fuel : Nat) → Step Unit
  | 0 => throw .exit
  | fuel + 1 => do
    if (← Step.process).switches.readOnly then return
    actions fuel
    match command with
    | .nothing => return
    | .simple line assignments words targets =>
      simple flags line assignments words targets fuel
      actions fuel
      settle flags
    | .sequence first second =>
      run { flags with final := false } first fuel
      run flags second fuel
    | .and first second =>
      run ⟨true, false⟩ first fuel
      if (← Step.process).status = 0 then run flags second fuel
    | .or first second =>
      run ⟨true, false⟩ first fuel
      if (← Step.process).status ≠ 0 then run flags second fuel
    | .not body =>
      run ⟨true, false⟩ body fuel
      Step.setStatus (if (← Step.process).status = 0 then 1 else 0)
    | .pipeline commands =>
      notePrograms commands
      Step.setStatus (← pipeline flags commands fuel)
      Builtin.receive
      actions fuel
      settle flags
    | .background body targets =>
      background body targets
      Step.setStatus 0
    | .subshell line body targets =>
      atLine line
      let prepared ← targets.mapM (Redirecting.prepare fun body => substitute body fuel)
      writers prepared fuel
      let status ← isolated flags.final true id <| ending (do
        prepared.forM (Redirecting.apply fun body => substitute body fuel)
        run { flags with final := true } body fuel) fuel
      Step.setStatus status
      Builtin.receive
      actions fuel
      settle flags
    | .redirected line body targets =>
      atLine line
      let prepared ← targets.mapM (Redirecting.prepare fun body => substitute body fuel)
      writers prepared fuel
      withDescriptors do
        if ← Redirecting.applyAll (fun body => substitute body fuel) prepared then
          run { flags with final := false } body fuel
    | .choice test body otherwise =>
      run ⟨true, false⟩ test fuel
      if (← Step.process).status = 0 then run flags body fuel
      else
        match otherwise with
        | .nothing => Step.setStatus 0
        | otherwise => run flags otherwise fuel
    | .loop inverted test body =>
      let level := (← Step.process).loops + 1
      Step.modifyProcess fun process => { process with loops := level }
      rounds flags.tested inverted test body level 0 fuel
      Step.modifyProcess fun process => { process with loops := level - 1 }
    | .each line name words body =>
      atLine line
      let values ← otherFields (fun body => substitute body fuel) false words
      let level := (← Step.process).loops + 1
      if values.isEmpty then Step.setStatus 0
      Step.modifyProcess fun process => { process with loops := level }
      eachRound flags.tested name body level values fuel
      Step.modifyProcess fun process => { process with loops := level - 1 }
    | .select line word arms =>
      atLine line
      let text ← Expansion.wordText (fun body => substitute body fuel) word
      match ← armFor text arms fuel with
      | none | some .nothing => Step.setStatus 0
      | some body => run flags body fuel
    | .define name body =>
      Step.modifyProcess fun process =>
        { process with
          functions := (name, body) ::
            process.functions.filter fun (other, _) => other ≠ name }
      Step.setStatus 0
termination_by structural n => n

def actions : (fuel : Nat) → Step Unit
  | 0 => return
  | fuel + 1 => do
    let process ← Step.process
    match process.signals with
    | [] => return
    | signal :: others =>
      Step.modifyProcess fun process => { process with signals := others }
      match process.traps.lookup signal with
      | some action =>
        script ⟨false, false⟩ action fuel
        Step.setStatus process.status
      | none => pure ()
      actions fuel
termination_by structural n => n

def rounds (tested inverted : Bool) (test body : Command) (level status : Nat) :
    (fuel : Nat) → Step Unit
  | 0 => throw .exit
  | fuel + 1 => do
    match ← once level (run ⟨true, false⟩ test fuel) with
    | .over => Step.setStatus status
    | .again => rounds tested inverted test body level status fuel
    | .done =>
      if ((← Step.process).status == 0) == inverted then Step.setStatus status
      else
        match ← once level (run ⟨tested, false⟩ body fuel) with
        | .over => return
        | _ => rounds tested inverted test body level (← Step.process).status fuel
termination_by structural n => n

def eachRound (tested : Bool) (name : Octets) (body : Command) (level : Nat)
    (values : List Octets) : (fuel : Nat) → Step Unit
  | 0 => throw .exit
  | fuel + 1 => do
    match values with
    | [] => return
    | value :: rest =>
      Step.assign name value
      match ← once level (run ⟨tested, false⟩ body fuel) with
      | .over => return
      | _ => eachRound tested name body level rest fuel
termination_by structural n => n

def armFor (text : Octets) (arms : List (List Word × Command)) :
    (fuel : Nat) → Step (Option Command)
  | 0 => return none
  | fuel + 1 => do
    match arms with
    | [] => return none
    | ([], _) :: rest => armFor text rest fuel
    | (word :: words, body) :: rest =>
      let pattern ← Expansion.pattern (fun body => substitute body fuel) word
      if pattern.matches text then return some body
      armFor text ((words, body) :: rest) fuel
termination_by structural n => n

def pipeline (flags : Flags) (commands : List Command) : (fuel : Nat) → Step Nat
  | 0 => return 0
  | fuel + 1 => do
    let before ← get
    tryCatch (stages flags none commands fuel) fun stop => do
      let limit := before.world.pipeLimit
      if stop = .starved && limit < pipeLimits.2 then
        set { before with world := { before.world with pipeLimit := min (16 * limit) pipeLimits.2 } }
        pipeline flags commands fuel
      else throw stop
termination_by structural n => n

def stages (flags : Flags) (input : Option Nat) (commands : List Command) :
    (fuel : Nat) → Step Nat
  | 0 => return 0
  | fuel + 1 => do
    match commands with
    | [] => return 0
    | command :: rest =>
      let output ←
        if rest.isEmpty then pure none
        else some <$> Step.addStream ⟨.memory [] [] 0 .pipe, true, true⟩
      let outer ← Step.process
      let status ← tryCatch (isolated false true id <| ending (do
        if input.isSome then Step.setDescriptor 0 input
        if output.isSome then Step.setDescriptor 1 output
        run ⟨flags.tested, true⟩ command fuel) fuel) fun stop => do
          match stop, output with
          | .starved, some index =>
            -- What was written so far is all that comes before the command waits.
            Step.modifyProcess fun _ => outer
            Step.cutOff index
            return 141
          | stop, _ => throw stop
      if rest.isEmpty then return status
      stages flags output rest fuel
termination_by structural n => n

def ending (step : Step Unit) : (fuel : Nat) → Step Unit
  | 0 => step
  | fuel + 1 => do
    tryCatch step fun stop =>
      match stop with
      | .killed number signal => throw (.killed number signal)
      | .starved => throw .starved
      | _ => return
    match (← Step.process).traps.lookup 0 with
    | none => return
    | some action =>
      let status := (← Step.process).status
      Step.modifyProcess fun process =>
        { process with
          traps := process.traps.filter fun (signal, _) => signal ≠ 0
          leaving := some status
          loops := 0 }
      let stop? ← tryCatch (do
        script ⟨false, false⟩ action fuel
        return none) fun stop => return some stop
      match stop? with
      | some (.killed number signal) => throw (.killed number signal)
      | some .starved => throw .starved
      | some .exit => return
      | some .fault => return
      | _ => Step.setStatus status
termination_by structural n => n

def substitute (body : Command) : (fuel : Nat) → Step Octets
  | 0 => return []
  | fuel + 1 => do
    match body with
    | .nothing =>
      Step.modifyProcess fun process => { process with substituted := 0 }
      return []
    | body =>
      let index ← Step.addStream ⟨.memory [] [] 0 .all, true, true⟩
      let status ← isolated false true id <| ending (do
        Step.setDescriptor 1 (some index)
        run ⟨false, true⟩ body fuel) fuel
      Step.modifyProcess fun process => { process with substituted := status }
      Builtin.receive
      let text := match (← get).world.streams[index]? with
        | some ⟨.memory front back _ _, _, _⟩ => front ++ back.reverse.flatten
        | _ => []
      Step.setTarget index .nowhere
      let text := if text.contains '\x00' then text.filter (· ≠ '\x00') else text
      return (text.reverse.dropWhile (· = '\n')).reverse
termination_by structural n => n

def script (flags : Flags) (text : Octets) : (fuel : Nat) → Step Unit
  | 0 => throw .exit
  | fuel + 1 => do
    let process ← Step.process
    scriptLines flags { rest := text, documents := process.documents } true fuel
termination_by structural n => n

def scriptLines (flags : Flags) (source : Source) (empty : Bool) : (fuel : Nat) → Step Unit
  | 0 => throw .exit
  | fuel + 1 => do
    let aliases := (← Step.process).aliases
    let documents := (← Step.process).documents
    match Reading.line?.run { source with aliases, documents } with
    | .error fault =>
      Step.modifyProcess fun process => { process with line := fault.line }
      Step.refuse fault.message.toList
    | .ok (none, _) => if empty then Step.setStatus 0
    | .ok (some .nothing, source) => scriptLines flags source empty fuel
    | .ok (some command, source) =>
      Step.modifyProcess fun process => { process with documents := source.documents }
      run { flags with final := false } command fuel
      scriptLines flags source false fuel
termination_by structural n => n

def simple (flags : Flags) (line : Nat) (assignments words : List Word)
    (targets : List Redirection) : (fuel : Nat) → Step Unit
  | 0 => throw .exit
  | fuel + 1 => do
    atLine line
    Step.modifyProcess fun process => { process with substituted := 0 }
    let substitute : Expansion.Substitute := fun body => substitute body fuel
    let (first, rest) ← firstFields substitute words
    let declaration :=
      match first with
      | [name] =>
        Builtin.declares (String.ofList name) ||
          (name = "command" &&
            (rest.head?.bind Word.plain?).any fun next => Builtin.declares (String.ofList next))
      | _ => false
    let arguments := first ++ (← otherFields substitute declaration rest)
    let traced := (← Step.process).descriptors.lookup 2
    let prepared ← targets.mapM (Redirecting.prepare substitute)
    writers prepared fuel
    match arguments with
    | [] =>
      withDescriptors do
        if ← Redirecting.applyAll substitute prepared then
          let shown ← assignments.mapM fun word => do
            let (name, value) ← expandAssignment substitute word
            Step.assign name value
            return name ++ '=' :: value
          if (← Step.process).switches.trace && !shown.isEmpty then trace traced shown []
          Step.setStatus (← Step.process).substituted
    | name :: _ =>
      let kind ← kindOf name
      match kind with
      | .builtin "exec" =>
        if ← Redirecting.applyAll substitute prepared then
          assignments.forM fun word => do
            let (name, value) ← expandAssignment substitute word
            Step.assign name value
            if 1 < arguments.length then
              Step.mark name fun content => { content with exported := true }
          if (← Step.process).switches.trace then trace traced [] arguments
          named name true (replace (arguments.drop 1) fuel)
        else throw .fault
      | .builtin text =>
        let special := Builtin.isSpecial text
        withDescriptors do
          if ← Redirecting.applyAll substitute prepared then
            let body (assign : Octets → Octets → Step Unit) : Step Unit := do
              let shown ← assignments.mapM fun word => do
                let (name, value) ← expandAssignment substitute word
                assign name value
                return name ++ '=' :: value
              if (← Step.process).switches.trace then trace traced shown arguments
              builtin flags special name arguments fuel
            if special then body Step.assign
            else if assignments.isEmpty then body fun _ _ => return
            else Step.framed (body assignOwn)
          else if special then throw .fault
      | kind =>
        withDescriptors do
          if ← Redirecting.applyAll substitute prepared then
            let body : Step Unit := do
              let shown ← assignments.mapM fun word => do
                let (name, value) ← expandAssignment substitute word
                assignOwn name value
                return name ++ '=' :: value
              if (← Step.process).switches.trace then trace traced shown arguments
              match kind with
              | .function body => call flags body (arguments.drop 1) fuel
              | _ => Step.setStatus (← program flags (← searchPath) arguments fuel)
            Step.framed body
termination_by structural n => n

def builtin (flags : Flags) (special : Bool) (name : Octets) (arguments : List Octets) :
    (fuel : Nat) → Step Unit
  | 0 => throw .exit
  | fuel + 1 => do
    let operands := arguments.drop 1
    match String.ofList name with
    | "eval" =>
      if operands.isEmpty then Step.setStatus 0
      else
        named name special (do
          script { flags with final := false } (Expansion.joinWith [' '] operands) fuel
          return (← Step.process).status)
    | "." => named name special (source operands fuel)
    | "command" => command flags operands fuel
    | "wait" => named name special (wait operands fuel)
    | "type" => named name special (typeOf operands)
    | "fc" => named name special (return 0)
    | "hash" => named name special (hashed operands)
    | text =>
      match Builtin.find? text with
      | some act => named name special (act operands)
      | none => Step.setStatus 127
termination_by structural n => n

def command (flags : Flags) (operands : List Octets) : (fuel : Nat) → Step Unit
  | 0 => throw .exit
  | fuel + 1 => do
    match commandWords operands with
    | some (standard, arguments) =>
      let name := arguments.headD []
      let path ← if standard then pure Host.searchPath else searchPath
      if name.contains '/' || !Builtin.isBuiltin (String.ofList name) then
        Step.setStatus (← program flags path arguments fuel)
      else if name = "exec" then named name false (replace (arguments.drop 1) fuel)
      else builtin flags false name arguments fuel
    | none =>
      named "command" false (do
        let (letters, names) ← Builtin.options "pvV" "" operands
        match letters.getLast?, names with
        | some ('v', _), name :: _ => describe false name
        | some ('V', _), name :: _ => describe true name
        | _, _ => return 0)
termination_by structural n => n

def source (operands : List Octets) : (fuel : Nat) → Step Nat
  | 0 => throw .exit
  | fuel + 1 => do
    let (_, operands) ← Builtin.options "" "" operands
    match operands with
    | [] => return 0
    | path :: _ =>
      let files ← Step.files
      let search ← searchPath
      let found : Option Octets :=
        if path.contains '/' then some path
        else
          ((Host.directoriesIn search).find?
            fun directory => files.isFile (Path.join directory (Text.ofOctets path))).map
              fun directory => Text.octets (Path.join directory (Text.ofOctets path))
      match found with
      | none => Step.refuse (path ++ ": not found")
      | some path =>
        match scriptText files (Text.ofOctets path) with
        | .error fault =>
          Step.refuse ("cannot open " ++ path ++ ": " ++
            (Redirecting.reason .reading fault).toList)
        | .ok text =>
          Step.modifyProcess fun process => { process with command := some path }
          tryCatch (script ⟨false, false⟩ text fuel) fun stop =>
            if stop = .give then return else throw stop
          return (← Step.process).status
termination_by structural n => n

def call (flags : Flags) (body : Command) (arguments : List Octets) :
    (fuel : Nat) → Step Unit
  | 0 => throw .exit
  | fuel + 1 => do
    let before ← Step.process
    if depthLimit < before.depth then throw (.killed before.number 11)
    if callLimit ≤ before.calls then
      Step.refuse s!"Maximum function recursion depth ({callLimit}) reached"
    let restore : Step Unit :=
      Step.modifyProcess fun process =>
        { process with
          arguments := before.arguments
          loops := before.loops
          depth := before.depth
          calls := before.calls
          optionOffset := before.optionOffset }
    Step.modifyProcess (withArguments arguments)
    tryCatch (run { flags with final := false } body fuel) fun stop => do
      if stop = .give then return
      restore
      throw stop
    restore
termination_by structural n => n

def replace (operands : List Octets) : (fuel : Nat) → Step Nat
  | 0 => throw .exit
  | fuel + 1 => do
    let (_, operands) ← Builtin.options "" "" operands
    match operands with
    | [] => return 0
    | name :: _ =>
      match ← locateFor (← searchPath) operands with
      | .error fault =>
        Step.complain (name ++ ": " ++ (programFault fault).toList)
        Step.setStatus (Tool.startStatus fault)
        throw .exit
      | .ok (path, content) =>
        Step.modifyProcess fun process => { process with traps := [] }
        Step.arrangeVariables
        let status ← launch true true path content operands fuel
        Step.setStatus status
        throw .exit
termination_by structural n => n

def program (flags : Flags) (path : String) (arguments : List Octets) : (fuel : Nat) → Step Nat
  | 0 => throw .exit
  | fuel + 1 => do
    let name := arguments.headD []
    let standing ← searchPath
    match ← locateFor path arguments with
    | .error fault =>
      Step.complain (name ++ ": " ++ (programFault fault).toList)
      return startStatus name fault
    | .ok (file, content) =>
      if path = standing then noteFound name
      jobs false fuel
      Step.arrangeVariables
      let status ← launch flags.final true file content arguments fuel
      Builtin.receive
      return status
termination_by structural n => n

def jobs (all : Bool) : (fuel : Nat) → Step Unit
  | 0 => return
  | fuel + 1 => do
    match (← get).world.jobs.find? fun job => all || !waits 100 job.body with
    | none => return
    | some job =>
      Step.modifyWorld fun world =>
        { world with jobs := world.jobs.filter fun other => other.number ≠ job.number }
      let outer ← Step.process
      Step.modifyProcess fun _ => { job.process with number := job.number }
      let stop? ← tryCatch (do
        ending (run ⟨false, true⟩ job.body fuel) fuel
        return none) fun stop => return some stop
      let ended := (← Step.process).status
      let outcome : Outcome := match stop? with
        | some (.killed _ signal) => .killed signal
        | _ => .exited ended
      Step.modifyProcess fun _ => outer
      if stop? = some .starved then throw .starved
      Step.modifyWorld fun world =>
        { world with finished := (job.number, outcome) :: world.finished }
      jobs all fuel
termination_by structural n => n

def writers (targets : List Redirecting.Prepared) : (fuel : Nat) → Step Unit
  | 0 => return
  | fuel + 1 => do
    let files ← Step.files
    if targets.any (·.waits files) then jobs false fuel
termination_by structural n => n

def wait (operands : List Octets) : (fuel : Nat) → Step Nat
  | 0 => return 0
  | fuel + 1 => do
    let (_, operands) ← Builtin.options "" "" operands
    jobs true fuel
    if operands.isEmpty then
      (← Step.process).slots.forM fun slot => Builtin.noteWaited slot.number
      return 0
    let statuses ← operands.filterMapM fun text => do
      let number ← if text.head? = some '%' then
          pure (← Builtin.jobNamed (some text)).number
        else Builtin.number text
      let slot? := (← Step.process).slots.find? fun slot => slot.number = number
      match slot?, (← get).world.finished.lookup number with
      | some slot, some outcome =>
        Builtin.noteWaited number
        match outcome with
        | .killed signal =>
          if !slot.waited && !slot.noticed && signal ≠ 2 && signal ≠ 13 then
            Step.report (Builtin.signalReport signal).toList
        | .exited _ => pure ()
        return some outcome.status
      | _, _ => return none
    return statuses.getLast?.getD 127
termination_by structural n => n

def launch (final told : Bool) (path : String) (content : Octets) (arguments : List Octets) :
    (fuel : Nat) → Step Nat
  | 0 => return 0
  | fuel + 1 => do
    let name := arguments.headD []
    let operands := arguments.drop 1
    match Host.toolOf? content with
    | some tool =>
      isolated final told (fun process => { process with command := some name, lost := none }) do
        let status ← match tool with
          | "sh" | "dash" | "bash" => do
            shell name operands fuel
            pure (← Step.process).status
          | tool =>
            match Tool.find? tool, Tool.starter? tool with
            | some act, _ => act operands
            | none, some act => act (fun last arguments => start last arguments fuel) operands
            | none, none => pure 1
        match (← Step.process).lost with
        | none => Step.setStatus status
        | some fault =>
          let (complaints, status) := Tool.losing tool fault
          complaints.forM Tool.complain
          Step.setStatus status
    | none =>
      match interpreterLine? content with
      | some (interpreter, argument) =>
        match ← locate "" interpreter with
        | .ok (found, content) =>
          let extra := argument.toList
          launch final told found content
            (interpreter :: extra ++ Text.octets path :: operands) fuel
        | .error _ =>
          Step.complain (name ++ ": not found")
          return 127
      | none =>
        isolated final told id do
          shell "sh" (Text.octets path :: operands) fuel
termination_by structural n => n

def start (last : Bool) (arguments : List Octets) : (fuel : Nat) → Step (Except FileFault Nat)
  | 0 => return .ok 0
  | fuel + 1 => do
    let path := ((← Step.value? "PATH").map Text.ofOctets).getD "/bin:/usr/bin"
    match ← locateFor path arguments with
    | .error fault => return .error fault
    | .ok (path, content) => return .ok (← launch last last path content arguments fuel)
termination_by structural n => n

def shell (name : Octets) (operands : List Octets) : (fuel : Nat) → Step Unit
  | 0 => return
  | fuel + 1 => do
    let environment ← Step.environment
    let trail := inheritedTrail (← Step.files) environment
    Step.modifyProcess (freshProcess name environment trail)
    atLine 0
    let call? ← tryCatch (some <$> Builtin.setSwitches true false (operands.length + 1) operands)
      fun stop => if stop = .fault then return none else throw stop
    match call? with
    | none => return
    | some call =>
      let switches := (← Step.process).switches
      if switches.isOn 'i' then Builtin.setSwitch 'm' true
      let arguments := call.arguments.getD []
      if !call.takesCommand && arguments.isEmpty then Builtin.setSwitch 's' true
      match call.takesCommand, arguments with
      | true, [] =>
        Step.complain "-c requires an argument"
        Step.setStatus 2
      | true, text :: arguments =>
        atLine 1
        Step.modifyProcess fun process =>
          { process with name := arguments.headD name, arguments := arguments.drop 1 }
        ending (script ⟨false, false⟩ text fuel) fuel
        jobs true fuel
      | false, arguments =>
        if (← Step.process).switches.isOn 's' then
          atLine 1
          Step.modifyProcess fun process => { process with arguments }
          match ← Step.readAll 0 with
          | .ok text =>
            ending (script ⟨false, false⟩ text fuel) fuel
            jobs true fuel
          | .error _ => return
        else runFile name arguments fuel
termination_by structural n => n

def runFile (name : Octets) (arguments : List Octets) : (fuel : Nat) → Step Unit
  | 0 => return
  | fuel + 1 => do
    let path := arguments.headD []
    match scriptText (← Step.files) (Text.ofOctets path) with
    | .ok text =>
      atLine 1
      Step.modifyProcess fun process => { process with name := path, arguments := arguments.drop 1 }
      ending (script ⟨false, false⟩ text fuel) fuel
      jobs true fuel
    | .error fault =>
      Step.modifyProcess fun process => { process with name, line := 0 }
      Step.complain ("cannot open " ++ path ++ ": " ++
        (Redirecting.reason .reading fault).toList)
      Step.setStatus 2
termination_by structural n => n

end

def fuel : Nat := 1000000000

end Modelsmith.Shell.Interpreter
