import Modelsmith.Shell.Reader.Source

/-! Reading scripts.

A script is read line by line, so that a line can run before the next one is looked at. Commands
that are substituted in words are read along with the words.
-/

set_option autoImplicit false

namespace Modelsmith.Shell.Reading

structure Look where
  lines : Bool
  keywords : Bool
  aliases : Bool

namespace Look

def nothing : Look := ⟨false, false, false⟩

def command : Look := ⟨false, true, true⟩

def anywhere : Look := ⟨true, true, true⟩

def arm : Look := ⟨true, true, false⟩

def named : Look := ⟨false, false, true⟩

end Look

def endsWord (c : Char) : Bool := " \t\n;&|()<>".toList.contains c

def isActive (c : Char) : Bool := "\\'\"$\x60".toList.contains c

def isEscapable (c : Char) : Bool := "\\\"$\x60".toList.contains c

def specialUtilities : List String :=
  [".", ":", "break", "continue", "eval", "exec", "exit", "export", "readonly", "return", "set",
    "shift", "times", "trap", "unset", "local"]

def formOf? (empty : Bool) : Char → Option Form
  | '-' => some (.orDefault empty)
  | '=' => some (.orAssign empty)
  | '?' => some (.orFail empty)
  | '+' => some (.alternative empty)
  | _ => none

def singleQuoted : Reading Octets := do
  let text ← chunk (· = '\x27')
  if (← peekRaw) = none then fail "Unterminated quoted string"
  skip
  return text

def operator : Reading (Option (Form × Bool)) := do
  match ← peek with
  | some '\x7d' =>
    skip
    return none
  | some '#' =>
    skip
    return some (.dropFront (← skipIf '#'), true)
  | some '%' =>
    skip
    return some (.dropBack (← skipIf '%'), true)
  | some ':' =>
    skip
    match ← peek with
    | some c =>
      skip
      return some ((formOf? true c).getD .faulty, false)
    | none => return some (.faulty, false)
  | some c =>
    skip
    return some ((formOf? false c).getD .faulty, false)
  | none => return some (.faulty, false)

def bracedName (fuel : Nat) : Reading (Option (Octets × Bool)) := do
  match ← peek with
  | none => return none
  | some c =>
    if isNameStart c then return some (← nameChars isNameChar fuel, false)
    else if c.isDigit then return some (← nameChars Char.isDigit fuel, false)
    else if c = '\x7d' then return none
    else if c = '#' then
      skip
      match ← peek with
      | none => return some (['#'], false)
      | some next =>
        if isNameStart next then return some (← nameChars isNameChar fuel, true)
        else if next.isDigit then return some (← nameChars Char.isDigit fuel, true)
        else
          let rest := (joined ((← get).rest.drop 1) 0).1
          if next = '\x7d' || rest.head? ≠ some '\x7d' then return some (['#'], false)
          else if isSpecialName next then
            skip
            return some ([next], true)
          else return none
    else if isSpecialName c then
      skip
      return some ([c], false)
    else
      skip
      return none

def redirectionSign (descriptor : Option Nat) : Reading Token := do
  if ← skipIf '>' then
    if ← skipIf '>' then return .file descriptor .appending
    if ← skipIf '|' then return .file descriptor .overwriting
    if ← skipIf '&' then return .duplicate descriptor true
    return .file descriptor .writing
  skip
  if ← skipIf '<' then return .document descriptor (← skipIf '-')
  if ← skipIf '&' then return .duplicate descriptor false
  if ← skipIf '>' then return .file descriptor .both
  return .file descriptor .reading

mutual

def dollar (double : Bool) : (fuel : Nat) → Reading Word
  | 0 => fail "Unterminated quoted string"
  | fuel + 1 => do
    match ← peek with
    | some '(' =>
      skip
      if ← skipIf '(' then return [.arithmetic double (← arithmeticText 0 fuel)]
      let outer ← get
      set { outer with waiting := [], again := false }
      let body ← list .anywhere true fuel
      match ← token .nothing fuel with
      | .close =>
        modify fun source =>
          { source with waiting := outer.waiting, latest := outer.latest, again := outer.again }
        return [.output double body]
      | _ => expected .close
    | some '\x7b' =>
      skip
      match ← bracedName (← get).rest.length with
      | none => return [.parameter double [] .faulty (← braced double fuel)]
      | some (name, true) =>
        if ← skipIf '\x7d' then return [.parameter double name .length []]
        return [.parameter double name .faulty (← braced double fuel)]
      | some (name, false) =>
        match ← operator with
        | none => return [.parameter double name .plain []]
        | some (form, quotes) =>
          return [.parameter double name form (← braced (double && !quotes) fuel)]
    | some c =>
      if isNameStart c then
        return [.parameter double (← nameChars isNameChar (← get).rest.length) .plain []]
      else if isSpecialName c then
        skip
        return [.parameter double [c] .plain []]
      else return [.literal double ['$']]
    | none => return [.literal double ['$']]
termination_by structural n => n

def backquotes (double : Bool) : (fuel : Nat) → Reading Word
  | 0 => fail "EOF in backquote substitution"
  | fuel + 1 => do
    let outer ← get
    match backquoted double outer.rest with
    | none => fail "EOF in backquote substitution"
    | some (text, rest) =>
      let length := outer.rest.length - rest.length
      set { outer with rest := text, line := 1, again := false, waiting := [] }
      let body ← list .anywhere true fuel
      modify fun source =>
        { outer with
          rest
          line := outer.line + (outer.rest.take length).count '\n'
          documents := source.documents }
      return [.output double body]
termination_by structural n => n

def braced (double : Bool) : (fuel : Nat) → Reading Word
  | 0 => fail "Missing '\x7d'"
  | fuel + 1 => if double then bracedDouble false fuel else bracedPlain fuel
termination_by structural n => n

def bracedPlain : (fuel : Nat) → Reading Word
  | 0 => fail "Missing '\x7d'"
  | fuel + 1 => do
    match ← peek with
    | none => fail "Missing '\x7d'"
    | some '\x7d' =>
      skip
      return []
    | some c =>
      if isActive c then
        let first ← active fuel
        return first ++ (← bracedPlain fuel)
      let text ← chunk fun c => isActive c || c = '\x7d'
      return .literal false text :: (← bracedPlain fuel)
termination_by structural n => n

def bracedDouble (inner : Bool) : (fuel : Nat) → Reading Word
  | 0 => fail "Unterminated quoted string"
  | fuel + 1 => do
    match ← peek with
    | none => fail "Unterminated quoted string"
    | some '\x7d' =>
      skip
      if inner then return .literal true ['\x7d'] :: (← bracedDouble inner fuel)
      return []
    | some '"' =>
      skip
      return .literal true [] :: (← bracedDouble (!inner) fuel)
    | some '\\' =>
      skip
      match ← peekRaw with
      | none => fail "Unterminated quoted string"
      | some c =>
        skip
        let text := if isEscapable c || c = '\x7d' then [c] else ['\\', c]
        return .literal true text :: (← bracedDouble inner fuel)
    | some '$' =>
      skip
      let first ← dollar true fuel
      return first ++ (← bracedDouble inner fuel)
    | some '\x60' =>
      skip
      let first ← backquotes true fuel
      return first ++ (← bracedDouble inner fuel)
    | some _ =>
      let text ← chunk fun c => isEscapable c || c = '\x7d'
      return .literal true text :: (← bracedDouble inner fuel)
termination_by structural n => n

def doubleQuoted : (fuel : Nat) → Reading Word
  | 0 => fail "Unterminated quoted string"
  | fuel + 1 => do
    match ← peek with
    | none => fail "Unterminated quoted string"
    | some '"' =>
      skip
      return []
    | some '\\' =>
      skip
      match ← peekRaw with
      | none => fail "Unterminated quoted string"
      | some c =>
        skip
        let text := if isEscapable c then [c] else ['\\', c]
        return .literal true text :: (← doubleQuoted fuel)
    | some '$' =>
      skip
      let first ← dollar true fuel
      return first ++ (← doubleQuoted fuel)
    | some '\x60' =>
      skip
      let first ← backquotes true fuel
      return first ++ (← doubleQuoted fuel)
    | some _ =>
      let text ← chunk isEscapable
      return .literal true text :: (← doubleQuoted fuel)
termination_by structural n => n

def arithmeticText (level : Nat) : (fuel : Nat) → Reading Word
  | 0 => fail "Missing '))'"
  | fuel + 1 => do
    match ← peek with
    | none => fail "Missing '))'"
    | some '(' =>
      skip
      return .literal true ['('] :: (← arithmeticText (level + 1) fuel)
    | some ')' =>
      skip
      if level = 0 then
        if ← skipIf ')' then return []
        return .literal true [')'] :: (← arithmeticText 0 fuel)
      return .literal true [')'] :: (← arithmeticText (level - 1) fuel)
    | some '\\' =>
      skip
      match ← peekRaw with
      | none => fail "Missing '))'"
      | some c =>
        skip
        let text := if isEscapable c then [c] else ['\\', c]
        return .literal true text :: (← arithmeticText level fuel)
    | some '$' =>
      skip
      let first ← dollar true fuel
      return first ++ (← arithmeticText level fuel)
    | some '\x60' =>
      skip
      let first ← backquotes true fuel
      return first ++ (← arithmeticText level fuel)
    | some _ =>
      let text ← chunk fun c => "()\\$\x60".toList.contains c
      return .literal true text :: (← arithmeticText level fuel)
termination_by structural n => n

def documentText : (fuel : Nat) → Reading Word
  | 0 => return []
  | fuel + 1 => do
    match ← peek with
    | none => return []
    | some '\\' =>
      skip
      match ← peekRaw with
      | none => return [.literal true ['\\']]
      | some c =>
        skip
        let text := if c ≠ '"' && isEscapable c then [c] else ['\\', c]
        return .literal true text :: (← documentText fuel)
    | some '$' =>
      skip
      let first ← dollar true fuel
      return first ++ (← documentText fuel)
    | some '\x60' =>
      skip
      let first ← backquotes true fuel
      return first ++ (← documentText fuel)
    | some _ =>
      let text ← chunk fun c => "\\$\x60".toList.contains c
      return .literal true text :: (← documentText fuel)
termination_by structural n => n

def documents : (fuel : Nat) → Reading Unit
  | 0 => return
  | fuel + 1 => do
    let source ← get
    match source.waiting with
    | [] => return
    | waiting :: others =>
      let lines := splitLines source.rest
      let (text, after) := documentLines waiting false lines
      let read : Source := { source with
        waiting := others
        rest := joinLines after
        line := source.line + (lines.length - after.length) }
      set { source with waiting := [], rest := text }
      let word ← if waiting.verbatim then pure [.literal true text] else documentText fuel
      modify fun inner =>
        { read with documents := inner.documents.setIfInBounds waiting.index word }
      documents fuel
termination_by structural n => n

def active : (fuel : Nat) → Reading Word
  | 0 => fail "Unterminated quoted string"
  | fuel + 1 => do
    match ← peek with
    | some '\x27' =>
      skip
      return [.literal true (← singleQuoted)]
    | some '"' =>
      skip
      let inner ← doubleQuoted fuel
      match inner with
      | .parameter _ ['@'] .plain _ :: _ => return inner
      | _ => return .literal true [] :: inner
    | some '$' =>
      skip
      dollar false fuel
    | some '\x60' =>
      skip
      backquotes false fuel
    | _ =>
      skip
      match ← peekRaw with
      | none => return [.literal true ['\\']]
      | some c =>
        skip
        return [.literal true [c]]
termination_by structural n => n

def wordText (delimiter : Bool) : (fuel : Nat) → Reading Word
  | 0 => return []
  | fuel + 1 => do
    match ← peek with
    | none => return []
    | some c =>
      if endsWord c then return []
      if delimiter && c = '$' then
        skip
        return .literal false ['$'] :: (← wordText delimiter fuel)
      if isActive c then
        let first ← active fuel
        return first ++ (← wordText delimiter fuel)
      let text ← chunk fun c => isActive c || endsWord c
      return .literal false text :: (← wordText delimiter fuel)
termination_by structural n => n

def rawToken (delimiter : Bool) : (fuel : Nat) → Reading Token
  | 0 => take .finish
  | fuel + 1 => do
    let source ← get
    if source.again then
      set { source with again := false }
      return source.latest
    match ← peek with
    | none => take .finish
    | some ' ' | some '\t' =>
      skip
      rawToken delimiter fuel
    | some '#' =>
      let _ ← chunk (· = '\n')
      rawToken delimiter fuel
    | some '\n' =>
      skip
      take .newline
    | some '&' =>
      skip
      take (if ← skipIf '&' then .and else .background)
    | some '|' =>
      skip
      take (if ← skipIf '|' then .or else .pipe)
    | some ';' =>
      skip
      take (if ← skipIf ';' then .endArm else .semicolon)
    | some '(' =>
      skip
      take .open
    | some ')' =>
      skip
      take .close
    | some _ =>
      let word ← wordText delimiter fuel
      let next ← peek
      match word.plain? with
      | some text =>
        if (next = some '<' || next = some '>') && text.length < 2 && text.all Char.isDigit then
          take (← redirectionSign (text.head?.map fun c => c.toNat - '0'.toNat))
        else take (.word word)
      | none => take (.word word)
termination_by structural n => n

def token (look : Look) : (fuel : Nat) → Reading Token
  | 0 => take .finish
  | fuel + 1 => do
    match ← rawToken false fuel with
    | .newline =>
      if look.lines then
        documents fuel
        token look fuel
      else return .newline
    | .word word =>
      match word.plain? with
      | none => return .word word
      | some text =>
        let name := String.ofList text
        if look.keywords && Token.keywords.contains name then take (.keyword name)
        else if look.aliases then
          if ← expandAlias text then token look fuel else return .word word
        else return .word word
    | found => return found
termination_by structural n => n

def redirection (sign : Token) : (fuel : Nat) → Reading Redirection
  | 0 => unexpected
  | fuel + 1 => do
    match sign with
    | .document descriptor stripped =>
      match ← rawToken true fuel with
      | .word word =>
        let source ← get
        let index := source.documents.size
        let waiting : Waiting := ⟨index, word.text, word.isQuoted, stripped⟩
        set { source with
          waiting := source.waiting ++ [waiting]
          documents := source.documents.push [] }
        return .document (descriptor.getD 0) index
      | _ => unexpected
    | .file descriptor opening =>
      match ← token .nothing fuel with
      | .word word => return .file (descriptor.getD (if opening = .reading || opening = .both
          then 0 else 1)) opening word
      | _ => unexpected
    | .duplicate descriptor output =>
      match ← token .nothing fuel with
      | .word word => return .duplicate (descriptor.getD (if output then 1 else 0)) word
      | _ => unexpected
    | _ => unexpected
termination_by structural n => n

def redirections : (fuel : Nat) → Reading (List Redirection)
  | 0 => unexpected
  | fuel + 1 => do
    let sign ← token .command fuel
    match sign with
    | .file _ _ | .duplicate _ _ | .document _ _ =>
      let first ← redirection sign fuel
      return first :: (← redirections fuel)
    | _ =>
      pushBack
      return []
termination_by structural n => n

def list (look : Look) (empty : Bool) : (fuel : Nat) → Reading Command
  | 0 => unexpected
  | fuel + 1 => do
    match ← token look fuel with
    | .finish =>
      documents fuel
      let _ ← take .finish
      pushBack
      return .nothing
    | .newline =>
      documents fuel
      return .nothing
    | first =>
      pushBack
      if empty && look.lines && first.endsList then return .nothing
      let command ← andOr fuel
      let next ← token .nothing fuel
      let command := match next, command with
        | .background, .redirected _ body targets => .background body targets
        | .background, command => .background command []
        | _, command => command
      let more ← match next with
        | .newline | .finish =>
          pushBack
          list look true fuel
        | .background | .semicolon => list look true fuel
        | _ =>
          if !look.lines then unexpected
          pushBack
          pure .nothing
      match more with
      | .nothing => return command
      | more => return .sequence command more
termination_by structural n => n

def andOr : (fuel : Nat) → Reading Command
  | 0 => unexpected
  | fuel + 1 => do
    let first ← pipeline .nothing fuel
    andOrAfter first fuel
termination_by structural n => n

def andOrAfter (first : Command) : (fuel : Nat) → Reading Command
  | 0 => unexpected
  | fuel + 1 => do
    match ← token .nothing fuel with
    | .and =>
      let second ← pipeline .anywhere fuel
      andOrAfter (.and first second) fuel
    | .or =>
      let second ← pipeline .anywhere fuel
      andOrAfter (.or first second) fuel
    | _ =>
      pushBack
      return first
termination_by structural n => n

def pipeline (look : Look) : (fuel : Nat) → Reading Command
  | 0 => unexpected
  | fuel + 1 => do
    let negated := (← token look fuel).isKeyword "!"
    if !negated then pushBack
    let first ← command (if negated then .command else .nothing) fuel
    let others ← stages fuel
    let body := match others with
      | [] => first
      | _ => .pipeline (first :: others)
    return if negated then .not body else body
termination_by structural n => n

def stages : (fuel : Nat) → Reading (List Command)
  | 0 => unexpected
  | fuel + 1 => do
    match ← token .nothing fuel with
    | .pipe =>
      let first ← command .anywhere fuel
      return first :: (← stages fuel)
    | _ =>
      pushBack
      return []
termination_by structural n => n

def keyword (look : Look) (name : String) : (fuel : Nat) → Reading Unit
  | 0 => unexpected
  | fuel + 1 => do
    if !(← token look fuel).isKeyword name then expected (.keyword name)
termination_by structural n => n

def branches : (fuel : Nat) → Reading Command
  | 0 => unexpected
  | fuel + 1 => do
    let test ← list .anywhere false fuel
    keyword .nothing "then" fuel
    let body ← list .anywhere false fuel
    let next ← token .nothing fuel
    if next.isKeyword "elif" then return .choice test body (← branches fuel)
    else if next.isKeyword "else" then
      let otherwise ← list .anywhere false fuel
      keyword .nothing "fi" fuel
      return .choice test body otherwise
    else
      pushBack
      keyword .nothing "fi" fuel
      return .choice test body .nothing
termination_by structural n => n

def eachWords : (fuel : Nat) → Reading (List Word)
  | 0 => unexpected
  | fuel + 1 => do
    match ← token .nothing fuel with
    | .word word => return word :: (← eachWords fuel)
    | .newline | .semicolon => return []
    | _ => unexpected
termination_by structural n => n

def armPatterns (first : Token) : (fuel : Nat) → Reading (List Word)
  | 0 => unexpected
  | fuel + 1 => do
    let word : Word := match first with
      | .word word => word
      | .keyword name => [.literal false name.toList]
      | _ => []
    match ← token .nothing fuel with
    | .pipe =>
      let next ← token .nothing fuel
      return word :: (← armPatterns next fuel)
    | .close => return [word]
    | _ => expected .close
termination_by structural n => n

def arms : (fuel : Nat) → Reading (List (List Word × Command))
  | 0 => unexpected
  | fuel + 1 => do
    let first ← token .arm fuel
    if first.isKeyword "esac" then return []
    let first ← match first with
      | .open => token .nothing fuel
      | other => pure other
    let patterns ← armPatterns first fuel
    let body ← list .anywhere true fuel
    let next ← token .arm fuel
    if next.isKeyword "esac" then return [(patterns, body)]
    match next with
    | .endArm => return (patterns, body) :: (← arms fuel)
    | _ => expected .endArm
termination_by structural n => n

def command (look : Look) : (fuel : Nat) → Reading Command
  | 0 => unexpected
  | fuel + 1 => do
    let line := (← get).line
    let body ← match ← token look fuel with
      | .keyword "if" => branches fuel
      | .keyword "while" => repetition false fuel
      | .keyword "until" => repetition true fuel
      | .keyword "for" => iteration line fuel
      | .keyword "case" => selection line fuel
      | .open => do
        let body ← list .anywhere false fuel
        match ← token .nothing fuel with
        | .close => pure (Command.subshell line body [])
        | _ => expected .close
      | .keyword "\x7b" => do
        let body ← list .anywhere false fuel
        keyword .nothing "\x7d" fuel
        pure body
      | .word _ | .file _ _ | .duplicate _ _ | .document _ _ =>
        pushBack
        return ← simple fuel
      | _ => unexpected
    match ← redirections fuel, body with
    | [], body => return body
    | targets, .subshell line body _ => return .subshell line body targets
    | targets, body => return .redirected line body targets
termination_by structural n => n

def repetition (inverted : Bool) : (fuel : Nat) → Reading Command
  | 0 => unexpected
  | fuel + 1 => do
    let test ← list .anywhere false fuel
    keyword .nothing "do" fuel
    let body ← list .anywhere false fuel
    keyword .nothing "done" fuel
    return .loop inverted test body
termination_by structural n => n

def iteration (line : Nat) : (fuel : Nat) → Reading Command
  | 0 => unexpected
  | fuel + 1 => do
    let name ← match ← token .nothing fuel with
      | .word word =>
        match word.plain? with
        | some text => if isName text then pure text else fail "Bad for loop variable"
        | none => fail "Bad for loop variable"
      | _ => fail "Bad for loop variable"
    let next ← token .anywhere fuel
    let words ← match next with
      | .keyword "in" => eachWords fuel
      | .semicolon => pure [Word.allArguments]
      | _ => do
        pushBack
        pure [Word.allArguments]
    keyword .anywhere "do" fuel
    let body ← list .anywhere false fuel
    keyword .nothing "done" fuel
    return .each line name words body
termination_by structural n => n

def selection (line : Nat) : (fuel : Nat) → Reading Command
  | 0 => unexpected
  | fuel + 1 => do
    match ← token .nothing fuel with
    | .word word =>
      keyword .anywhere "in" fuel
      return .select line word (← arms fuel)
    | _ => expected (.word [])
termination_by structural n => n

def simple : (fuel : Nat) → Reading Command
  | 0 => unexpected
  | fuel + 1 => do
    simpleParts (← get).line [] [] [] fuel
termination_by structural n => n

def simpleParts (line : Nat) (assignments words : List Word) (targets : List Redirection) :
    (fuel : Nat) → Reading Command
  | 0 => unexpected
  | fuel + 1 => do
    let found ← token (if words.isEmpty then .named else .nothing) fuel
    match found with
    | .word word =>
      if words.isEmpty && (assignment? word).isSome then
        simpleParts line (assignments ++ [word]) words targets fuel
      else simpleParts line assignments (words ++ [word]) targets fuel
    | .file _ _ | .duplicate _ _ | .document _ _ =>
      let target ← redirection found fuel
      simpleParts line assignments words (targets ++ [target]) fuel
    | .open =>
      match words, assignments, targets with
      | [word], [], [] =>
        match ← token .nothing fuel with
        | .close =>
          match word.plain? with
          | some name =>
            if !isName name || specialUtilities.contains (String.ofList name) then
              fail "Bad function name"
            return .define name (← command .anywhere fuel)
          | none => fail "Bad function name"
        | _ => expected .close
      | _, _, _ =>
        pushBack
        return .simple line assignments words targets
    | _ =>
      pushBack
      return .simple line assignments words targets
termination_by structural n => n

end

def line? : Reading (Option Command) := do
  let source ← get
  let length := source.rest.length + (source.aliases.map fun (_, text) => text.length).sum
  let fuel := 64 * (length + 16)
  match ← token .command fuel with
  | .finish => return none
  | _ =>
    pushBack
    return some (← list .command false fuel)

end Modelsmith.Shell.Reading
