import Modelsmith.Text.Utf8

/-! Names in complaints: a text is shown so that none of its characters is mistaken for
another. -/

set_option autoImplicit false

namespace Modelsmith.Shell.Tool

def escapeLetter? : Char → Option Char
  | '\x07' => some 'a'
  | '\x08' => some 'b'
  | '\t' => some 't'
  | '\n' => some 'n'
  | '\x0b' => some 'v'
  | '\x0c' => some 'f'
  | '\r' => some 'r'
  | _ => none

def isPrintable (c : Char) : Bool := 32 ≤ c.toNat && c.toNat < 127

def escaped (c : Char) : Octets :=
  '\\' :: match escapeLetter? c with
    | some letter => [letter]
    | none =>
      let digits := Nat.toDigits 8 c.toNat
      List.replicate (3 - digits.length) '0' ++ digits

def cited (text : Octets) : Octets :=
  '\x27' :: (text.flatMap fun c =>
    if c = '\\' || c = '\x27' then ['\\', c] else if isPrintable c then [c] else escaped c) ++
      ['\x27']

def singleQuoted (inEscape : Bool) : Octets → Octets
  | [] => ['\x27']
  | c :: rest =>
    if c = '\x27' then "'\\''" ++ singleQuoted false rest
    else if isPrintable c then
      (if inEscape then ['\x27', '\x27'] else []) ++ c :: singleQuoted false rest
    else (if inEscape then [] else "'$'") ++ escaped c ++ singleQuoted true rest

def isPlainInQuotes (first alone : Bool) (c : Char) : Bool :=
  c.isAlphanum || " %+,-./:]_@'".toList.contains c ||
    (first && (c = '#' || c = '~')) || (alone && (c = '\x7b' || c = '\x7d'))

def quoted (text : Octets) : Octets :=
  let plain := text.zipIdx.all fun (c, index) => isPlainInQuotes (index = 0) (text.length = 1) c
  if plain && text.contains '\x27' then '"' :: text ++ ['"']
  else '\x27' :: singleQuoted false text

def shown (text : Octets) : Octets :=
  let special := "?\\ !\"$&()*;<=>[^\x60|':".toList
  let alone := text.length = 1
  let safe := text.zipIdx.all fun (c, index) =>
    isPrintable c && !special.contains c &&
      !(index = 0 && (c = '#' || c = '~')) && !(alone && (c = '\x7b' || c = '\x7d'))
  if safe && !text.isEmpty then text else quoted text

end Modelsmith.Shell.Tool
