import Modelsmith.Numeral
import Modelsmith.Text.Utf8

/-! Files one behind another, each under a header. -/

set_option autoImplicit false

namespace Modelsmith.Archive

inductive TapeKind where
  | file (content : Octets)
  | directory
  | link (target : Octets)
  deriving DecidableEq

structure TapeEntry where
  name : Octets
  kind : TapeKind
  mode : Nat
  time : Int

namespace Tape

def blockSize : Nat := 512

def recordSize : Nat := 10240

def textField (width : Nat) (text : Octets) : Octets :=
  text.take width ++ List.replicate (width - text.length) '\x00'

def numberField (width value : Nat) : Octets :=
  let digits := Nat.toDigits 8 value
  List.replicate (width - 1 - digits.length) '0' ++ digits ++ ['\x00']

def padded (size : Nat) (octets : Octets) : Octets :=
  octets ++ List.replicate ((size - octets.length % size) % size) '\x00'

def header (name : Octets) (mode size : Nat) (time : Int) (letter : Char) (target : Octets) :
    Octets :=
  let front := textField 100 name ++ numberField 8 mode ++ numberField 8 0 ++ numberField 8 0 ++
    numberField 12 size ++ numberField 12 time.toNat
  let back := letter :: textField 100 target ++ "ustar  \x00" ++ textField 32 "root" ++
    textField 32 "root"
  let sum := ((front ++ back).map Char.toNat).sum + 8 * 32
  padded blockSize (front ++ numberField 7 sum ++ ' ' :: back)

def encoded (member : TapeEntry) : Octets :=
  let (letter, target, content) : Char × Octets × Octets := match member.kind with
    | .file content => ('0', [], content)
    | .directory => ('5', [], [])
    | .link target => ('2', target, [])
  header member.name (member.mode % 4096) content.length member.time letter target ++
    padded blockSize content

def archive (members : List TapeEntry) : Octets :=
  padded recordSize ((members.map encoded).flatten ++ List.replicate (2 * blockSize) '\x00')

/-! Reading. -/

def fieldText (octets : Octets) (start width : Nat) : Octets :=
  ((octets.drop start).take width).takeWhile (· ≠ '\x00')

def fieldNumber (octets : Octets) (start width : Nat) : Nat :=
  ((((octets.drop start).take width).dropWhile (· = ' ')).takeWhile fun c =>
    '0' ≤ c && c ≤ '7').foldl (fun value c => 8 * value + (c.toNat - '0'.toNat)) 0

def isHeader (block : Octets) : Bool :=
  let own := ((block.drop 148).take 8).map Char.toNat
  let sum := (block.map Char.toNat).sum - own.sum + 8 * 32
  block.length = blockSize && fieldNumber block 148 8 = sum && block.any (· ≠ '\x00')

def members : (fuel : Nat) → Octets → List TapeEntry × Bool
  | 0, _ => ([], true)
  | fuel + 1, octets =>
    let block := octets.take blockSize
    if block.isEmpty || block.all (· = '\x00') then ([], true)
    else if !isHeader block then ([], false)
    else
      let size := fieldNumber block 124 12
      let rest := octets.drop blockSize
      let name := fieldText block 0 100
      let kind : TapeKind := match (block[156]?).getD '0' with
        | '2' => .link (fieldText block 157 100)
        | '5' => .directory
        | _ => .file (rest.take size)
      let (others, whole) :=
        members fuel (rest.drop ((size + blockSize - 1) / blockSize * blockSize))
      ({ name, kind, mode := fieldNumber block 100 8, time := fieldNumber block 136 12 } :: others,
        whole)

def members? (octets : Octets) : Option (List TapeEntry × Bool) :=
  if octets.length < blockSize || !(isHeader (octets.take blockSize) ||
      (octets.take blockSize).all (· = '\x00')) then none
  else some (members (octets.length / blockSize + 2) octets)

end Tape

end Modelsmith.Archive
