import Modelsmith.Shell.Tool.Calendar

/-! Reading and showing dates. -/

set_option autoImplicit false

namespace Modelsmith.Shell.Tool

/-! Dates as they are written: a day, a time of it, and shifts by so many units. -/

def dateUnits : List (String × Int × Int) :=
  [("year", 12, 0), ("month", 1, 0), ("week", 0, 604800), ("day", 0, 86400), ("hour", 0, 3600),
    ("minute", 0, 60), ("second", 0, 1)]

structure DateSaid where
  day : Int × Nat × Int
  second : Int
  months : Int := 0
  seconds : Int := 0

namespace DateSaid

def ofDay? (said : DateSaid) (word : Octets) : Option DateSaid := do
  match (Expansion.splitOnChar '-' word).mapM natural? with
  | some [year, month, day] =>
    guard (dateOf (dayNumber year month day) = ((year : Int), month, day))
    return { said with day := (year, month, day), second := 0 }
  | _ => none

def ofTime? (said : DateSaid) (word : Octets) : Option DateSaid := do
  match (Expansion.splitOnChar ':' word).mapM natural? with
  | some (hour :: minute :: rest) =>
    let second := rest.headD 0
    guard (hour < 24 && minute < 60 && second < 60 && rest.length ≤ 1)
    return { said with second := hour * 3600 + minute * 60 + second }
  | _ => none

def words? (said : DateSaid) : List Octets → Option DateSaid
  | [] => some said
  | word :: rest =>
    match (said.ofDay? word).or (said.ofTime? word), rest with
    | some said, rest => said.words? rest
    | none, unit :: rest => do
      let count ← integer? word
      let unit := if unit.getLast? = some 's' then unit.dropLast else unit
      let (months, seconds) ← dateUnits.lookup (String.ofList unit)
      words? { said with
        months := said.months + count * months
        seconds := said.seconds + count * seconds } rest
    | none, [] => none

def moment (said : DateSaid) : Int :=
  let (year, month) := monthOf said.day.1 (said.day.2.1 + said.months)
  dayNumber year month said.day.2.2 * 86400 + said.second + said.seconds

end DateSaid

def dateText? (zone : Zone) (now : Int) (text : Octets) : Option Int := do
  match text with
  | '@' :: text => integer? text
  | text =>
    let shown := now + zone.offset
    let (year, month, day) := dateOf (shown / 86400)
    let words := (Expansion.splitOnChar ' ' text).filter (· ≠ [])
    let said ← DateSaid.words? ⟨(year, month, day), shown % 86400, 0, 0⟩ words
    return said.moment - zone.offset

/-! Formats. -/

def dayNames : List String :=
  ["Sunday", "Monday", "Tuesday", "Wednesday", "Thursday", "Friday", "Saturday"]

def dateField? (zone : Zone) (seconds : Int) (letter : Char) : Option Octets :=
  let shown := seconds + zone.offset
  let day := shown / 86400
  let (year, month, monthDay) := dateOf day
  let second := (shown % 86400).toNat
  let hour := second / 3600
  let padded (digits value : Nat) : Octets :=
    List.replicate (digits - (natText value).length) '0' ++ natText value
  match letter with
  | 'a' => some ((dayNames.getD (weekday day) "").toList.take 3)
  | 'A' => some (dayNames.getD (weekday day) "").toList
  | 'b' => some (monthNames.getD (month - 1) "").toList
  | 'd' => some (twoDigits monthDay)
  | 'e' => some (if monthDay < 10 then ' ' :: natText monthDay else natText monthDay)
  | 'F' => some (padded 4 year.toNat ++ '-' :: twoDigits month ++ '-' :: twoDigits monthDay)
  | 'H' => some (twoDigits hour)
  | 'j' => some (padded 3 (day - dayNumber year 1 1 + 1).toNat)
  | 'm' => some (twoDigits month)
  | 'M' => some (twoDigits (second / 60 % 60))
  | 'n' => some ['\n']
  | 's' => some (toString seconds).toList
  | 'S' => some (twoDigits (second % 60))
  | 'T' => some (twoDigits hour ++ ':' :: twoDigits (second / 60 % 60) ++
      ':' :: twoDigits (second % 60))
  | 'u' => some (natText (if weekday day = 0 then 7 else weekday day))
  | 'y' => some (twoDigits (year % 100).toNat)
  | 'Y' => some (padded 4 year.toNat)
  | 'z' =>
    let total := zone.offset.natAbs
    some ((if zone.offset < 0 then '-' else '+') :: twoDigits (total / 3600) ++
      twoDigits (total / 60 % 60))
  | 'Z' => some zone.name
  | '%' => some ['%']
  | _ => none

def formattedDate (zone : Zone) (seconds : Int) : Octets → Octets
  | '%' :: letter :: rest =>
    (dateField? zone seconds letter).getD ['%', letter] ++ formattedDate zone seconds rest
  | c :: rest => c :: formattedDate zone seconds rest
  | [] => []

def date : Tool := optioned ⟨"u", "d", [("date", 'd'), ("utc", 'u'), ("universal", 'u')]⟩ 1
    fun found => do
  let zone ← if found.has 'u' then pure Zone.universal else Zone.current
  let now := (← Step.files).now / 1000000 + startSecond
  let refuse (text : Octets) : Step Nat := do
    complain ("invalid date " ++ cited text)
    return 1
  let tell (format text : Octets) : Step Nat := do
    match if text.isEmpty then some now else dateText? zone now text with
    | some seconds =>
      Step.printLine (formattedDate zone seconds format)
      return 0
    | none => refuse text
  let text := (found.value? 'd').getD []
  match found.operands with
  | [] => tell "%a %b %e %H:%M:%S %Z %Y" text
  | ['+' :: format] => tell format text
  | [text] => refuse text
  | _ :: extra :: _ =>
    usage ("extra operand " ++ cited extra)
    return 1

end Modelsmith.Shell.Tool
