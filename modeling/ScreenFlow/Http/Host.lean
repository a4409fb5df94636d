import ScreenFlow.Http.Domain
import ScreenFlow.Http.Percent
import ScreenFlow.Text.Lowercase

namespace ScreenFlow.Http.Host

/-! Hosts: addresses of four numbers, addresses of eight numbers to the base sixteen between brackets,
and names. -/

/-! ## Four numbers -/

/-- Whether a part of an address is a number below 256, without a zero at its head. -/
def isOctet (digits : List Char) : Bool :=
  !digits.isEmpty && digits.all Char.isDigit && digits.length ≤ 3 &&
    (digits.length == 1 || digits.head? != some '0') &&
    digits.foldl (fun value digit => value * 10 + (digit.toNat - 48)) 0 < 256

def isFourNumbers (text : List Char) : Bool :=
  let parts := text.splitOn '.'
  parts.length == 4 && parts.all isOctet

/-- Whether a text looks like four numbers: three of its characters, none beside another or at an
end, may be anything, and the others are digits. -/
def resemblesFourNumbers (text : List Char) : Bool :=
  let groups := text.splitOnP fun character => !character.isDigit
  let room := groups.foldl (fun room group => room + (group.length - 1) / 2) 0
  groups.all (!·.isEmpty) && groups.length ≤ 4 && 4 ≤ groups.length + room

/-! ## Eight numbers -/

/-- Whether a part of an address is a number of at most four digits to the base sixteen. -/
def isSextet (digits : List Char) : Bool :=
  !digits.isEmpty && digits.length ≤ 4 && digits.all fun digit => (Text.hexValue? digit).isSome

def places? (text : List Char) : Option (List (List Char)) :=
  let parts := text.splitOn ':'
  match parts.getLast? with
  | some last =>
      if parts.length < 3 then none
      else if last.contains '.' then
        if isFourNumbers last then some (parts.dropLast ++ [['0'], ['0']]) else none
      else some parts
  | none => none

def partsOfSide (parts : List (List Char)) : List (List Char) :=
  if parts = [[]] then [] else parts

/-- Whether the parts of an address fill eight places. Two colons in a row stand once for one place
or more that are not written. -/
def fillEight : List (List Char) → Bool
  | [] => false
  | first :: rest =>
      let before := first :: rest.takeWhile (!·.isEmpty)
      match rest.dropWhile (!·.isEmpty) with
      | [] => before.length == 8 && before.all isSextet
      | [_] => false
      | _ :: after =>
          let written := partsOfSide before ++ partsOfSide after
          written.length < 8 && written.all isSextet

/-- Whether a text is an address of eight numbers. The zone after a percent sign may be any text. -/
def isEightNumbers (text : List Char) : Bool :=
  let zone := (text.dropWhile (· ≠ '%')).drop 1
  (!text.contains '%' || (!zone.isEmpty && !zone.contains '%')) &&
    (places? (text.takeWhile (· ≠ '%'))).any fillEight

/-! ## All hosts -/

def inName (character : Char) : Bool :=
  "!$&'()*+,;=\"\x60\x7b\x7d%|\\".toList.contains character

/-- A host as it is sent: numbers as they are, without brackets, and a name in lower case and in
ASCII. -/
def normal? (host : List Char) : Option (List Char) :=
  if host.isEmpty then some []
  else if resemblesFourNumbers host then
    if isFourNumbers host then some host else none
  else if host.head? = some '[' && host.getLast? = some ']' then
    let numbers := (host.drop 1).dropLast
    if isEightNumbers numbers then some numbers else none
  else
    let lowered := (Text.lower (String.ofList host)).lossy.toList
    if host.all Text.Punycode.isBasic then some (Percent.quote inName lowered)
    else Domain.toAscii? lowered

example : normal? "[::ffff:1.2.3.4%eth0]".toList = some "::ffff:1.2.3.4%eth0".toList := by
  decide +kernel
example : normal? "[1::2::3]".toList = none ∧ normal? "[]".toList = none := by decide +kernel
example : normal? "256.1.1.1".toList = none ∧ normal? "1234567".toList = none := by decide +kernel
example : normal? "H_1.Test".toList = some "h_1.test".toList := by decide +kernel

end ScreenFlow.Http.Host
