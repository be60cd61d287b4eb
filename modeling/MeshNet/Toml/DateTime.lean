import MeshNet.Text.Numeral
import MeshNet.Toml.Reader

namespace MeshNet.Toml.DateTime

open Reader

def number (width low high : Nat) : Reader Nat := do
  let n := Numeral.ofDigits (← exactly Char.isDigit width)
  if low ≤ n ∧ n ≤ high then return n else failure

def padded (width n : Nat) : List Char :=
  let ds := Nat.toDigits 10 n
  List.replicate (width - ds.length) '0' ++ ds

def isLeapYear (year : Nat) : Bool := year % 4 == 0 && (year % 100 != 0 || year % 400 == 0)

def daysInMonth (year month : Nat) : Nat :=
  if month = 2 then if isLeapYear year then 29 else 28
  else if month = 4 ∨ month = 6 ∨ month = 9 ∨ month = 11 then 30
  else 31

def date : Reader (List Char) := do
  let year ← number 4 0 9999
  char '-'
  let month ← number 2 1 12
  char '-'
  let day ← number 2 1 (daysInMonth year month)
  return padded 4 year ++ '-' :: padded 2 month ++ '-' :: padded 2 day

def fraction : Reader (List Char) := do
  char '.'
  let ds := (← run1 Char.isDigit).take 9
  let kept := (ds.reverse.dropWhile (· == '0')).reverse
  return if kept.isEmpty then [] else '.' :: kept

def time : Reader (List Char) := do
  let hour ← number 2 0 23
  char ':'
  let minute ← number 2 0 59
  char ':'
  let second ← number 2 0 60
  let rest ← optional fraction
  return padded 2 hour ++ ':' :: padded 2 minute ++ ':' :: padded 2 second ++ rest.getD []

def utc : Reader (List Char) := do
  discard (satisfy fun c => c == 'Z' || c == 'z')
  return ['Z']

def shift : Reader (List Char) := do
  let sign ← satisfy fun c => c == '+' || c == '-'
  let hour ← number 2 0 23
  char ':'
  let minute ← number 2 0 59
  let sign := if hour = 0 ∧ minute = 0 then '+' else sign
  return sign :: padded 2 hour ++ ':' :: padded 2 minute

def timeOfDate : Reader (List Char) := do
  discard (satisfy fun c => c == 'T' || c == 't' || c == ' ')
  let time ← time
  let offset ← optional (utc <|> shift)
  return 'T' :: time ++ offset.getD []

def dateTime : Reader String := do
  let full : Reader (List Char) := do
    let date ← date
    return date ++ (← optional timeOfDate).getD []
  return .ofList (← full <|> time)

end MeshNet.Toml.DateTime
