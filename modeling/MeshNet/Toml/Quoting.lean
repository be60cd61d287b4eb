import MeshNet.Toml.Strings

namespace MeshNet.Toml.Quoting

def isControl (c : Char) : Bool := (c < ' ' && c != '\t' && c != '\n') || c == '\x7f'

def upperHexDigit (n : Nat) : Char := (Nat.digitChar n).toUpper

def numbered (c : Char) : List Char :=
  let n := c.toNat
  ['\\', 'u', upperHexDigit (n / 4096 % 16), upperHexDigit (n / 256 % 16),
    upperHexDigit (n / 16 % 16), upperHexDigit (n % 16)]

def escape (c : Char) : List Char :=
  match c with
  | '\x08' => ['\\', 'b']
  | '\t' => ['\\', 't']
  | '\n' => ['\\', 'n']
  | '\x0c' => ['\\', 'f']
  | '\r' => ['\\', 'r']
  | '"' => ['\\', '"']
  | '\\' => ['\\', '\\']
  | c => if isControl c then numbered c else [c]

/-- The inside of a string between three double quotes, after `quotes` quotes in a row. The third
quote in a row is escaped. -/
def escapeLines (quotes : Nat) : List Char → List Char
  | [] => []
  | '"' :: cs =>
    if quotes = 2 then '\\' :: '"' :: escapeLines 0 cs else '"' :: escapeLines (quotes + 1) cs
  | '\n' :: cs => '\n' :: escapeLines 0 cs
  | c :: cs => escape c ++ escapeLines 0 cs

def longestRun (q : Char) (before : Nat) : List Char → Nat
  | [] => before
  | c :: cs => if c = q then longestRun q (before + 1) cs else max before (longestRun q 0 cs)

/-- No more quotes in a row than this can be counted. -/
def runLimit : Nat := 255

def isCountable (s : String) : Bool :=
  longestRun '"' 0 s.toList ≤ runLimit && longestRun '\'' 0 s.toList ≤ runLimit

def basic (cs : List Char) : List Char := '"' :: cs.flatMap escape ++ ['"']

def literal (cs : List Char) : List Char := '\'' :: cs ++ ['\'']

def multiline (quote : Char) (cs inside : List Char) : List Char :=
  let bound := [quote, quote, quote]
  bound ++ (if '\n' ∈ cs then ['\n'] else []) ++ inside ++ bound

def multilineBasic (cs : List Char) : List Char := multiline '"' cs (escapeLines 0 cs)

def multilineLiteral (cs : List Char) : List Char := multiline '\'' cs cs

def stringChars (cs : List Char) : List Char :=
  if cs.any isControl then if '\n' ∈ cs then multilineBasic cs else basic cs
  else if '\n' ∉ cs ∧ '\\' ∉ cs ∧ '"' ∉ cs then basic cs
  else if '\n' ∉ cs ∧ '\'' ∉ cs then literal cs
  else if '\\' ∉ cs ∧ longestRun '"' 0 cs < 3 then multilineBasic cs
  else if longestRun '\'' 0 cs < 3 then multilineLiteral cs
  else if '\n' ∈ cs then multilineBasic cs else basic cs

def string (s : String) : String := .ofList (stringChars s.toList)

def keyChars (cs : List Char) : List Char :=
  let control := cs.any fun c => isControl c || c == '\n'
  if cs ≠ [] ∧ cs.all Strings.isBare then cs
  else if ¬ control ∧ '\\' ∉ cs ∧ '"' ∉ cs then basic cs
  else if ¬ control ∧ '\'' ∉ cs then literal cs
  else basic cs

def key (k : String) : String := .ofList (keyChars k.toList)

end MeshNet.Toml.Quoting
