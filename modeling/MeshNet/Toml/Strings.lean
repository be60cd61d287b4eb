import MeshNet.Toml.Reader

namespace MeshNet.Toml

namespace Reader

def isBlank (c : Char) : Bool := c == ' ' || c == '\t'

def blanks : Reader Unit := discard (run isBlank)

def newline : Reader Unit := char '\n' <|> word ['\r', '\n']

def isPlain (c : Char) : Bool := c == '\t' || ' ' ≤ c && c != '\x7f'

end Reader

namespace Strings

open Reader

def isHexDigit (c : Char) : Bool := c.isDigit || 'a' ≤ c.toLower && c.toLower ≤ 'f'

def hexValue (cs : List Char) : Nat :=
  cs.foldl (fun n c =>
    16 * n + if c.isDigit then c.toNat - '0'.toNat else c.toLower.toNat - 'a'.toNat + 10) 0

def numbered (n : Nat) : Reader Char := do
  let code := hexValue (← exactly isHexDigit n)
  if code.isValidChar then return .ofNat code else failure

def escaped : Reader (List Char) := do
  char '\\'
  match ← satisfy fun _ => true with
  | 'b' => return ['\x08']
  | 'f' => return ['\x0c']
  | 'n' => return ['\n']
  | 'r' => return ['\r']
  | 't' => return ['\t']
  | '"' => return ['"']
  | '\\' => return ['\\']
  | 'u' => return [← numbered 4]
  | 'U' => return [← numbered 8]
  | _ => failure

def unescaped : Reader (List Char) := run1 fun c => isPlain c && c != '"' && c != '\\'

def verbatim : Reader (List Char) := run1 fun c => isPlain c && c != '\''

def basic : Reader String := do
  char '"'
  let parts ← many (unescaped <|> escaped)
  char '"'
  return .ofList parts.flatten

def literal : Reader String := do
  char '\''
  let parts ← many verbatim
  char '\''
  return .ofList parts.flatten

def lineContinuation : Reader Unit := do
  char '\\'
  blanks
  newline
  discard (many (discard (satisfy isBlank) <|> newline))

def innerQuotes (quote : Char) (next : Reader Unit) : Reader (List Char) := do
  (do word [quote, quote]; next; return [quote, quote]) <|> (do char quote; next; return [quote])

def ahead {α : Type} (r : Reader α) : Reader Unit := fun cs => (r cs).map fun _ => ((), cs)

def multiline (quote : Char) (content : Reader (List Char)) : Reader String := do
  let bound := word [quote, quote, quote]
  bound
  discard (optional newline)
  let body ← many (content <|> innerQuotes quote (ahead content))
  let last ← optional (innerQuotes quote (ahead bound))
  bound
  return .ofList (body.flatten ++ last.getD [])

def lineBreak : Reader (List Char) := do
  newline
  return ['\n']

def multilineBasic : Reader String :=
  multiline '"' (unescaped <|> lineBreak <|> (do lineContinuation; return []) <|> escaped)

def multilineLiteral : Reader String := multiline '\'' (verbatim <|> lineBreak)

def string : Reader String := multilineBasic <|> basic <|> multilineLiteral <|> literal

def isBare (c : Char) : Bool := c.isAlphanum || c == '-' || c == '_'

def simpleKey : Reader String := basic <|> literal <|> String.ofList <$> run1 isBare

def key (limit : Nat) : Reader (List String) := do
  let part : Reader String := do
    blanks
    let k ← simpleKey
    blanks
    return k
  let ks ← separated part (char '.')
  if ks.length < limit then return ks else failure

end Strings

end MeshNet.Toml
