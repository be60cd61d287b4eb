import MeshNet.Fault
import MeshNet.Setup.Encoding
import MeshNet.Toml.Document
import MeshNet.Toml.Printer

namespace MeshNet.Setup

def parse (text : String) : Except SetupError Setup :=
  match (Toml.parse? text).bind decode with
  | none => .error .malformed
  | some s =>
    match s.network.check with
    | .ok () => .ok s
    | .error e => .error (.invalid e)

def load : Option ByteArray → Except SetupError Setup
  | none => .error (.unreadable .missing)
  | some bytes =>
    match String.fromUTF8? bytes with
    | none => .error (.unreadable .notText)
    | some text => parse text

def print (s : Setup) : Checked (Option String) :=
  match encode s with
  | none => return none
  | some t => some <$> Fault.quoteRunOverflow.require (Toml.Printer.document? t)

end MeshNet.Setup
