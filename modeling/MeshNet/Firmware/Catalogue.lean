import MeshNet.Firmware.Beacon
import MeshNet.Firmware.Echo
import MeshNet.Text.Quoted

namespace MeshNet

inductive Builtin where
  | echoServer (s : EchoServer)
  | echoClient (c : EchoClient)
  | beacon (b : Beacon)
deriving DecidableEq, Repr

instance : Firmware Builtin where
  name
    | .echoServer s => Firmware.name s
    | .echoClient c => Firmware.name c
    | .beacon b => Firmware.name b
  react
    | .echoServer s, v, c => (Firmware.react s v c).map (Reaction.map .echoServer)
    | .echoClient s, v, c => (Firmware.react s v c).map (Reaction.map .echoClient)
    | .beacon s, v, c => (Firmware.react s v c).map (Reaction.map .beacon)

inductive FirmwareError where
  | alreadyRegistered (name : String)
  | unknown (name : String) (available : List String)
deriving DecidableEq, Repr

def FirmwareError.message : FirmwareError → String
  | alreadyRegistered name => "firmware '" ++ name ++ "' is already registered"
  | unknown name available =>
    "unknown firmware '" ++ name ++ "' (available: " ++ ", ".intercalate available ++ ")"

structure Catalogue (φ : Type) where
  entries : Std.ExtTreeMap String φ := ∅

namespace Catalogue

variable {φ ψ : Type}

instance : EmptyCollection (Catalogue φ) := ⟨{}⟩

def registered (c : Catalogue φ) (name : String) : Bool := c.entries.contains name

def names (c : Catalogue φ) : List String := c.entries.keys

def register (c : Catalogue φ) (name : String) (firmware : φ) :
    Except FirmwareError (Catalogue φ) :=
  if c.registered name then .error (.alreadyRegistered name)
  else .ok ⟨c.entries.insert name firmware⟩

def unregister (c : Catalogue φ) (name : String) : Catalogue φ := ⟨c.entries.erase name⟩

def create (c : Catalogue φ) (name : String) : Except FirmwareError φ :=
  match c.entries[name]? with
  | some firmware => .ok firmware
  | none => .error (.unknown name c.names)

def map (f : φ → ψ) (c : Catalogue φ) : Catalogue ψ := ⟨c.entries.map fun _ firmware => f firmware⟩

def builtins : Catalogue Builtin where
  entries := .ofList
    ([.echoServer {}, .echoClient {}, .beacon {}].map fun firmware : Builtin =>
      (Firmware.name firmware, firmware))

def describe (c : Catalogue φ) : String :=
  "FirmwareRegistry \x7b names: [" ++ ", ".intercalate (c.names.map Text.quoted) ++ "] \x7d"

end Catalogue

end MeshNet
