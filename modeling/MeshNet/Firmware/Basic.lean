import Std.Data.ExtTreeMap
import MeshNet.Fault
import MeshNet.Message
import MeshNet.Text.Numeral
import MeshNet.Time

namespace MeshNet

abbrev Settings := Std.ExtTreeMap String String

def Settings.read {α : Type} (s : Settings) (key : String) (reader : String → Option α)
    (default : α) : α :=
  (s[key]?.bind reader).getD default

structure View where
  self : NodeId
  now : Time
  settings : Settings
  peers : List NodeId

namespace View

def broadcast (v : View) (payload : Payload) : List Outgoing := v.peers.map (⟨·, payload⟩)

end View

inductive Callback where
  | setup
  | tick
  | receive (sender : NodeId) (payload : Payload)
  | newConnection (peer : NodeId)
  | changedConnections
  | timeAdjusted (offset : Int32)
deriving DecidableEq, Repr

structure Reaction (φ : Type) where
  state : φ
  sends : List Outgoing := []

def Reaction.map {φ ψ : Type} (f : φ → ψ) (r : Reaction φ) : Reaction ψ := ⟨f r.state, r.sends⟩

class Firmware (φ : Type) where
  name : φ → String
  version : φ → String := fun _ => "1.0.0"
  react : φ → View → Callback → Checked (Reaction φ)

instance {φ ψ : Type} [Firmware φ] [Firmware ψ] : Firmware (φ ⊕ ψ) where
  name := Sum.elim Firmware.name Firmware.name
  version := Sum.elim Firmware.version Firmware.version
  react s v c :=
    match s with
    | .inl s => (Firmware.react s v c).map (Reaction.map .inl)
    | .inr s => (Firmware.react s v c).map (Reaction.map .inr)

end MeshNet
