import MeshNet.Setup.Basic
import MeshNet.Simulation

namespace MeshNet

def Fleet.createAll {φ : Type} (catalogue : Catalogue φ) (specs : List NodeSpec) (f : Fleet φ) :
    Except NodeError (Fleet φ) :=
  specs.foldlM (fun f spec => f.create catalogue spec) f

def Simulation.ofSetup {φ : Type} (catalogue : Catalogue φ) (s : Setup)
    (entropy : Random.Generator) : Except SetupError (Simulation φ) := do
  let network ← (Network.ofSetup s.network entropy).mapError .invalid
  let fleet ← (Fleet.createAll catalogue s.nodes ∅).mapError .node
  return { mesh := { fleet, network } }

end MeshNet
