import MeshNet.Random.Draw

namespace MeshNet.Random

structure Source where
  seed : Option UInt64
  generator : Generator
deriving DecidableEq, Repr, Inhabited

namespace Source

def seeded (seed : UInt64) : Source := ⟨some seed, .ofSeed seed⟩

def unseeded (entropy : Generator) : Source := ⟨none, entropy⟩

def ofSeed? (seed : Option UInt64) (entropy : Generator) : Source :=
  match seed with
  | some seed => seeded seed
  | none => unseeded entropy

def run {α : Type} (s : Source) (draw : Draw α) : α × Source :=
  let (a, g) := draw s.generator
  (a, { s with generator := g })

def describe (s : Source) : String :=
  match s.seed with
  | some seed => "SimulationRng \x7b seed: Some(" ++ seed.toNat.repr ++ ") \x7d"
  | none => "SimulationRng \x7b seed: None \x7d"

end Source

end MeshNet.Random
