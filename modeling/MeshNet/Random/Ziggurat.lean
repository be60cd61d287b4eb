import MeshNet.Random.Draw
import MeshNet.Random.ZigguratTable

namespace MeshNet.Random

def attempts : Nat := 1000

/-- The first candidate that is not rejected, among the first `n`. -/
def retry {α : Type} (candidate : Draw (Option α)) : Nat → Draw (Option α)
  | 0 => return none
  | n + 1 => do
    match ← candidate with
    | some a => return some a
    | none => retry candidate n

def underDensity (heights : Array Float) (i : Nat) (height : Float) : Draw Bool := do
  let low := heights.getD (i + 1) 0.0
  return low + (heights.getD i 0.0 - low) * (← unit) < height

def normalTail : Float := 3.654152885361008796

def normalTailCandidate : Draw (Option Float) := do
  let x := (← openUnit).log / normalTail
  let y := (← openUnit).log
  return if -2.0 * y < x * x then none else some x

def normalCandidate : Draw (Option Float) := do
  let w ← word
  let i := (w &&& 0xff).toNat
  let u := withFraction 0x4000000000000000 w - 3.0
  let x := u * normalEdges.getD i 0.0
  if x.abs < normalEdges.getD (i + 1) 0.0 then
    return some x
  else if i = 0 then
    let tail ← retry normalTailCandidate attempts
    return tail.map fun x => if u < 0.0 then x - normalTail else normalTail - x
  else
    return if ← underDensity normalHeights i (-x * x / 2.0).exp then some x else none

def normal : Draw (Option Float) := retry normalCandidate attempts

def exponentialTail : Float := 7.697117470131050077

def exponentialCandidate : Draw (Option Float) := do
  let w ← word
  let i := (w &&& 0xff).toNat
  let x := openFraction w * exponentialEdges.getD i 0.0
  if x < exponentialEdges.getD (i + 1) 0.0 then
    return some x
  else if i = 0 then
    return some (exponentialTail - (← unit).log)
  else
    return if ← underDensity exponentialHeights i (-x).exp then some x else none

def exponential : Draw (Option Float) := retry exponentialCandidate attempts

end MeshNet.Random
