import MeshNet.Decimal.Layout

namespace MeshNet

inductive ConditionError where
  | latencyBounds (min max : UInt32)
  | lossProbability (p : Float)
  | burstLength
  | unknownDistribution (text : String)
deriving DecidableEq

def ConditionError.message : ConditionError → String
  | .latencyBounds min max =>
    "invalid latency configuration: min " ++ min.toNat.repr ++ " > max " ++ max.toNat.repr
  | .lossProbability p =>
    "packet loss probability " ++ Decimal.message.render p ++ " is outside [0, 1]"
  | .burstLength => "burst length must be at least 1 when burst mode is enabled"
  | .unknownDistribution text => "unknown distribution type: " ++ text

end MeshNet
