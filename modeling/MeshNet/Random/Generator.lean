

namespace MeshNet.Random

structure Generator where
  s0 : UInt64
  s1 : UInt64
  s2 : UInt64
  s3 : UInt64
deriving DecidableEq, Repr, Inhabited

abbrev Draw := StateM Generator

def rotateLeft (x : UInt64) (k : UInt64) : UInt64 := x <<< k ||| x >>> (64 - k)

def scramble (z : UInt64) : UInt64 :=
  let z := (z ^^^ z >>> 30) * 0xbf58476d1ce4e5b9
  let z := (z ^^^ z >>> 27) * 0x94d049bb133111eb
  z ^^^ z >>> 31

def stride : UInt64 := 0x9e3779b97f4a7c15

namespace Generator

def ofSeed (seed : UInt64) : Generator where
  s0 := scramble (seed + stride)
  s1 := scramble (seed + 2 * stride)
  s2 := scramble (seed + 3 * stride)
  s3 := scramble (seed + 4 * stride)

def next (g : Generator) : UInt64 × Generator :=
  let s2 := g.s2 ^^^ g.s0
  let s3 := g.s3 ^^^ g.s1
  (rotateLeft (g.s0 + g.s3) 23 + g.s0,
    { s0 := g.s0 ^^^ s3
      s1 := g.s1 ^^^ s2
      s2 := s2 ^^^ g.s1 <<< 17
      s3 := rotateLeft s3 45 })

end Generator

end MeshNet.Random
