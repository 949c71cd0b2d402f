import SensorRelay.Double.Basic

/-!
# Random values

A repeatable source of values that are spread evenly over the doubles from zero to below one. The
state advances by a fixed odd step, and each value is a scrambled copy of the state.
-/

namespace SensorRelay.Client

structure RandomSource where
  state : UInt64
deriving DecidableEq, Repr

namespace RandomSource

def seeded (seed : UInt64) : RandomSource := ⟨seed⟩

def scramble (x : UInt64) : UInt64 :=
  let x := (x ^^^ (x >>> 30)) * 0xBF58476D1CE4E5B9
  let x := (x ^^^ (x >>> 27)) * 0x94D049BB133111EB
  x ^^^ (x >>> 31)

def nextWord (s : RandomSource) : UInt64 × RandomSource :=
  let state := s.state + 0x9E3779B97F4A7C15
  (scramble state, ⟨state⟩)

/-- The next value: a multiple of `2 ^ -53` below one. -/
def next (s : RandomSource) : Double × RandomSource :=
  let (word, s) := s.nextWord
  (.ofRatio false (word >>> 11).toNat (1 <<< 53), s)

def values : Nat → RandomSource → List Double
  | 0, _ => []
  | count + 1, s => s.next.1 :: values count s.next.2

end RandomSource
end SensorRelay.Client
