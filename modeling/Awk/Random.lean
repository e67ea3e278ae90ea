import Awk.Number.Double

namespace Awk

/-- A generator of numbers from zero to below one.  Equal seeds give equal
sequences. -/
structure Random where
  state : UInt64
deriving DecidableEq, Repr

namespace Random

/-- Every double is a seed of its own. -/
def ofSeed (seed : Double) : Random := { state := seed.bits }

/-- Spreads a change of one bit over the whole word. -/
def mix (x : UInt64) : UInt64 :=
  let x := (x ^^^ (x >>> 30)) * 0xbf58476d1ce4e5b9
  let x := (x ^^^ (x >>> 27)) * 0x94d049bb133111eb
  x ^^^ (x >>> 31)

/-- The next number, with 53 random bits behind the point. -/
def next (r : Random) : Double × Random :=
  let state := r.state + 0x9e3779b97f4a7c15
  let mantissa := (mix state >>> 11).toNat
  (Number.Dyadic.toDouble { negative := false, mantissa, exponent := -53 }, { state })

end Random
end Awk
