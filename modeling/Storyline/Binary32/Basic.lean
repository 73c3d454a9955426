/-!
# Numbers of the binary32 format

A real literal is kept as its bit pattern, so that equality is equality of bits: a negative zero
differs from zero and a not-a-number keeps its payload. `view` says which number a pattern stands
for. A finite nonzero magnitude is `significand * 2 ^ exponent` with an integer significand.
-/

namespace Storyline

structure Binary32 where
  bits : UInt32
deriving DecidableEq, Repr, Inhabited

namespace Binary32

structure Magnitude where
  significand : Nat
  exponent : Int
  /-- At a power of two the next smaller number is only half a step away. -/
  narrowBelow : Bool
deriving DecidableEq, Repr

inductive View where
  | nan
  | infinite (negative : Bool)
  | zero (negative : Bool)
  | finite (negative : Bool) (magnitude : Magnitude)
deriving DecidableEq, Repr

def isNegative (x : Binary32) : Bool := x.bits >>> 31 = 1

def biasedExponent (x : Binary32) : Nat := ((x.bits >>> 23) &&& 0xff).toNat

def fraction (x : Binary32) : Nat := (x.bits &&& 0x7fffff).toNat

def view (x : Binary32) : View :=
  if x.biasedExponent = 255 then
    if x.fraction = 0 then .infinite x.isNegative else .nan
  else if x.biasedExponent = 0 then
    if x.fraction = 0 then .zero x.isNegative
    else .finite x.isNegative ⟨x.fraction, -149, false⟩
  else
    .finite x.isNegative
      ⟨x.fraction + 0x800000, (x.biasedExponent : Int) - 150,
        x.fraction = 0 && 1 < x.biasedExponent⟩

end Binary32

end Storyline
