import Storyline.Binary32.Basic

/-!
# Shortest decimals

Every real number near a magnitude rounds to it: those up to half a step away, the two ends included
when the significand is even. Among the decimals in that interval the shortest ones lie on the
coarsest grid `10 ^ g` that meets it. `shortest` tries the grids from coarse to fine and looks at the
two grid points next to the magnitude. If both round to it, the nearer one is taken, and the upper
one of two at equal distance.

All comparisons are exact. With `unit / step = 2 ^ exponent / 10 ^ g` as a quotient of naturals, the
grid point `c * 10 ^ g` is compared with the magnitude by comparing `c * step` with
`significand * unit`.
-/

namespace Storyline.Binary32

/-- The number `digits * 10 ^ exponent`. -/
structure Decimal where
  digits : Nat
  exponent : Int
deriving DecidableEq, Repr

namespace Magnitude

def unit (m : Magnitude) (g : Int) : Nat :=
  Nat.pow 2 m.exponent.toNat * Nat.pow 10 (-g).toNat

def step (m : Magnitude) (g : Int) : Nat :=
  Nat.pow 2 (-m.exponent).toNat * Nat.pow 10 g.toNat

/-- Four times the distance, in units of the last place, from zero to the lower end. -/
def lowerQuarter (m : Magnitude) : Nat :=
  4 * m.significand - if m.narrowBelow then 1 else 2

def upperQuarter (m : Magnitude) : Nat := 4 * m.significand + 2

/-- The grid point `c * 10 ^ g` rounds to the magnitude. -/
def roundsFrom (m : Magnitude) (g : Int) (c : Nat) : Bool :=
  let point := 4 * c * m.step g
  let lower := m.lowerQuarter * m.unit g
  let upper := m.upperQuarter * m.unit g
  if m.significand % 2 = 0 then lower ≤ point && point ≤ upper
  else lower < point && point < upper

def onGrid? (m : Magnitude) (g : Int) : Option Decimal :=
  let value := m.significand * m.unit g
  let below := value / m.step g
  let above := below + 1
  match m.roundsFrom g below, m.roundsFrom g above with
  | true, true =>
    if value - below * m.step g < above * m.step g - value then some ⟨below, g⟩ else some ⟨above, g⟩
  | true, false => some ⟨below, g⟩
  | false, true => some ⟨above, g⟩
  | false, false => none

/-- The grids that can hold the shortest decimal of a magnitude: the largest is below `10 ^ 39`, and
nine digits identify the smallest normal number. -/
def grids : List Int := (List.range 86).map fun (i : Nat) => 39 - (i : Int)

/-- The magnitude itself, written with all its digits. -/
def exactDecimal (m : Magnitude) : Decimal :=
  ⟨m.significand * Nat.pow 2 m.exponent.toNat * Nat.pow 5 (-m.exponent).toNat, min m.exponent 0⟩

def shortest (m : Magnitude) : Decimal :=
  (grids.findSome? m.onGrid?).getD m.exactDecimal

end Magnitude

/-- Positional digits: zeros fill the places up to the point, and a whole number has no point. -/
def Decimal.positional (d : Decimal) : String :=
  let digits := Nat.toDigits 10 d.digits
  let places := (-d.exponent).toNat
  if places = 0 then
    String.ofList (digits ++ List.replicate d.exponent.toNat '0')
  else
    let padded := List.replicate (places + 1 - digits.length) '0' ++ digits
    let whole := padded.length - places
    String.ofList (padded.take whole ++ '.' :: padded.drop whole)

def signed (negative : Bool) (text : String) : String :=
  if negative then "-" ++ text else text

def text (x : Binary32) : String :=
  match x.view with
  | .nan => "NaN"
  | .infinite negative => signed negative "inf"
  | .zero negative => signed negative "0"
  | .finite negative m => signed negative m.shortest.positional

end Storyline.Binary32
