/-!
# Decimal/Shortest — the fewest decimal digits that read back

A positive finite float is `mantissa * 2 ^ exponent`; the reals that round to it form an interval
around it, whose ends belong to it when the mantissa is even. `shortest` looks at grids of one, two,
and up to seventeen digits, and takes the first that has a point in the interval: the nearer of the
two neighbours of the value, the even one when both are equally near.
-/

namespace Gazetteer.Decimal

/-- A float's parts: its value is `mantissa * 2 ^ exponent`, with the sign apart. -/
structure Parts where
  negative : Bool
  mantissa : Nat
  exponent : Int
  /-- The next float below is only half as far away as the next above. -/
  narrowBelow : Bool
deriving Repr, DecidableEq

/-- The parts of a finite float. -/
def partsOf (x : Float) : Parts :=
  let bits : Nat := x.toBits.toNat
  let fraction : Nat := bits % Nat.pow 2 52
  let biased : Nat := bits / Nat.pow 2 52 % Nat.pow 2 11
  let negative := bits / Nat.pow 2 63 = 1
  if biased = 0 then ⟨negative, fraction, -1074, false⟩
  else ⟨negative, fraction + Nat.pow 2 52, (biased : Int) - 1075, fraction = 0 && biased > 1⟩

/-- `numerator / denominator`, a non-negative rational. -/
structure Ratio where
  numerator : Nat
  denominator : Nat
deriving Repr, DecidableEq

/-- `n * 2 ^ e` as a ratio. -/
def Ratio.scale2 (n : Nat) (e : Int) : Ratio :=
  if e ≥ 0 then ⟨n * Nat.pow 2 e.toNat, 1⟩ else ⟨n, Nat.pow 2 (-e).toNat⟩

/-- `n * 10 ^ e` as a ratio. -/
def Ratio.scale10 (n : Nat) (e : Int) : Ratio :=
  if e ≥ 0 then ⟨n * Nat.pow 10 e.toNat, 1⟩ else ⟨n, Nat.pow 10 (-e).toNat⟩

def Ratio.lt (a b : Ratio) : Bool := a.numerator * b.denominator < b.numerator * a.denominator

def Ratio.le (a b : Ratio) : Bool := a.numerator * b.denominator ≤ b.numerator * a.denominator

/-- Whether a ratio rounds to the float with the given parts. -/
def Parts.holds (p : Parts) (r : Ratio) : Bool :=
  let low :=
    if p.narrowBelow then Ratio.scale2 (4 * p.mantissa - 1) (p.exponent - 2)
    else Ratio.scale2 (2 * p.mantissa - 1) (p.exponent - 1)
  let high := Ratio.scale2 (2 * p.mantissa + 1) (p.exponent - 1)
  if p.mantissa % 2 = 0 then low.le r && r.le high else low.lt r && r.lt high

/-- The least exponent `k` with the value below `10 ^ k`, searched upwards from `k`. -/
def magnitude (value : Ratio) : Nat → Int → Int
  | 0, k => k
  | fuel + 1, k => if value.lt (Ratio.scale10 1 k) then k else magnitude value fuel (k + 1)

/-- The point of the grid of step `10 ^ e` that stands for the value, if the grid has one. -/
def gridPoint (p : Parts) (value : Ratio) (e : Int) : Option Nat :=
  let scaled : Ratio :=
    if e ≥ 0 then ⟨value.numerator, value.denominator * Nat.pow 10 e.toNat⟩
    else ⟨value.numerator * Nat.pow 10 (-e).toNat, value.denominator⟩
  let below := scaled.numerator / scaled.denominator
  let above := below + 1
  let belowFits := below > 0 && p.holds (Ratio.scale10 below e)
  let aboveFits := p.holds (Ratio.scale10 above e)
  let twice := 2 * (scaled.numerator % scaled.denominator)
  if belowFits && aboveFits then
    if twice < scaled.denominator then some below
    else if twice > scaled.denominator then some above
    else if below % 2 = 0 then some below else some above
  else if belowFits then some below
  else if aboveFits then some above
  else none

/-- Searches grids of more and more digits below `10 ^ k`. -/
def search (p : Parts) (value : Ratio) (k : Int) : Nat → Int → Nat × Int
  | 0, digits => (0, k - digits)
  | fuel + 1, digits =>
    match gridPoint p value (k - digits) with
    | some n => (n, k - digits)
    | none => search p value k fuel (digits + 1)

/-- The number `digits * 10 ^ exponent` with the fewest digits that rounds to a positive float. -/
def shortest (p : Parts) : Nat × Int :=
  let value := Ratio.scale2 p.mantissa p.exponent
  search p value (magnitude value 700 (-330)) 17 1

/-- The decimal digits of a number, without the zeros at its end, and how many zeros these were. -/
def trimZeros (cs : List Char) : List Char × Nat :=
  let kept := (cs.reverse.dropWhile (· = '0')).reverse
  (kept, cs.length - kept.length)

/-- How a float is written: positional from `10 ^ -4` up to `10 ^ 16` with at least one place, and
else with an exponent of at least two digits. -/
def render (x : Float) : String :=
  if x.isNaN then "nan"
  else
    let p := partsOf x
    let sign := if p.negative then "-" else ""
    if x.isInf then sign ++ "inf"
    else if p.mantissa = 0 then sign ++ "0.0"
    else
      let (n, e) := shortest p
      let (digits, zeros) := trimZeros (Nat.toDigits 10 n)
      let point : Int := digits.length + (e + zeros)
      let body :=
        if -4 < point && point ≤ 16 then
          if point ≤ 0 then
            "0." ++ String.ofList (List.replicate (-point).toNat '0' ++ digits)
          else if point ≥ digits.length then
            String.ofList (digits ++ List.replicate (point.toNat - digits.length) '0') ++ ".0"
          else
            String.ofList (digits.take point.toNat) ++ "."
              ++ String.ofList (digits.drop point.toNat)
        else
          let head := String.ofList (digits.take 1)
          let tail := if digits.length > 1 then "." ++ String.ofList (digits.drop 1) else ""
          let power := point - 1
          let size := toString power.natAbs
          head ++ tail ++ "e" ++ (if power < 0 then "-" else "+")
            ++ (if size.length < 2 then "0" ++ size else size)
      sign ++ body

end Gazetteer.Decimal
