/-!
# The shortest text of a float

A finite float stands for one exact binary fraction `m * 2^e`. Every decimal strictly between
the halfway points to its two neighbouring floats reads back as the same float, and so do the
halfway points themselves when `m` is even, since ties round to an even significand. The text of
a float is the decimal with the fewest significant digits in that interval, and of equally short
ones the nearest to the float, a tie going to the even last digit.

The digits are written positionally when the decimal exponent is from -4 to 5 (`0.0001`,
`123456`, `1.5`) and in scientific notation otherwise (`1e+06`, `1.5e-05`), with a signed
exponent of at least two digits. Zero is `0` or `-0`, the infinities are `+Inf` and `-Inf`, and
every NaN is `NaN`.

All arithmetic here is on natural numbers, so the digits are exact.
-/

namespace StoneLink.Text.Shortest

/-- A non-negative rational number as a numerator and a positive denominator. -/
structure Ratio where
  /-- The numerator. -/
  num : Nat
  /-- The denominator. -/
  den : Nat

namespace Ratio

/-- Whether `a ≤ b`. -/
def le (a b : Ratio) : Bool := a.num * b.den ≤ b.num * a.den

/-- Whether `a < b`. -/
def lt (a b : Ratio) : Bool := a.num * b.den < b.num * a.den

/-- The value `m * base ^ e`. -/
def scaled (base m : Nat) (e : Int) : Ratio :=
  if e ≥ 0 then ⟨m * Nat.pow base e.toNat, 1⟩ else ⟨m, Nat.pow base (-e).toNat⟩

end Ratio

/-- The decimal exponent of a positive value: the `k` with `10^k ≤ v < 10^(k+1)`. -/
def exponent (v : Ratio) : Int :=
  if v.num ≥ v.den then ((Nat.toDigits 10 (v.num / v.den)).length : Int) - 1
  else
    -- some `j` up to one more than the bits of the denominator has `v * 10^j ≥ 1`
    let j := ((List.range (Nat.log2 v.den + 2)).find? fun j => v.num * Nat.pow 10 j ≥ v.den).getD 0
    Int.neg j

/-- The largest `q` with `q * 10^s ≤ v`. -/
def floorAt (v : Ratio) (s : Int) : Nat :=
  if s ≥ 0 then v.num / (v.den * Nat.pow 10 s.toNat) else v.num * Nat.pow 10 (-s).toNat / v.den

/-- The shortest decimal `c * 10^s` strictly inside the interval from `lo` to `hi`, or on its
ends when `closed`, and of equally short ones the nearest to `v`. Decimals of `p` significant
digits are multiples of `10^(k-p+1)`, and of these only the two around `v` can be nearest. -/
def digits (v lo hi : Ratio) (closed : Bool) : Nat × Int :=
  let k := exponent v
  let inside (c : Nat) (s : Int) : Bool :=
    let d := Ratio.scaled 10 c s
    (if closed then lo.le d && d.le hi else lo.lt d && d.lt hi)
  let atLength (p : Nat) : Option (Nat × Int) :=
    let s := k - p + 1
    let q := floorAt v s
    let exact := (Ratio.scaled 10 q s).le v && v.le (Ratio.scaled 10 q s)
    let down := inside q s
    let up := !exact && inside (q + 1) s
    if down && up then
      -- compare `2v` with the midpoint `(2q + 1) * 10^s`
      let mid := Ratio.scaled 10 (2 * q + 1) s
      let twice : Ratio := ⟨2 * v.num, v.den⟩
      if twice.lt mid then some (q, s)
      else if mid.lt twice then some (q + 1, s)
      else some (if q % 2 = 0 then q else q + 1, s)
    else if down then some (q, s)
    else if up then some (q + 1, s)
    else none
  match (List.range 17).findSome? fun i => atLength (i + 1) with
  | some r => r
  | none => (floorAt v (k - 16), k - 16)

/-- Drops the trailing zeros of `c * 10^s`, at most `fuel` of them. -/
def trim : Nat → Nat → Int → Nat × Int
  | 0, c, s => (c, s)
  | fuel + 1, c, s => if c ≠ 0 && c % 10 = 0 then trim fuel (c / 10) (s + 1) else (c, s)

/-- The text of the digits `ds` with the value `0.ds * 10^dp`: positional when the exponent
`dp - 1` is from -4 to 5, scientific otherwise. -/
def layout (ds : List Char) (dp : Int) : String :=
  let x := dp - 1
  if x < -4 || x ≥ 6 then
    let mant := match ds with
      | d :: rest@(_ :: _) => String.ofList (d :: '.' :: rest)
      | _ => String.ofList ds
    let e := x.natAbs
    mant ++ "e" ++ (if x < 0 then "-" else "+") ++ (if e < 10 then "0" else "") ++ toString e
  else
    let digitAt (i : Int) : Char := if i < 0 then '0' else ds.getD i.toNat '0'
    let whole :=
      if dp > 0 then String.ofList ((List.range dp.toNat).map fun (i : Nat) => digitAt i) else "0"
    let places := (ds.length : Int) - dp
    if places > 0 then
      let fraction := (List.range places.toNat).map fun (i : Nat) => digitAt (dp + i)
      whole ++ "." ++ String.ofList fraction
    else whole

/-- The shortest text of a float that reads back as it. -/
def render (f : Float) : String :=
  let bits : Nat := f.toBits.toNat
  let negative := bits ≥ Nat.pow 2 63
  let sign := if negative then "-" else ""
  let biased : Nat := (bits / Nat.pow 2 52) % 2048
  let fraction : Nat := bits % Nat.pow 2 52
  if biased = 2047 then
    if fraction = 0 then (if negative then "-Inf" else "+Inf") else "NaN"
  else if biased = 0 && fraction = 0 then sign ++ "0"
  else
    let m := if biased = 0 then fraction else fraction + Nat.pow 2 52
    let e : Int := if biased = 0 then -1074 else (biased : Int) - 1075
    let v := Ratio.scaled 2 m e
    let hi := Ratio.scaled 2 (2 * m + 1) (e - 1)
    -- below a power of two the next float down is half as far away
    let lo :=
      if fraction = 0 && biased > 1 then Ratio.scaled 2 (4 * m - 1) (e - 2)
      else Ratio.scaled 2 (2 * m - 1) (e - 1)
    let (c, s) := digits v lo hi (m % 2 = 0)
    let (c, s) := trim 20 c s
    let ds := Nat.toDigits 10 c
    sign ++ layout ds (ds.length + s)

end StoneLink.Text.Shortest
