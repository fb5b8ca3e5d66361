namespace FiberEffects

/-- A finite binary64 value. -/
structure Binary64 where
  negative : Bool
  biased : Nat
  fraction : Nat
  deriving DecidableEq, Inhabited, Repr

namespace Binary64

def hiddenBit : Nat := Nat.pow 2 52

def zero : Binary64 := ⟨false, 0, 0⟩

def significand (x : Binary64) : Nat :=
  if x.biased = 0 then x.fraction else hiddenBit + x.fraction

def scale (x : Binary64) : Int :=
  if x.biased = 0 then -1074 else (x.biased : Int) - 1075

def isZero (x : Binary64) : Bool := x.biased == 0 && x.fraction == 0

def sameValue (x y : Binary64) : Bool := (x.isZero && y.isZero) || decide (x = y)

def neg (x : Binary64) : Binary64 := { x with negative := !x.negative }

def bits (x : Binary64) : Nat :=
  (if x.negative then Nat.pow 2 63 else 0) + x.biased * hiddenBit + x.fraction

def toFloat (x : Binary64) : Float := Float.ofBits (UInt64.ofNat x.bits)

def compareScaled (a : Nat) (p q : Int) (b : Nat) (r s : Int) : Ordering :=
  let lhs :=
    a * Nat.pow 2 p.toNat * Nat.pow 10 q.toNat * Nat.pow 2 (-r).toNat * Nat.pow 10 (-s).toNat
  let rhs :=
    b * Nat.pow 2 r.toNat * Nat.pow 10 s.toNat * Nat.pow 2 (-p).toNat * Nat.pow 10 (-q).toNat
  compare lhs rhs

def roundHalfEven (n d : Nat) : Nat :=
  let q := n / d
  let r := n % d
  if 2 * r < d then q
  else if d < 2 * r then q + 1
  else if q % 2 = 0 then q else q + 1

def digitCount (n : Nat) : Nat := (toString n).length

/-- The nearest value to the positive ratio `n / d` (`d` positive), ties to the even
significand; none when it is too large for the format. -/
def ofRatio (negative : Bool) (n d : Nat) : Option Binary64 :=
  if n = 0 then some ⟨negative, 0, 0⟩ else
  let e0 : Int := (Nat.log2 n : Int) - (Nat.log2 d : Int)
  -- `n / d` lies in `[2 ^ e, 2 ^ (e + 1))`.
  let e : Int := if compareScaled n 0 0 d e0 0 == .lt then e0 - 1 else e0
  let k : Int := max (e - 52) (-1074)
  let m0 := roundHalfEven (n * Nat.pow 2 (-k).toNat) (d * Nat.pow 2 k.toNat)
  let (m, k) := if m0 = 2 * hiddenBit then (hiddenBit, k + 1) else (m0, k)
  if 971 < k then none
  else if m < hiddenBit then some ⟨negative, 0, m⟩
  else some ⟨negative, (k + 1075).toNat, m - hiddenBit⟩

def ofDecimal (negative : Bool) (digits : Nat) (exponent : Int) : Option Binary64 :=
  if digits = 0 then some ⟨negative, 0, 0⟩
  else if 310 < (digitCount digits : Int) + exponent then none
  else if (digitCount digits : Int) + exponent < -330 then some ⟨negative, 0, 0⟩
  else ofRatio negative (digits * Nat.pow 10 exponent.toNat) (Nat.pow 10 (-exponent).toNat)

def readsBack (m : Nat) (q : Int) (narrow : Bool) (c : Nat) (t : Int) : Bool :=
  let low := if narrow then compareScaled c 0 t (4 * m - 1) (q - 2) 0
    else compareScaled c 0 t (2 * m - 1) (q - 1) 0
  let high := compareScaled c 0 t (2 * m + 1) (q - 1) 0
  let tie := m % 2 == 0
  (low == .gt || (low == .eq && tie)) && (high == .lt || (high == .eq && tie))

def decimalPoint (m : Nat) (q : Int) : Int :=
  let n := m * Nat.pow 2 q.toNat
  let d := Nat.pow 2 (-q).toNat
  let k0 : Int := (digitCount n : Int) - (digitCount d : Int)
  if compareScaled m q 0 1 0 k0 == .lt then k0 else k0 + 1

/-- The shortest digits, tried from `p` digits upward for `fuel` lengths: the digits as a number
and the exponent of their last place. -/
def shortestFrom (m : Nat) (q : Int) (narrow : Bool) (k : Int) : Nat → Nat → Nat × Int
  | 0, _ => (0, 0)
  | fuel + 1, p =>
    let t : Int := k - p
    let n := m * Nat.pow 2 q.toNat * Nat.pow 10 (-t).toNat
    let d := Nat.pow 2 (-q).toNat * Nat.pow 10 t.toNat
    let below := n / d
    let above := if n % d = 0 then below else below + 1
    let okBelow := below != 0 && readsBack m q narrow below t
    let okAbove := readsBack m q narrow above t
    if okBelow && okAbove then
      match compareScaled (2 * m) q 0 (below + above) 0 t with
      | .lt => (below, t)
      | .gt => (above, t)
      | .eq => if below % 2 = 0 then (below, t) else (above, t)
    else if okBelow then (below, t)
    else if okAbove then (above, t)
    else shortestFrom m q narrow k fuel (p + 1)

def stripZeros : Nat → List Char → List Char
  | 0, ds => ds
  | fuel + 1, ds =>
    match ds.getLast? with
    | some '0' => if ds.length > 1 then stripZeros fuel ds.dropLast else ds
    | _ => ds

def shortest (x : Binary64) : List Char × Int :=
  let m := x.significand
  let q := x.scale
  let narrow := x.fraction == 0 && x.biased > 1
  let (c, t) := shortestFrom m q narrow (decimalPoint m q) 17 1
  let ds := (toString c).toList
  (stripZeros ds.length ds, t + ds.length)

def zeros (n : Nat) : List Char := List.replicate n '0'

end Binary64

/-- How shortest digits are laid out as text: positionally when the decimal point falls at a
position `k` with `fixedAbove < k ≤ fixedUpTo` (the value being `0.d₁d₂… * 10 ^ k`), with `.0`
after a whole number when `pointZero` holds; otherwise as one digit, the others after a point,
then the exponent mark, the exponent's sign (a plus sign only when `plusSign` holds) and at
least `exponentDigits` digits. -/
structure DecimalLayout where
  fixedAbove : Int
  fixedUpTo : Int
  pointZero : Bool
  exponentMark : Char
  plusSign : Bool
  exponentDigits : Nat

namespace DecimalLayout

/-- Digits with the decimal point at `k`, laid out. -/
def place (f : DecimalLayout) (ds : List Char) (k : Int) : String :=
  if f.fixedAbove < k ∧ k ≤ f.fixedUpTo then
    if k ≤ 0 then String.ofList (['0', '.'] ++ Binary64.zeros (-k).toNat ++ ds)
    else if ds.length ≤ k.toNat then
      String.ofList (ds ++ Binary64.zeros (k.toNat - ds.length) ++ (if f.pointZero then ['.', '0'] else []))
    else String.ofList (ds.take k.toNat ++ ['.'] ++ ds.drop k.toNat)
  else
    let e := k - 1
    let mantissa := match ds with
      | [] => []
      | [d] => [d]
      | d :: rest => d :: '.' :: rest
    let sign := if e < 0 then ['-'] else if f.plusSign then ['+'] else []
    let power := (toString e.natAbs).toList
    String.ofList (mantissa ++ [f.exponentMark] ++ sign ++
      Binary64.zeros (f.exponentDigits - power.length) ++ power)

end DecimalLayout

namespace Binary64

def render (f : DecimalLayout) (x : Binary64) : String :=
  let sign := if x.negative then "-" else ""
  if x.isZero then sign ++ f.place ['0'] 1
  else
    let (ds, k) := x.shortest
    sign ++ f.place ds k

end Binary64

end FiberEffects
