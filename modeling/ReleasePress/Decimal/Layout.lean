import ReleasePress.Decimal.Shortest

/-!
# Writing doubles

The shortest digits of a double can be laid out in several ways.  A `Layout` records the decisions of
one output format, and `Layout.write` follows them.

## Main declarations

* `Layout`: where positional notation ends, whether a whole number keeps a fraction, and how an
  exponent is written.
* `Layout.json`, `Layout.plain`: the two layouts of this library.
* `Double`: a finite double, the only kind that data values hold.
-/

namespace ReleasePress

/-- A finite double. -/
structure Double where
  value : Float
  finite : value.isFinite = true
  deriving DecidableEq

namespace Double

/-- A float as a finite double, or `none` for an infinity and for what is not a number. -/
def ofFloat? (value : Float) : Option Double :=
  if finite : value.isFinite = true then some ⟨value, finite⟩ else none

end Double

/-- The layout of a decimal whose first digit has the weight `10 ^ weight`. -/
structure Layout where
  /-- Weights written positionally; all other weights get an exponent. -/
  positional : Int → Bool
  /-- What a whole number written positionally ends in. -/
  wholeTail : String
  /-- The mark before a non-negative exponent. -/
  upMark : String
  /-- The mark before the digits of a negative exponent. -/
  downMark : String

namespace Layout

/-- JSON text: positional for `0.00001` up to sixteen digits before the point, whole numbers keep
`.0`, and an exponent carries its sign. -/
def json : Layout where
  positional weight := -5 ≤ weight && weight ≤ 15
  wholeTail := ".0"
  upMark := "e+"
  downMark := "e-"

/-- Plain text: always positional, whole numbers without a fraction. -/
def plain : Layout where
  positional _ := true
  wholeTail := ""
  upMark := "e"
  downMark := "e-"

/-- The digits of a positive decimal, without the zeros at their end, and the weight of the first. -/
def significant (d : Decimal) : List Char × Int :=
  let digits := Nat.toDigits 10 d.digits
  let kept := (digits.reverse.dropWhile (· = '0')).reverse
  (kept, d.exponent + digits.length - 1)

/-- Digits with the decimal point after the first `whole` of them, padded with zeros. -/
def positionally (layout : Layout) (digits : List Char) (weight : Int) : String :=
  if weight < 0 then
    "0." ++ String.ofList (List.replicate (-weight - 1).toNat '0' ++ digits)
  else
    let whole := weight.toNat + 1
    if digits.length ≤ whole then
      String.ofList (digits ++ List.replicate (whole - digits.length) '0') ++ layout.wholeTail
    else
      String.ofList (digits.take whole) ++ "." ++ String.ofList (digits.drop whole)

/-- Digits with a point after the first and an exponent. -/
def scientifically (layout : Layout) (digits : List Char) (weight : Int) : String :=
  let point := match digits with
    | first :: rest@(_ :: _) => String.ofList (first :: '.' :: rest)
    | short => String.ofList short
  point ++ (if weight < 0 then layout.downMark else layout.upMark) ++ toString weight.natAbs

/-- The text of a finite double. -/
def write (layout : Layout) (x : Double) : String :=
  let bits := x.value.toBits
  let sign := if bits.toNat / Nat.pow 2 63 = 1 then "-" else ""
  match Binary.ofBits? bits with
  | none => sign ++ "0" ++ layout.wholeTail
  | some magnitude =>
    let (digits, weight) := significant magnitude.shortest
    sign ++ (if layout.positional weight then layout.positionally digits weight
      else layout.scientifically digits weight)

end Layout

end ReleasePress
