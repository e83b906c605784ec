import QuestionSearch.Analytic

/-!
# Single precision

Boosts and scores are numbers of single precision. They are held by their bits, because values that
are no numbers are ranked by their sign and their payload, and `Float32` keeps neither. The rules of
floating point leave open which of these values an operation gives. Here it is the one that x86-64
gives: an operand that is no number is handed on, and a result that is none by itself is negative.
-/

namespace QuestionSearch

/-- A number of single precision. -/
structure Single where
  /-- Its bits. -/
  bits : UInt32
deriving DecidableEq

namespace Single

/-- The number of a `Float32`. -/
def ofFloat32 (x : Float32) : Single := ⟨x.toBits⟩

/-- The number as a `Float32`, which forgets the sign and the payload of what is no number. -/
def number (x : Single) : Float32 := Float32.ofBits x.bits

/-- Whether it is no number. -/
def isNaN (x : Single) : Bool := x.number.isNaN

/-- No number, of a sign. -/
def nan (negative : Bool) : Single := ⟨if negative then 0xFFC00000 else 0x7FC00000⟩

/-- A value that is no number, as operations hand it on. -/
def quiet (x : Single) : Single := ⟨x.bits ||| 0x00400000⟩

/-- What an operation gives whose operands are numbers. -/
def ofResult (result : Float32) : Single :=
  if result.isNaN then nan true else ofFloat32 result

/-- Applies an operation of one operand. -/
def unary (operation : Float32 → Float32) (x : Single) : Single :=
  if x.isNaN then x.quiet else ofResult (operation x.number)

/-- Applies an operation of two operands. If neither is a number, the first one is handed on. -/
def binary (operation : Float32 → Float32 → Float32) (x y : Single) : Single :=
  if x.isNaN then x.quiet
  else if y.isNaN then y.quiet
  else ofResult (operation x.number y.number)

instance : Add Single := ⟨binary (· + ·)⟩

instance : Mul Single := ⟨binary (· * ·)⟩

instance : Div Single := ⟨binary (· / ·)⟩

instance : OfScientific Single where
  ofScientific mantissa negative exponent :=
    ofFloat32 (OfScientific.ofScientific mantissa negative exponent)

instance : Analytic Single where
  natural count := ofFloat32 (Float32.ofNat count)
  sqrt := unary Float32.sqrt
  ln := unary Float32.log
  exp := unary Float32.exp

instance : Ranked Single where
  atMost x y := decide (rankOfBits 31 x.bits.toNat ≤ rankOfBits 31 y.bits.toNat)

end Single

end QuestionSearch
