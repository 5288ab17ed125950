import Abacus.Binary64.Arithmetic

/-!
# Numbers

The numbers that the operators work on (specification §4.3). A number is an integer of any size or a
double precision number. Sums, differences and products of integers are exact, and so is a quotient
of integers that leaves no remainder; any other quotient is rounded once to double precision. An
integer that meets a double precision number is rounded to one first.
-/

namespace Abacus

/-- An operand value or a result. -/
inductive Number where
  | int (value : Int)
  | float (value : Binary64)
deriving DecidableEq, Repr

/-- The ways in which an operation on numbers has no result. -/
inductive ArithmeticFault where
  | divisionByZero
  /-- An integer operand or an exact quotient is too large for double precision. -/
  | overflow
deriving DecidableEq, Repr

namespace Number

/-- An operation on two numbers. -/
abbrev Operation := Number → Number → Except ArithmeticFault Number

/-- The double precision number nearest to an integer, unless it is infinite. -/
def roundInt (n : Int) : Except ArithmeticFault Binary64 :=
  let x := Binary64.ofInt n
  if x.isFinite then .ok x else .error .overflow

/-- A number in double precision. -/
def toBinary64 : Number → Except ArithmeticFault Binary64
  | .int n => roundInt n
  | .float x => .ok x

/-- Extends an exact operation on integers and an operation in double precision to all numbers; the
left operand is rounded before the right one. -/
def lift (exact : Int → Int → Except ArithmeticFault Number)
    (rounded : Binary64 → Binary64 → Except ArithmeticFault Binary64) : Operation
  | .int a, .int b => exact a b
  | x, y => do return .float (← rounded (← x.toBinary64) (← y.toBinary64))

/-- The sum. -/
def add : Operation :=
  lift (fun a b => .ok (.int (a + b))) fun x y => .ok (x.add y)

/-- The difference. -/
def sub : Operation :=
  lift (fun a b => .ok (.int (a - b))) fun x y => .ok (x.sub y)

/-- The product. -/
def mul : Operation :=
  lift (fun a b => .ok (.int (a * b))) fun x y => .ok (x.mul y)

/-- The double precision number nearest to the quotient of two integers, unless it is infinite. -/
def roundQuotient (a b : Int) : Except ArithmeticFault Binary64 :=
  let x := Binary64.ofRatio ((a < 0) != (b < 0)) (a.natAbs * Binary64.unitsPerOne) b.natAbs
  if x.isFinite then .ok x else .error .overflow

/-- The quotient of two integers: exact where there is no remainder. -/
def divideInts (a b : Int) : Except ArithmeticFault Number :=
  if b = 0 then .error .divisionByZero
  else if b ∣ a then .ok (.int (a / b))
  else (roundQuotient a b).map .float

/-- An operation in double precision that has no result for a zero on the right. -/
def unlessZero (f : Binary64 → Binary64 → Binary64) (x y : Binary64) :
    Except ArithmeticFault Binary64 :=
  if y.isZero then .error .divisionByZero else .ok (f x y)

/-- The quotient. -/
def div : Operation :=
  lift divideInts (unlessZero Binary64.div)

/-- The remainder with the sign of the divisor. -/
def mod : Operation :=
  lift (fun a b => if b = 0 then .error .divisionByZero else .ok (.int (a.fmod b)))
    (unlessZero Binary64.flooredRemainder)

/-- Whether a number is an integer or a finite double precision number. -/
def isFinite : Number → Bool
  | .int _ => true
  | .float x => x.isFinite

end Number
end Abacus
