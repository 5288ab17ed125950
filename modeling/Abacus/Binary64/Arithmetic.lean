import Abacus.Binary64.Rounding

/-!
# Arithmetic in double precision

Each operation is exact on fractions of units and rounded once, with the usual rules for signed
zeros and infinities. Division and remainder are meant for a divisor that is not zero.
-/

namespace Abacus.Binary64

/-- The number with the opposite sign. -/
def neg : Binary64 → Binary64
  | .finite negative r => .finite (!negative) r
  | .infinite negative => .infinite (!negative)
  | .nan => .nan

/-- The nearest number to a whole number of units; a zero gets the given sign. -/
def ofUnits (zeroNegative : Bool) (units : Int) : Binary64 :=
  if units = 0 then zero zeroNegative else ofRatio (units < 0) units.natAbs 1

/-- The sum. A zero sum is negative only if both terms are. -/
def add : Binary64 → Binary64 → Binary64
  | .nan, _ | _, .nan => .nan
  | .infinite n, .infinite m => if n = m then .infinite n else .nan
  | .infinite n, .finite _ _ => .infinite n
  | .finite _ _, .infinite m => .infinite m
  | .finite n a, .finite m b =>
    ofUnits (n && m) (signed n (unitsOfRank a) + signed m (unitsOfRank b))

/-- The difference. -/
def sub (x y : Binary64) : Binary64 :=
  add x (neg y)

/-- The product. -/
def mul : Binary64 → Binary64 → Binary64
  | .nan, _ | _, .nan => .nan
  | .infinite n, .infinite m => .infinite (n != m)
  | .infinite n, .finite m b => if b.val = 0 then .nan else .infinite (n != m)
  | .finite n a, .infinite m => if a.val = 0 then .nan else .infinite (n != m)
  | .finite n a, .finite m b => ofRatio (n != m) (unitsOfRank a * unitsOfRank b) unitsPerOne

/-- The quotient by a divisor other than zero. -/
def div : Binary64 → Binary64 → Binary64
  | .nan, _ | _, .nan => .nan
  | .infinite _, .infinite _ => .nan
  | .infinite n, .finite m _ => .infinite (n != m)
  | .finite n _, .infinite m => zero (n != m)
  | .finite n a, .finite m b => ofRatio (n != m) (unitsOfRank a * unitsPerOne) (unitsOfRank b)

/-- The remainder of the division truncated toward zero: it has the sign of the dividend. -/
def truncatedRemainder : Binary64 → Binary64 → Binary64
  | .nan, _ | _, .nan => .nan
  | .infinite _, _ => .nan
  | x@(.finite _ _), .infinite _ => x
  | .finite n a, .finite _ b => ofRatio n (unitsOfRank a % unitsOfRank b) 1

/-- The remainder with the sign of the divisor, for a divisor other than zero: a truncated
remainder of the other sign is moved by one divisor, and a zero takes the divisor's sign. -/
def flooredRemainder (x y : Binary64) : Binary64 :=
  let rest := truncatedRemainder x y
  if rest.isZero then zero y.isNegative
  else if rest.isNegative = y.isNegative then rest
  else add rest y

end Abacus.Binary64
