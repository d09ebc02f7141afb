import LidarSieve.Binary.Number
/-!
# Arithmetic of words

Each operation answers the word nearest to the exact result.  Where there is no exact
result (a difference of like infinities, zero times infinity, zero over zero, the root
of a negative number) and where an operand is a not-a-number, the answer is the default
not-a-number.
-/
set_option autoImplicit false

namespace LidarSieve.Binary.Number

variable {f : Format}

/-- The nearest word to a sum of quanta; an exact zero has the sign `zeroSign`. -/
def ofQuanta (zeroSign : Bool) (total : Int) : Number f :=
  if total = 0 then zero zeroSign else rounded (decide (total < 0)) total.natAbs 1

/-- Sum.  An exact zero is negative only when both operands are. -/
def add (x y : Number f) : Number f :=
  if x.isNaN || y.isNaN then nan
  else if x.isInfinite then
    if y.isInfinite && x.negative != y.negative then nan else x
  else if y.isInfinite then y
  else ofQuanta (x.negative && y.negative) (x.quanta + y.quanta)

/-- Difference: the sum with the sign of the second operand turned. -/
def sub (x y : Number f) : Number f := add x y.negate

/-- Product; its sign is negative when the operands' signs differ. -/
def mul (x y : Number f) : Number f :=
  let sign := x.negative != y.negative
  if x.isNaN || y.isNaN then nan
  else if x.isInfinite || y.isInfinite then
    if x.isZero || y.isZero then nan else infinity sign
  else rounded sign (f.quanta x.magnitude * f.quanta y.magnitude) f.unit

/-- Quotient; its sign is negative when the operands' signs differ. -/
def div (x y : Number f) : Number f :=
  let sign := x.negative != y.negative
  if x.isNaN || y.isNaN then nan
  else if x.isInfinite then
    if y.isInfinite then nan else infinity sign
  else if y.isInfinite then zero sign
  else if y.isZero then
    if x.isZero then nan else infinity sign
  else rounded sign (f.quanta x.magnitude * f.unit) (f.quanta y.magnitude)

/-- Square root.  The root of a count of quanta has more places than the format keeps, so
its whole part decides the rounding; one half more stands for a root that is not whole. -/
def sqrt (x : Number f) : Number f :=
  if x.isNaN then nan
  else if x.isZero then x
  else if x.negative then nan
  else if x.isInfinite then x
  else
    let square := f.quanta x.magnitude * f.unit
    let root := square.sqrt
    rounded false (2 * root + if root * root = square then 0 else 1) 2

instance : Add (Number f) := ⟨add⟩
instance : Sub (Number f) := ⟨sub⟩
instance : Mul (Number f) := ⟨mul⟩
instance : Div (Number f) := ⟨div⟩

/-! ## Between formats -/

/-- The nearest word of another format; not-a-numbers become the default one under the
same sign. -/
def convert {g : Format} (x : Number f) : Number g :=
  if x.isNaN then ⟨x.negative, g.quietNaN, g.quietNaN_lt_bound⟩
  else if x.isInfinite then infinity x.negative
  else rounded x.negative (f.quanta x.magnitude * g.unit) f.unit

end LidarSieve.Binary.Number
