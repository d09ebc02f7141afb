/-!
# Words as octets

A word of `width` octets is written with the least significant octet first (little-endian)
or last (big-endian).  Reading a written word gives it back modulo `256 ^ width`.
-/
set_option autoImplicit false

namespace LidarSieve

/-- A buffer of octets. -/
abbrev Octets : Type := Array UInt8

/-- Which end of a word is written first. -/
inductive ByteOrder where
  | little
  | big
  deriving DecidableEq, Repr, Inhabited

namespace ByteOrder

/-- The order that a cloud's flag names. -/
def ofFlag (bigEndian : Bool) : ByteOrder := if bigEndian then .big else .little

/-- The flag that names the order. -/
def isBig (order : ByteOrder) : Bool := order == .big

/-- The octets of a word, least significant first. -/
def ascending : Nat → Nat → List UInt8
  | 0, _ => []
  | width + 1, word => UInt8.ofNat word :: ascending width (word / 256)

/-- The word of octets that stand least significant first. -/
def sumAscending : List UInt8 → Nat
  | [] => 0
  | octet :: rest => octet.toNat + 256 * sumAscending rest

/-- The `width` octets of a word. -/
def encode (order : ByteOrder) (width word : Nat) : List UInt8 :=
  match order with
  | .little => ascending width word
  | .big => (ascending width word).reverse

/-- The word that octets stand for. -/
def decode (order : ByteOrder) (octets : List UInt8) : Nat :=
  match order with
  | .little => sumAscending octets
  | .big => sumAscending octets.reverse

/-- The flag is up for the words whose most significant octet is written first. -/
theorem ofFlag_eq_big_iff {flag : Bool} : ofFlag flag = .big ↔ flag = true := by
  cases flag <;> decide

theorem isBig_ofFlag (flag : Bool) : (ofFlag flag).isBig = flag := by cases flag <;> rfl

theorem ofFlag_isBig (order : ByteOrder) : ofFlag order.isBig = order := by cases order <;> rfl

theorem length_ascending (width word : Nat) : (ascending width word).length = width := by
  induction width generalizing word with
  | zero => rfl
  | succ width ih => simp [ascending, ih]

theorem length_encode (order : ByteOrder) (width word : Nat) :
    (order.encode width word).length = width := by
  cases order <;> simp [encode, length_ascending]

theorem sumAscending_ascending (width word : Nat) :
    sumAscending (ascending width word) = word % Nat.pow 256 width := by
  induction width generalizing word with
  | zero => simp [ascending, sumAscending, Nat.mod_one]
  | succ width ih =>
    rw [ascending, sumAscending, ih, Nat.pow_eq, Nat.pow_eq, Nat.pow_succ', Nat.mod_mul]
    simp

/-- Reading a written word gives it back, if it fits. -/
theorem decode_encode (order : ByteOrder) (width word : Nat) :
    order.decode (order.encode width word) = word % Nat.pow 256 width := by
  cases order <;> simp [decode, encode, sumAscending_ascending]

end ByteOrder

/-- The `width` octets of a buffer from `start` on; fewer if the buffer ends before. -/
def Octets.slice (buffer : Octets) (start width : Nat) : List UInt8 :=
  (buffer.extract start (start + width)).toList

end LidarSieve
