import LidarSieve.Binary.Number
/-!
# JSON values

The values that a JSON document can hold.  Whole numbers and all other numbers are kept
apart, because a count may be written as the one and not as the other.
-/
set_option autoImplicit false

namespace LidarSieve

open LidarSieve.Binary

/-- A value of a JSON document. -/
inductive Json where
  | null
  | flag (b : Bool)
  | integer (i : Int)
  | real (x : Double)
  | text (s : String)
  | list (items : List Json)
  /-- The keys of a record are distinct. -/
  | record (entries : List (String × Json))

namespace Json

/-- The value of a key of a record. -/
def entry? (key : String) : Json → Option Json
  | record entries => entries.lookup key
  | _ => none

/-- The value as a text. -/
def text? : Json → Option String
  | text s => some s
  | _ => none

/-- The value as a count below a limit. -/
def count? (limit : Nat) : Json → Option Nat
  | integer (.ofNat n) => if n < limit then some n else none
  | _ => none

/-- A count as a value. -/
def count (n : Nat) : Json := integer n

end Json

end LidarSieve
