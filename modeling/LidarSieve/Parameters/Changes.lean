import LidarSieve.Parameters.Basic
/-!
# Changes of parameters

Which parameters differ between two sets, each with its old and its new value as shown.
-/
set_option autoImplicit false

namespace LidarSieve

/-- A parameter whose value is not the same as before. -/
structure Change where
  key : Key
  old : String
  new : String
  deriving DecidableEq, Repr

/-- The report of a change that made a version. -/
def Change.event (version : Nat) (change : Change) : Event :=
  .parameterSet version change.key.name change.old change.new

namespace Parameters

/-- The parameters that differ from those before, in the order of declaration. -/
def changesFrom (new old : Parameters) : List Change :=
  (Key.all.filter fun key => (old.get key).differs (new.get key)).map fun key =>
    ⟨key, (old.get key).render, (new.get key).render⟩

end Parameters

end LidarSieve
