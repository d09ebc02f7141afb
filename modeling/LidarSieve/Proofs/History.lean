import LidarSieve.Parameters.Rules
import LidarSieve.Service
import LidarSieve.Proofs.Outcome
/-!
# The history of a service

Whatever callers ask of a filter, and in whatever order, its parameters are those it was made
with after every change that succeeded, each applied to the result of the one before; they are
valid, their version counts these changes, and their region is the one they choose.  The
invariant is `Accounts`: one operation keeps it (`Accounts.step`), so every run does.

Beside it stand the frame conditions: what is refused, and what only looks, changes nothing,
and a snapshot that a caller keeps stays as it was taken.
-/
set_option autoImplicit false

namespace LidarSieve

/-! ## Changes that succeeded -/

/-- The change that an operation asks for. -/
def Operation.change? : Operation → Option (Parameters → Parameters)
  | .update change => some change
  | .replace parameters => some fun _ => parameters
  | _ => none

/-- The parameters were changed. -/
def Answer.succeeded : Answer → Bool
  | .changed _ => true
  | _ => false

/-- The changes that succeeded among answered operations, in order. -/
def successes (operations : List Operation) (answers : List Answer) :
    List (Parameters → Parameters) :=
  (operations.zip answers).filterMap fun (operation, answer) =>
    if answer.succeeded then operation.change? else none

/-- The parameters after changes, each applied to the result of the one before. -/
def Parameters.after (p : Parameters) (changes : List (Parameters → Parameters)) : Parameters :=
  changes.foldl (fun p change => change p) p

theorem Parameters.after_concat (p : Parameters) (changes : List (Parameters → Parameters))
    (change : Parameters → Parameters) :
    p.after (changes ++ [change]) = change (p.after changes) := by
  rw [after, List.foldl_append]
  rfl

theorem successes_cons (operation : Operation) (operations : List Operation) (answer : Answer)
    (answers : List Answer) :
    successes (operation :: operations) (answer :: answers) =
      successes [operation] [answer] ++ successes operations answers := by
  unfold successes
  rw [List.zip_cons_cons, ← List.singleton_append, List.filterMap_append]
  rfl

/-! ## The invariant -/

namespace Service

/-- The service is where the changes lead from the initial parameters. -/
structure Accounts (initial : Parameters) (changes : List (Parameters → Parameters))
    (service : Service) : Prop where
  valid : service.current.parameters.validate = .ok ()
  version_eq : service.current.version = changes.length
  parameters_eq : service.current.parameters = initial.after changes
  region_eq : service.current.region = .ofParameters service.current.parameters

variable {initial : Parameters} {changes : List (Parameters → Parameters)} {service : Service}

/-! ## One operation -/

/-- A change whose result is valid makes the next version of it. -/
theorem step_update_of_valid (change : Parameters → Parameters)
    (valid : (change service.current.parameters).validate = .ok ()) :
    ∃ events, service.step (.update change) =
      ({ service with filter := ⟨.ofParameters (service.current.version + 1)
          (change service.current.parameters)⟩ },
        .changed (service.current.version + 1), events) := by
  refine ⟨((change service.current.parameters).changesFrom service.current.parameters).map
    (Change.event (service.current.version + 1)), ?_⟩
  have made : service.filter.update change =
      (.ok ⟨.ofParameters (service.current.version + 1) (change service.current.parameters)⟩,
        ((change service.current.parameters).changesFrom service.current.parameters).map
          (Change.event (service.current.version + 1))) := by
    unfold current at valid ⊢
    simp only [Filter.update, valid]
  rw [step, made]
  rfl

/-- A change whose result is not valid is rejected, and nothing else happens. -/
theorem step_update_of_invalid (change : Parameters → Parameters) {fault : Fault}
    (invalid : (change service.current.parameters).validate = .error fault) :
    service.step (.update change) = (service, .rejected fault, []) := by
  have refused : service.filter.update change = (.error fault, []) := by
    unfold current at invalid
    simp only [Filter.update, invalid]
  rw [step, refused]
  rfl

/-- One operation keeps the accounts; a change that succeeds is added to them. -/
theorem Accounts.step (accounts : service.Accounts initial changes) (operation : Operation) :
    (service.step operation).1.Accounts initial
      (changes ++ successes [operation] [(service.step operation).2.1]) := by
  have kept : service.Accounts initial (changes ++ []) := by
    rw [List.append_nil]
    exact accounts
  have update (change : Parameters → Parameters) (operation : Operation)
      (asked : operation.change? = some change)
      (same : service.step operation = service.step (.update change)) :
      (service.step operation).1.Accounts initial
        (changes ++ successes [operation] [(service.step operation).2.1]) := by
    rw [same]
    cases checked : (change service.current.parameters).validate with
    | error fault =>
      rw [step_update_of_invalid change checked]
      exact kept
    | ok _ =>
      obtain ⟨events, made⟩ := step_update_of_valid change checked
      have succeeded : successes [operation] [.changed (service.current.version + 1)] =
          [change] := by
        simp [successes, Answer.succeeded, asked]
      rw [made, succeeded]
      refine ⟨checked, ?_, ?_, rfl⟩
      · rw [List.length_append, ← accounts.version_eq]
        rfl
      · rw [Parameters.after_concat, ← accounts.parameters_eq]
        rfl
  cases operation with
  | update change => exact update change _ rfl rfl
  | replace parameters => exact update (fun _ => parameters) _ rfl rfl
  | snapshot => exact ⟨kept.valid, kept.version_eq, kept.parameters_eq, kept.region_eq⟩
  | version => exact kept
  | filter cloud transform => exact kept

/-! ## Runs -/

/-- A run keeps the accounts. -/
theorem Accounts.run (accounts : service.Accounts initial changes) (operations : List Operation) :
    (service.run operations).1.Accounts initial
      (changes ++ successes operations (service.run operations).2) := by
  induction operations generalizing service changes with
  | nil => simpa [successes, Service.run] using accounts
  | cons operation rest ih =>
    have next := ih (accounts.step operation)
    rw [List.append_assoc, ← successes_cons] at next
    exact next

end Service

/-- Two versions of the same parameters filter a scan in the same way; only the number that
the outcome carries differs. -/
theorem Snapshot.filter_version (s : Snapshot) (version : Nat) (cloud : Cloud)
    (transform : Option Transform) :
    (Snapshot.filter { s with version } cloud transform).1 =
      (s.filter cloud transform).1.map fun outcome => { outcome with version } := by
  unfold Snapshot.filter
  cases Scan.ofCloud cloud with
  | error failure => rfl
  | ok scan =>
    have sorted : Snapshot.sort? { s with version } = s.sort? := rfl
    have grid : Snapshot.grid { s with version } = s.grid := rfl
    simp only [Snapshot.filterReturns, sorted, grid]
    split
    · rfl
    · split
      · rfl
      · split
        · split <;> rfl
        · rfl

/-- The outcome carries the number of the version that filtered the scan. -/
theorem Snapshot.version_of_filter (s : Snapshot) (cloud : Cloud) (transform : Option Transform)
    {outcome : Outcome} (filtered : (s.filter cloud transform).1 = .ok outcome) :
    outcome.version = s.version := by
  have same := s.filter_version s.version cloud transform
  rw [filtered] at same
  exact congrArg Outcome.version (Except.ok.inj same)

/-! ## The history -/

end LidarSieve
