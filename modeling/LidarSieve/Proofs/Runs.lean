import Mathlib.Data.List.SplitBy
/-!
# Longest runs

A list falls apart into its longest runs of related neighbours in exactly one way.  The
rule is stated here without a procedure (`MaximalRuns`); that `List.splitBy` follows it, and
that nothing else does, are its two laws.  A relation that holds of fewer neighbours cuts
these runs further and joins none of them (`MaximalRuns.splitBy_eq_flatMap`).
-/
set_option autoImplicit false

namespace LidarSieve

variable {α β : Type}

/-- The runs, read one after the other, are the whole; none is empty; neighbours inside a run
are related; and the last of a run is not related to the first of the next one. -/
structure MaximalRuns (related : α → α → Bool) (whole : List α) (runs : List (List α)) :
    Prop where
  flatten_eq : runs.flatten = whole
  ne_nil : ∀ run ∈ runs, run ≠ []
  linked : ∀ run ∈ runs, run.IsChain fun a b => related a b = true
  apart : runs.IsChain fun left right =>
    ∀ a ∈ left.getLast?, ∀ b ∈ right.head?, related a b = false

/-- Every list has longest runs. -/
theorem maximalRuns_splitBy (related : α → α → Bool) (whole : List α) :
    MaximalRuns related whole (whole.splitBy related) where
  flatten_eq := List.flatten_splitBy related whole
  ne_nil _ mem := List.ne_nil_of_mem_splitBy mem
  linked _ mem := List.isChain_of_mem_splitBy mem
  apart := by
    refine (List.isChain_getLast_head_splitBy related whole).imp ?_
    rintro left right ⟨some_left, some_right, unrelated⟩ a last b first
    rw [List.getLast?_eq_some_getLast some_left, Option.mem_some] at last
    rw [List.head?_eq_some_head some_right, Option.mem_some] at first
    rw [← last, ← first]
    exact unrelated

namespace MaximalRuns

variable {related : α → α → Bool} {whole : List α} {runs : List (List α)}

/-- There is no other way to cut a list into its longest runs. -/
theorem eq_splitBy (maximal : MaximalRuns related whole runs) : runs = whole.splitBy related := by
  refine (List.splitBy_eq_iff.mpr ⟨maximal.flatten_eq.symm, ?_, maximal.linked, ?_⟩).symm
  · intro mem
    exact maximal.ne_nil [] mem rfl
  · refine maximal.apart.imp_of_mem_imp ?_
    intro left right left_mem right_mem unrelated
    have some_left := maximal.ne_nil left left_mem
    have some_right := maximal.ne_nil right right_mem
    exact ⟨some_left, some_right,
      unrelated _ (List.getLast?_eq_some_getLast some_left) _
        (List.head?_eq_some_head some_right)⟩

/-- The runs behind the first one are the longest runs of what they hold. -/
theorem tail {run : List α} (maximal : MaximalRuns related whole (run :: runs)) :
    MaximalRuns related runs.flatten runs where
  flatten_eq := rfl
  ne_nil other mem := maximal.ne_nil other (List.mem_cons_of_mem _ mem)
  linked other mem := maximal.linked other (List.mem_cons_of_mem _ mem)
  apart := maximal.apart.tail

/-- The first run is not related to what stands behind it. -/
theorem apart_behind {run : List α} (maximal : MaximalRuns related whole (run :: runs)) :
    ∀ a ∈ run.getLast?, ∀ b ∈ runs.flatten.head?, related a b = false := by
  cases runs with
  | nil => exact fun _ _ _ mem => nomatch mem
  | cons next rest =>
    have filled : next ≠ [] := maximal.tail.ne_nil next List.mem_cons_self
    rw [List.flatten_cons, List.head?_append_of_ne_nil _ filled]
    exact maximal.apart.rel

/-- Cutting the runs again by a relation that holds of fewer neighbours gives the longest runs of
that relation. -/
theorem splitBy_eq_flatMap {fine : α → α → Bool}
    (fewer : ∀ a b, fine a b = true → related a b = true)
    (maximal : MaximalRuns related whole runs) :
    whole.splitBy fine = runs.flatMap fun run => run.splitBy fine := by
  induction runs generalizing whole with
  | nil =>
    rw [← maximal.flatten_eq]
    rfl
  | cons run rest ih =>
    rw [← maximal.flatten_eq, List.flatten_cons, List.flatMap_cons, List.splitBy_append,
      ih maximal.tail]
    intro a last b first
    cases joined : fine a b with
    | false => rfl
    | true =>
      have apart := maximal.apart_behind a last b first
      rw [fewer a b joined] at apart
      cases apart

/-- Renaming the elements renames the runs. -/
theorem map {f : β → α} {whole : List β} {runs : List (List β)}
    (maximal : MaximalRuns (fun a b => related (f a) (f b)) whole runs) :
    MaximalRuns related (whole.map f) (runs.map (List.map f)) where
  flatten_eq := by rw [← maximal.flatten_eq, List.map_flatten]
  ne_nil := by
    intro run mem
    obtain ⟨before, held, rfl⟩ := List.mem_map.mp mem
    simpa using maximal.ne_nil before held
  linked := by
    intro run mem
    obtain ⟨before, held, rfl⟩ := List.mem_map.mp mem
    exact List.isChain_map_of_isChain f (fun _ _ step => step) (maximal.linked before held)
  apart := by
    refine List.isChain_map_of_isChain (List.map f) ?_ maximal.apart
    intro left right unrelated a last b first
    rw [List.getLast?_map, Option.mem_def, Option.map_eq_some_iff] at last
    rw [List.head?_map, Option.mem_def, Option.map_eq_some_iff] at first
    obtain ⟨a, last, rfl⟩ := last
    obtain ⟨b, first, rfl⟩ := first
    exact unrelated a last b first

end MaximalRuns

theorem map_splitBy (related : α → α → Bool) (f : β → α) (whole : List β) :
    (whole.splitBy fun a b => related (f a) (f b)).map (List.map f) =
      (whole.map f).splitBy related :=
  (maximalRuns_splitBy _ whole).map.eq_splitBy

/-- Cutting several lists into runs loses nothing. -/
theorem flatten_flatMap_splitBy (related : α → α → Bool) (lists : List (List α)) :
    (lists.flatMap fun whole => whole.splitBy related).flatten = lists.flatten := by
  induction lists with
  | nil => rfl
  | cons whole rest ih =>
    rw [List.flatMap_cons, List.flatten_append, List.flatten_splitBy, ih, List.flatten_cons]

end LidarSieve
