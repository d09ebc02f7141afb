import LidarSieve.Proofs.Outcome
/-!
# The walks of a ring are its one segmentation

A segmentation is stated by positions alone (`Walk.Segments`): its walks are read off one after
the other without a gap or an overlap, every step inside a walk joins two neighbours, and no step
from a walk to the next one does.  At most one list of walks is a segmentation
(`Walk.Segments.unique`), and the walks of a ring are one (`walks_segments`).

Walks can also be taken from a ring one at a time (`Walker`): from the first position that is not
yet taken, as far as the neighbours go on to be continuous.  This comes to its end after at most
as many walks as there are returns, and gives the same walks (`Walker.run_start`).
-/
set_option autoImplicit false

namespace LidarSieve

open LidarSieve.Binary

/-! ## Segmentations -/

/-- The walks divide the positions from `start` up to `stop`, both inside a walk and between two
walks as the steps from position to position demand. -/
structure Walk.Segments (joined : Nat → Nat → Prop) (start stop : Nat) (walks : List Walk) :
    Prop where
  first_le_last : ∀ walk ∈ walks, walk.first ≤ walk.last
  /-- Read in order, the walks go through every position once. -/
  covers : walks.flatMap Walk.positions = List.range' start (stop - start)
  linked : ∀ walk ∈ walks, ∀ position, walk.first ≤ position → position < walk.last →
    joined position (position + 1)
  apart : walks.IsChain fun before after => ¬ joined before.last after.first

namespace Walk

variable {joined : Nat → Nat → Prop} {start stop : Nat} {walk : Walk} {rest : List Walk}

/-- A walk that goes from its start as far as steps join, and no further. -/
structure IsLongest (joined : Nat → Nat → Prop) (stop : Nat) (walk : Walk) : Prop where
  first_le_last : walk.first ≤ walk.last
  last_lt : walk.last < stop
  linked : ∀ position, walk.first ≤ position → position < walk.last →
    joined position (position + 1)
  ended : walk.last + 1 < stop → ¬ joined walk.last (walk.last + 1)

/-- There is one such walk from each position. -/
theorem IsLongest.unique {one other : Walk} (longest : one.IsLongest joined stop)
    (longest' : other.IsLongest joined stop) (same : one.first = other.first) : one = other := by
  have last_le {a b : Walk} (ha : a.IsLongest joined stop) (hb : b.IsLongest joined stop)
      (same : a.first = b.first) : a.last ≤ b.last := by
    by_contra longer
    have inside : b.last < a.last := Nat.lt_of_not_le longer
    have start_le : a.first ≤ b.last := same ▸ hb.first_le_last
    have within : b.last + 1 < stop := Nat.lt_of_le_of_lt inside ha.last_lt
    exact hb.ended within (ha.linked b.last start_le inside)
  obtain ⟨first, last⟩ := one
  obtain ⟨first', last'⟩ := other
  have equal : last = last' :=
    Nat.le_antisymm (last_le longest longest' same) (last_le longest' longest same.symm)
  simp only at same
  rw [same, equal]

theorem segments_nil : Segments joined stop stop [] where
  first_le_last _ mem := nomatch mem
  covers := by simp
  linked _ mem := nomatch mem
  apart := List.IsChain.nil

theorem Segments.stop_le_of_nil (segments : Segments joined start stop []) : stop ≤ start := by
  have counted := congrArg List.length segments.covers
  rw [List.flatMap_nil, List.length_nil, List.length_range'] at counted
  omega

theorem positions_eq (le : walk.first ≤ walk.last) :
    walk.positions = walk.first :: List.range' (walk.first + 1) (walk.last - walk.first) := by
  have size : walk.size = walk.last - walk.first + 1 := by
    unfold size
    omega
  rw [positions, size, List.range'_succ]

/-- The first walk of a segmentation begins at the start and stays in front of the stop; the
other walks divide what it leaves. -/
theorem Segments.tail (segments : Segments joined start stop (walk :: rest)) :
    walk.first = start ∧ walk.last < stop ∧ Segments joined (walk.last + 1) stop rest := by
  have le := segments.first_le_last walk List.mem_cons_self
  have covers := segments.covers
  have nonempty : stop - start ≠ 0 := by
    intro empty
    rw [empty, List.flatMap_cons, positions_eq le] at covers
    cases covers
  have first : walk.first = start := by
    obtain ⟨count, count_eq⟩ := Nat.exists_eq_succ_of_ne_zero nonempty
    rw [count_eq, List.range'_succ, List.flatMap_cons, positions_eq le] at covers
    exact (List.cons.inj covers).1
  have size : walk.size = walk.last + 1 - start := by rw [Walk.size, first]
  have counted : walk.size + (rest.flatMap Walk.positions).length = stop - start := by
    have total := congrArg List.length covers
    rw [List.flatMap_cons, List.length_append, List.length_range', positions,
      List.length_range'] at total
    exact total
  have last : walk.last < stop := by omega
  have split : List.range' start (stop - start) =
      walk.positions ++ List.range' (walk.last + 1) (stop - (walk.last + 1)) := by
    rw [positions, first, size]
    have parts : stop - start = (walk.last + 1 - start) + (stop - (walk.last + 1)) := by omega
    have next : start + (walk.last + 1 - start) = walk.last + 1 := by omega
    rw [parts, ← List.range'_append_1, next]
  rw [List.flatMap_cons, split] at covers
  exact ⟨first, last,
    { first_le_last := fun other mem => segments.first_le_last other (List.mem_cons_of_mem _ mem)
      covers := List.append_cancel_left covers
      linked := fun other mem => segments.linked other (List.mem_cons_of_mem _ mem)
      apart := segments.apart.tail }⟩

/-- The first walk of a segmentation is the longest one from the start. -/
theorem Segments.isLongest (segments : Segments joined start stop (walk :: rest)) :
    walk.IsLongest joined stop := by
  obtain ⟨-, last, behind⟩ := segments.tail
  refine ⟨segments.first_le_last walk List.mem_cons_self, last,
    segments.linked walk List.mem_cons_self, fun more => ?_⟩
  cases rest with
  | nil =>
    have := behind.stop_le_of_nil
    omega
  | cons next rest =>
    obtain ⟨first, -, -⟩ := behind.tail
    have apart := segments.apart.rel
    rw [first] at apart
    exact apart

/-- There is at most one segmentation. -/
theorem Segments.unique {one other : List Walk} (segments : Segments joined start stop one)
    (segments' : Segments joined start stop other) : one = other := by
  induction one generalizing start other with
  | nil =>
    have stop_le := segments.stop_le_of_nil
    cases other with
    | nil => rfl
    | cons walk rest =>
      obtain ⟨first, last, -⟩ := segments'.tail
      have := segments'.first_le_last walk List.mem_cons_self
      omega
  | cons walk rest ih =>
    obtain ⟨first, last, behind⟩ := segments.tail
    cases other with
    | nil =>
      have := segments'.stop_le_of_nil
      have := segments.first_le_last walk List.mem_cons_self
      omega
    | cons walk' rest' =>
      obtain ⟨first', -, behind'⟩ := segments'.tail
      have same : walk = walk' :=
        segments.isLongest.unique segments'.isLongest (first.trans first'.symm)
      rw [← same] at behind' ⊢
      rw [ih behind behind']

/-- The longest walk from the start and a segmentation of what it leaves make one. -/
theorem Segments.cons (first : walk.first = start) (longest : walk.IsLongest joined stop)
    (behind : Segments joined (walk.last + 1) stop rest) :
    Segments joined start stop (walk :: rest) := by
  subst first
  have le := longest.first_le_last
  have last := longest.last_lt
  refine ⟨?_, ?_, ?_, ?_⟩
  · intro other mem
    rcases List.mem_cons.mp mem with rfl | mem
    · exact le
    · exact behind.first_le_last other mem
  · have parts : stop - walk.first = walk.size + (stop - (walk.last + 1)) := by
      unfold size
      omega
    have next : walk.first + walk.size = walk.last + 1 := by
      unfold size
      omega
    rw [List.flatMap_cons, behind.covers, positions, parts, ← List.range'_append_1, next]
  · intro other mem
    rcases List.mem_cons.mp mem with rfl | mem
    · exact longest.linked
    · exact behind.linked other mem
  · cases rest with
    | nil => exact List.IsChain.singleton walk
    | cons next rest =>
      obtain ⟨first, bound, -⟩ := behind.tail
      have := behind.first_le_last next List.mem_cons_self
      refine List.IsChain.cons_cons ?_ behind.apart
      rw [first]
      exact longest.ended (by omega)

/-- A segmentation has no more walks than positions. -/
theorem Segments.length_le {walks : List Walk} (segments : Segments joined start stop walks) :
    walks.length ≤ stop - start := by
  induction walks generalizing start with
  | nil => exact Nat.zero_le _
  | cons walk rest ih =>
    obtain ⟨first, last, behind⟩ := segments.tail
    have le := segments.first_le_last walk List.mem_cons_self
    have counted := ih behind
    rw [List.length_cons]
    omega

end Walk

/-! ## Taking walks one at a time -/

/-- A ring whose walks are taken one after the other, the next one from position `next` on. -/
structure Walker where
  ratio : Single
  ring : List Return
  next : Nat

namespace Walker

/-- A ring of which nothing is taken yet; a ring of fewer than two returns has nothing to take. -/
def start (ratio : Single) (ring : List Return) : Walker :=
  ⟨ratio, ring, if ring.length < 2 then ring.length else 0⟩

/-- How many of the returns behind one go on to be continuous. -/
def reach (ratio : Single) : Return → List Return → Nat
  | _, [] => 0
  | current, next :: rest => if continues ratio current next then reach ratio next rest + 1 else 0

/-- Takes the next walk, if any return is left. -/
def step? (walker : Walker) : Option (Walk × Walker) :=
  match walker.ring.drop walker.next with
  | [] => none
  | current :: rest =>
    let last := walker.next + reach walker.ratio current rest
    some (⟨walker.next, last⟩, { walker with next := last + 1 })

/-- Takes walks until none is left, but no more than the bound. -/
def run : Nat → Walker → List Walk
  | 0, _ => []
  | bound + 1, walker =>
    match walker.step? with
    | none => []
    | some (walk, walker) => walk :: run bound walker

end Walker

/-- The elements at two positions of a list are related. -/
def RelatedAt {α : Type} (related : α → α → Bool) (list : List α) (i j : Nat) : Prop :=
  ∃ a ∈ list[i]?, ∃ b ∈ list[j]?, related a b = true

/-- Counting goes as far as the returns are continuous, and no further. -/
theorem Walker.reach_spec (ratio : Single) (current : Return) (rest : List Return) :
    let related := RelatedAt (continues ratio) (current :: rest)
    let last := reach ratio current rest
    last < (current :: rest).length ∧ (∀ position < last, related position (position + 1)) ∧
      ¬ related last (last + 1) := by
  induction rest generalizing current with
  | nil => simp [reach, RelatedAt]
  | cons next rest ih =>
    by_cases joined : continues ratio current next = true
    · obtain ⟨bound, linked, ended⟩ := ih next
      simp only [reach, if_pos joined]
      refine ⟨Nat.succ_lt_succ bound, fun position below => ?_, ended⟩
      cases position with
      | zero => exact ⟨current, rfl, next, rfl, joined⟩
      | succ position => exact linked position (Nat.lt_of_succ_lt_succ below)
    · simp only [reach, if_neg joined]
      refine ⟨Nat.zero_lt_succ _, fun position below => absurd below (Nat.not_lt_zero _), ?_⟩
      rintro ⟨a, at_a, b, at_b, related⟩
      cases at_a
      cases at_b
      exact joined related

theorem relatedAt_drop {α : Type} (related : α → α → Bool) (list : List α) (count i j : Nat) :
    RelatedAt related (list.drop count) i j ↔ RelatedAt related list (count + i) (count + j) := by
  rw [RelatedAt, RelatedAt, List.getElem?_drop, List.getElem?_drop]

namespace Walker

/-- The step takes the longest walk from its position on. -/
theorem step?_spec (walker : Walker) (some_left : walker.next < walker.ring.length) :
    ∃ walk, walker.step? = some (walk, { walker with next := walk.last + 1 }) ∧
      walk.first = walker.next ∧
      walk.IsLongest (RelatedAt (continues walker.ratio) walker.ring) walker.ring.length := by
  obtain ⟨current, rest, left⟩ :
      ∃ current rest, walker.ring.drop walker.next = current :: rest := by
    rw [← List.ne_nil_iff_exists_cons, ne_eq, List.drop_eq_nil_iff]
    omega
  obtain ⟨bound, linked, ended⟩ := reach_spec walker.ratio current rest
  have size : (current :: rest).length = walker.ring.length - walker.next := by
    rw [← left, List.length_drop]
  have moved (i : Nat) : RelatedAt (continues walker.ratio) (current :: rest) i (i + 1) ↔
      RelatedAt (continues walker.ratio) walker.ring (walker.next + i) (walker.next + i + 1) := by
    rw [← left]
    exact relatedAt_drop _ _ _ i (i + 1)
  refine ⟨⟨walker.next, walker.next + reach walker.ratio current rest⟩, ?_, rfl, ?_⟩
  · rw [step?, left]
  · refine ⟨Nat.le_add_right _ _, ?_, fun position from_next below => ?_, fun _ => ?_⟩
    · simp only
      omega
    · simp only at from_next below
      have step := (moved (position - walker.next)).mp (linked _ (by omega))
      rw [Nat.add_sub_cancel' from_next] at step
      exact step
    · exact fun joined => ended ((moved _).mpr joined)

theorem step?_of_le (walker : Walker) (none_left : walker.ring.length ≤ walker.next) :
    walker.step? = none := by
  rw [step?, List.drop_eq_nil_of_le none_left]

/-- Taking walks as often as there are positions left gives a segmentation of them. -/
theorem run_segments (walker : Walker) (bound : Nat) (le : walker.next ≤ walker.ring.length)
    (enough : walker.ring.length - walker.next ≤ bound) :
    Walk.Segments (RelatedAt (continues walker.ratio) walker.ring) walker.next walker.ring.length
      (walker.run bound) := by
  induction bound generalizing walker with
  | zero =>
    have ended : walker.next = walker.ring.length := by omega
    rw [ended]
    exact Walk.segments_nil
  | succ bound ih =>
    rcases Nat.lt_or_ge walker.next walker.ring.length with some_left | none_left
    · obtain ⟨walk, taken, first, longest⟩ := walker.step?_spec some_left
      have start_le := longest.first_le_last
      have last := longest.last_lt
      have behind := ih { walker with next := walk.last + 1 } last (by simp only; omega)
      rw [run, taken]
      exact .cons first longest behind
    · have ended : walker.next = walker.ring.length := by omega
      rw [run, step?_of_le walker none_left, ended]
      exact Walk.segments_nil

end Walker

/-! ## The walks of a ring -/

/-- A run of related neighbours that ends where the next element is not related is a longest walk
of the whole. -/
theorem isLongest_run {α : Type} {related : α → α → Bool} (before : List α) {run : List α}
    (after : List α) (filled : run ≠ []) (linked : run.IsChain fun a b => related a b = true)
    (apart : ∀ a ∈ run.getLast?, ∀ b ∈ after.head?, related a b = false) :
    (⟨before.length, before.length + run.length - 1⟩ : Walk).IsLongest
      (RelatedAt related (before ++ (run ++ after))) (before ++ (run ++ after)).length := by
  have some_run : 0 < run.length := List.length_pos_of_ne_nil filled
  have total : (before ++ (run ++ after)).length = before.length + run.length + after.length := by
    rw [List.length_append, List.length_append, Nat.add_assoc]
  have in_run (i : Nat) (inside : i < run.length) :
      (before ++ (run ++ after))[before.length + i]? = run[i]? := by
    rw [List.getElem?_append_right (Nat.le_add_right _ _), Nat.add_sub_cancel_left,
      List.getElem?_append_left inside]
  have behind_run : (before ++ (run ++ after))[before.length + run.length]? = after.head? := by
    rw [List.getElem?_append_right (Nat.le_add_right _ _), Nat.add_sub_cancel_left,
      List.getElem?_append_right (Nat.le_refl _), Nat.sub_self, List.head?_eq_getElem?]
  have last_eq : before.length + run.length - 1 = before.length + (run.length - 1) := by omega
  have next_eq : before.length + (run.length - 1) + 1 = before.length + run.length := by omega
  refine ⟨?_, ?_, fun position from_first below => ?_, fun _ => ?_⟩
  · simp only
    omega
  · rw [total]
    simp only
    omega
  · simp only at from_first below
    obtain ⟨i, rfl⟩ := Nat.exists_eq_add_of_le from_first
    have inside : i + 1 < run.length := by omega
    refine ⟨run[i], ?_, run[i + 1], ?_, List.isChain_iff_getElem.mp linked i inside⟩
    · rw [in_run i (Nat.lt_of_succ_lt inside), Option.mem_def, List.getElem?_eq_getElem]
    · rw [Nat.add_assoc, in_run (i + 1) inside, Option.mem_def, List.getElem?_eq_getElem]
  · rintro ⟨a, at_last, b, at_next, joined⟩
    simp only [last_eq] at at_last at_next
    rw [in_run _ (by omega), ← List.getLast?_eq_getElem?] at at_last
    rw [next_eq, behind_run] at at_next
    rw [apart a at_last b at_next] at joined
    cases joined

/-- The walks of longest runs, laid out one after the other, segment the positions behind those
of what stands in front. -/
theorem MaximalRuns.segments {α : Type} {related : α → α → Bool} (before : List α)
    {whole : List α} {runs : List (List α)} (maximal : MaximalRuns related whole runs) :
    Walk.Segments (RelatedAt related (before ++ whole)) before.length (before ++ whole).length
      (Walk.consecutive before.length (runs.map List.length)) := by
  induction runs generalizing before whole with
  | nil =>
    rw [← maximal.flatten_eq, List.flatten_nil, List.append_nil]
    exact Walk.segments_nil
  | cons run rest ih =>
    have filled : run ≠ [] := maximal.ne_nil run List.mem_cons_self
    have some_run : 0 < run.length := List.length_pos_of_ne_nil filled
    have behind := ih (before ++ run) maximal.tail
    have next : before.length + run.length - 1 + 1 = before.length + run.length := by omega
    rw [List.append_assoc, List.length_append] at behind
    rw [← maximal.flatten_eq, List.flatten_cons, List.map_cons, Walk.consecutive]
    refine Walk.Segments.cons rfl (isLongest_run before rest.flatten filled
      (maximal.linked run List.mem_cons_self) maximal.apart_behind) ?_
    simp only [next]
    exact behind

/-- The walks of a ring of two or more returns segment its positions. -/
theorem walks_segments (ratio : Single) (ring : List Return) (two : 2 ≤ ring.length) :
    Walk.Segments (RelatedAt (continues ratio) ring) 0 ring.length (walks ratio ring) := by
  rw [walks, runs, if_neg (Nat.not_lt_of_le two)]
  exact (maximalRuns_splitBy (continues ratio) ring).segments []

/-- Walks depend on which records continue each other, and on nothing else. -/
theorem walks_congr {ratio ratio' : Single} {ring other : List Return}
    (length : other.length = ring.length)
    (same : ∀ i j, RelatedAt (continues ratio') other i j ↔ RelatedAt (continues ratio) ring i j) :
    walks ratio' other = walks ratio ring := by
  rcases Nat.lt_or_ge ring.length 2 with alone | two
  · rw [walks, walks, runs, runs, if_pos alone, if_pos (length ▸ alone)]
  · have segments := walks_segments ratio' other (length ▸ two)
    have joined : RelatedAt (continues ratio') other = RelatedAt (continues ratio) ring := by
      funext i j
      exact propext (same i j)
    rw [joined, length] at segments
    exact segments.unique (walks_segments ratio ring two)

/-- Taking walks one at a time gives the walks of the ring, if it is done as often as there are
returns. -/
theorem Walker.run_start (ratio : Single) (ring : List Return) (bound : Nat)
    (enough : ring.length ≤ bound) : (start ratio ring).run bound = walks ratio ring := by
  rcases Nat.lt_or_ge ring.length 2 with alone | two
  · have stopped : (start ratio ring).step? = none := by
      refine step?_of_le _ ?_
      rw [start, if_pos alone]
    rw [walks, runs, if_pos alone]
    cases bound with
    | zero => rfl
    | succ bound => rw [run, stopped]; rfl
  · have taken := (start ratio ring).run_segments bound
      (by rw [start, if_neg (Nat.not_lt_of_le two)]; exact Nat.zero_le _)
      (by rw [start, if_neg (Nat.not_lt_of_le two)]; exact enough)
    simp only [start, if_neg (Nat.not_lt_of_le two)] at taken
    rw [start, if_neg (Nat.not_lt_of_le two)]
    exact taken.unique (walks_segments ratio ring two)

/-! ## Rings that list records of a scan -/

/-- The records that a ring lists at two positions exist, and the second one continues the walk
of the first. -/
def Scan.JoinsAt (scan : Scan) (ratio : Single) (ring : List Nat) (i j : Nat) : Prop :=
  ∃ current ∈ ring[i]?.bind scan.return?, ∃ next ∈ ring[j]?.bind scan.return?,
    continues ratio current next = true

/-- Records that exist are looked up one by one. -/
theorem Scan.mapM_returns (scan : Scan) (ring : List Nat)
    (valid : ∀ index ∈ ring, index < scan.length) :
    ∃ members, ring.mapM (scan.returns[·]?) = some members ∧ members.length = ring.length ∧
      ∀ i : Nat, members[i]? = ring[i]?.bind scan.return? := by
  induction ring with
  | nil => exact ⟨[], rfl, rfl, fun i => by simp⟩
  | cons index rest ih =>
    obtain ⟨members, found, length, reads⟩ :=
      ih fun other mem => valid other (List.mem_cons_of_mem _ mem)
    have read := scan.getElem?_returns index
    rw [return?, if_pos (valid index List.mem_cons_self)] at read
    refine ⟨scan.layout.read scan.data (index * scan.layout.step) :: members, ?_, ?_, ?_⟩
    · rw [List.mapM_cons, read, found]
      rfl
    · rw [List.length_cons, List.length_cons, length]
    · intro i
      cases i with
      | zero =>
        rw [List.getElem?_cons_zero, List.getElem?_cons_zero, Option.bind_some, return?,
          if_pos (valid index List.mem_cons_self)]
      | succ i =>
        rw [List.getElem?_cons_succ, List.getElem?_cons_succ]
        exact reads i

/-- The records of a ring that lists records of the scan are found. -/
theorem Scan.exists_ringReturns? (scan : Scan) (ring : List Nat)
    (valid : ∀ index ∈ ring, index < scan.length) :
    ∃ members, ringReturns? scan.returns ring = some members := by
  unfold ringReturns?
  split
  · exact ⟨[], rfl⟩
  · obtain ⟨members, found, -, -⟩ := scan.mapM_returns ring valid
    exact ⟨members, found⟩

/-- The records of a ring that lists records of the scan are found.  The walks of a ring of two or
more are its one segmentation: they cover the positions once and in order, the records continue
each other inside a walk, and do not from the end of a walk to the start of the next.  A ring of
fewer has no walks.  Taking walks one at a time gives the same walks, and comes to its end after
at most as many of them as the ring lists records. -/
theorem Scan.walks_eq_iff_segments (scan : Scan) (ratio : Single) (ring : List Nat)
    (valid : ∀ index ∈ ring, index < scan.length) :
    ∃ members, ringReturns? scan.returns ring = some members ∧
      (ring.length < 2 → walks ratio members = []) ∧
      (2 ≤ ring.length → ∀ cut : List Walk,
        Walk.Segments (scan.JoinsAt ratio ring) 0 ring.length cut ↔ cut = walks ratio members) ∧
      (walks ratio members).length ≤ ring.length ∧
      ∀ bound, ring.length ≤ bound →
        (Walker.start ratio members).run bound = walks ratio members := by
  rcases Nat.lt_or_ge ring.length 2 with alone | two
  · refine ⟨[], by rw [ringReturns?, if_pos alone], fun _ => rfl, fun two => ?_, Nat.zero_le _,
      fun bound _ => Walker.run_start ratio [] bound (Nat.zero_le _)⟩
    omega
  · obtain ⟨members, found, length, reads⟩ := scan.mapM_returns ring valid
    have joined : RelatedAt (continues ratio) members = scan.JoinsAt ratio ring := by
      funext i j
      rw [RelatedAt, JoinsAt, reads i, reads j]
    have segments := walks_segments ratio members (by omega)
    rw [joined, length] at segments
    refine ⟨members, by rw [ringReturns?, if_neg (Nat.not_lt_of_le two), found], fun alone => ?_,
      fun _ cut => ?_, segments.length_le, fun bound enough => ?_⟩
    · omega
    · constructor
      · intro other
        exact other.unique segments
      · rintro rfl
        exact segments
    · exact Walker.run_start ratio members bound (by omega)

theorem Scan.walks_of_sampleRing :
    (∀ index ∈ [0, 2, 4, 6], index < sampleScan.length) ∧
      ∃ members, ringReturns? sampleScan.returns [0, 2, 4, 6] = some members ∧
        Walk.Segments (sampleScan.JoinsAt (Number.ofDecimal false ⟨103, -2⟩) [0, 2, 4, 6]) 0 4
          (walks (Number.ofDecimal false ⟨103, -2⟩) members) ∧
        (Walker.start (Number.ofDecimal false ⟨103, -2⟩) members).run 4 = [⟨0, 2⟩, ⟨3, 3⟩] := by
  have valid : ∀ index ∈ [0, 2, 4, 6], index < sampleScan.length := by decide
  refine ⟨valid, ?_⟩
  obtain ⟨members, found, -, unique, -, taken⟩ :=
    sampleScan.walks_eq_iff_segments (Number.ofDecimal false ⟨103, -2⟩) [0, 2, 4, 6] valid
  refine ⟨members, found, (unique (by decide) _).mpr rfl, ?_⟩
  rw [taken 4 (by decide)]
  have cut : (ringReturns? sampleScan.returns [0, 2, 4, 6]).map
      (walks (Number.ofDecimal false ⟨103, -2⟩)) = some [⟨0, 2⟩, ⟨3, 3⟩] := by
    decide +kernel
  rw [found] at cut
  exact Option.some.inj cut

end LidarSieve
