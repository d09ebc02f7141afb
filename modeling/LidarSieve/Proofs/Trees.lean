import LidarSieve.Command.FileTree
import LidarSieve.Proofs.Reading
import Mathlib.Data.String.Basic
/-!
# Writing files

A file is put only where there is a file or nothing.  So all folders stay, and a path that led
somewhere leads there still (`FileTree.KeepsFolders`).  A run that does nothing but write files
at places that differ from each other ends as planned, leaves in every file what was written to
it, and leaves everything else alone (`FileTree.performAll_writes`).
-/
set_option autoImplicit false

namespace LidarSieve

open String (utf8Len ofList)

/-! ## The names of a path -/

/-- Cutting a path behind `taken ++ current`, in front of `rest`. -/
theorem splitOnAux_slash (taken current rest : List Char) (names : List String) :
    String.splitOnAux (ofList (taken ++ current ++ rest)) "/" ⟨utf8Len taken⟩
        ⟨utf8Len taken + utf8Len current⟩ 0 names =
      names.reverse ++ (List.splitOnPPrepend (· == '/') rest current.reverse).map ofList := by
  induction rest generalizing taken current names with
  | nil =>
    have ended : String.Pos.Raw.atEnd (ofList (taken ++ current ++ []))
        ⟨utf8Len taken + utf8Len current⟩ = true := by
      simp [String.atEnd_iff, -String.ofList_append]
    rw [String.splitOnAux, if_pos ended, String.extract_of_valid taken current []]
    simp
  | cons c rest ih =>
    have inside : ¬ String.Pos.Raw.atEnd (ofList (taken ++ current ++ c :: rest))
        ⟨utf8Len taken + utf8Len current⟩ = true := by
      have wide := c.utf8Size_pos
      simp [String.atEnd_iff, -String.ofList_append]
      omega
    have get := String.get_of_valid (taken ++ current) (c :: rest)
    have next := String.next_of_valid (taken ++ current) c rest
    rw [String.utf8Len_append] at get next
    have slash : String.Pos.Raw.get "/" 0 = '/' := by decide
    rw [String.splitOnAux, if_neg inside, get, slash, List.headD_cons,
      List.splitOnPPrepend_cons_eq_if]
    by_cases found : c = '/'
    · subst found
      have cut := ih (taken ++ current ++ ['/']) [] (ofList current :: names)
      have back : String.Pos.Raw.unoffsetBy ⟨utf8Len taken + utf8Len current + '/'.utf8Size⟩
          (String.Pos.Raw.next "/" 0) = ⟨utf8Len taken + utf8Len current⟩ := by
        have one : String.Pos.Raw.next "/" 0 = ⟨1⟩ := by decide
        rw [one]
        rfl
      rw [if_pos (by decide), if_pos (by decide), if_pos (by decide), next, back,
        String.extract_of_valid taken current]
      simpa [Nat.add_assoc, -String.ofList_append] using cut
    · have cut := ih taken (current ++ [c]) names
      have other : ¬ (c == '/') = true := by simpa using found
      have back : String.Pos.Raw.unoffsetBy ⟨utf8Len taken + utf8Len current⟩ 0 =
          ⟨utf8Len taken + utf8Len current⟩ := rfl
      rw [if_neg other, if_neg other, back, next]
      simpa [Nat.add_assoc, -String.ofList_append] using cut

/-- The names of a path are the stretches of characters between its slashes. -/
theorem splitOn_slash (path : String) :
    path.splitOn "/" = (path.toList.splitOn '/').map ofList := by
  have cut := splitOnAux_slash [] [] path.toList []
  rw [String.splitOn, if_neg (by decide)]
  simpa [List.splitOn] using cut

namespace FileTree

variable {tree before after : FileTree} {place other : Place} {path : String} {contents : Octets}

/-- Where a path leads, with its names told from its characters. -/
theorem resolve_eq (tree : FileTree) (path : String) :
    tree.resolve path =
      if path = "" then .error .absent
      else if maxPath < path.utf8ByteSize then .error .tooLong
      else tree.walk (tree.origin path) ((path.toList.splitOn '/').map ofList) := by
  rw [resolve, splitOn_slash]

/-! ## What stands at a place -/

theorem occupant?_of_ne_nil (below : place ≠ []) :
    tree.occupant? place = tree.occupants.lookup place := by
  cases place with
  | nil => exact absurd rfl below
  | cons name rest => rfl

theorem lookup_filter_of_ne (ne : other ≠ place) (occupants : List (Place × Occupant)) :
    (occupants.filter (·.1 != place)).lookup other = occupants.lookup other := by
  induction occupants with
  | nil => rfl
  | cons head rest ih =>
    obtain ⟨key, occupant⟩ := head
    by_cases dropped : key = place
    · subst dropped
      have skipped : (other == key) = false := by simpa using ne
      simp [List.lookup_cons, skipped, ih]
    · have kept : ((key, occupant) :: rest).filter (·.1 != place) =
          (key, occupant) :: rest.filter (·.1 != place) :=
        List.filter_cons_of_pos (by simpa using dropped)
      rw [kept, List.lookup_cons, List.lookup_cons, ih]

theorem occupant?_put_self (below : place ≠ []) (tree : FileTree) (occupant : Occupant) :
    (tree.put place occupant).occupant? place = some occupant := by
  rw [occupant?_of_ne_nil below]
  exact List.lookup_cons_self

theorem occupant?_put_of_ne (ne : other ≠ place) (tree : FileTree) (occupant : Occupant) :
    (tree.put place occupant).occupant? other = tree.occupant? other := by
  by_cases below : other = []
  · rw [below]
    rfl
  · have skipped : (other == place) = false := by simpa using ne
    rw [occupant?_of_ne_nil below, occupant?_of_ne_nil below, put, List.lookup_cons, skipped,
      lookup_filter_of_ne ne]

/-- A file can be put at the place: there is a file already, or nothing. -/
def Admits (tree : FileTree) (place : Place) : Prop :=
  ∀ occupant, tree.occupant? place = some occupant → ∃ contents, occupant = .file contents

theorem Admits.not_folder (admits : tree.Admits place) :
    tree.occupant? place ≠ some .folder := by
  intro found
  obtain ⟨contents, impossible⟩ := admits .folder found
  cases impossible

theorem Admits.ne_nil (admits : tree.Admits place) : place ≠ [] := by
  rintro rfl
  exact admits.not_folder rfl

theorem Admits.writeAt (admits : tree.Admits place) (contents : Octets) :
    tree.writeAt place contents = .ok (tree.put place (.file contents)) := by
  unfold FileTree.writeAt
  cases found : tree.occupant? place with
  | none => rfl
  | some occupant =>
    obtain ⟨former, rfl⟩ := admits occupant found
    rfl

/-! ## Ways that stay -/

/-- All folders of one tree are folders of the other one, and the working folder is the same. -/
structure KeepsFolders (before after : FileTree) : Prop where
  working : after.working = before.working
  folders : ∀ place, before.occupant? place = some .folder → after.occupant? place = some .folder

theorem KeepsFolders.refl (tree : FileTree) : tree.KeepsFolders tree := ⟨rfl, fun _ => id⟩

theorem KeepsFolders.trans {middle : FileTree} (first : before.KeepsFolders middle)
    (second : middle.KeepsFolders after) : before.KeepsFolders after :=
  ⟨second.working.trans first.working, fun place found =>
    second.folders place (first.folders place found)⟩

theorem Admits.keepsFolders (admits : tree.Admits place) (contents : Octets) :
    tree.KeepsFolders (tree.put place (.file contents)) where
  working := rfl
  folders other found := by
    have ne : other ≠ place := by
      rintro rfl
      exact admits.not_folder found
    rw [occupant?_put_of_ne ne, found]

/-- A step starts from a folder. -/
theorem folder_of_step {start next : Place} {name : String}
    (stepped : tree.step start name = .ok next) : tree.occupant? start = some .folder := by
  unfold step at stepped
  split at stepped
  case h_4 found => exact found
  all_goals cases stepped

theorem KeepsFolders.step (kept : before.KeepsFolders after) {start next : Place} {name : String}
    (stepped : before.step start name = .ok next) : after.step start name = .ok next := by
  have found := folder_of_step stepped
  unfold FileTree.step at stepped ⊢
  rw [kept.folders start found]
  rw [found] at stepped
  exact stepped

theorem KeepsFolders.walk (kept : before.KeepsFolders after) {start target : Place}
    {way : List String} (walked : before.walk start way = .ok target) :
    after.walk start way = .ok target := by
  induction way generalizing start with
  | nil => exact walked
  | cons name rest ih =>
    rw [FileTree.walk, List.foldlM_cons] at walked ⊢
    obtain ⟨next, stepped, walked⟩ := bind_eq_ok_iff.mp walked
    exact bind_eq_ok_iff.mpr ⟨next, kept.step stepped, ih walked⟩

/-- A path that leads somewhere leads there as long as all folders stay. -/
theorem KeepsFolders.resolve (kept : before.KeepsFolders after)
    (resolved : before.resolve path = .ok place) : after.resolve path = .ok place := by
  unfold FileTree.resolve at resolved ⊢
  split at resolved
  · cases resolved
  · split at resolved
    · cases resolved
    · have same : after.origin path = before.origin path := by
        rw [origin, origin, kept.working]
      rw [if_neg ‹_›, if_neg ‹_›, same]
      exact kept.walk resolved

/-! ## One file -/

/-- A file can be written at the path, and stands at the place then: the path does not end as a
path of a folder does, and leads to the place. -/
structure Takes (tree : FileTree) (path : String) (place : Place) : Prop where
  plain : path.endsWith "/" = false
  resolved : tree.resolve path = .ok place
  admits : tree.Admits place

theorem Takes.write (takes : tree.Takes path place) (contents : Octets) :
    tree.write path contents = .ok (tree.put place (.file contents)) := by
  have way : ¬ (path.endsWith "/" && decide (path.utf8ByteSize ≤ maxPath)) = true := by
    simp [takes.plain]
  rw [FileTree.write, if_neg way, takes.resolved]
  exact takes.admits.writeAt contents

theorem read_eq_ok (resolved : tree.resolve path = .ok place)
    (found : tree.occupant? place = some (.file contents)) : tree.read path = .ok contents := by
  unfold read
  rw [resolved]
  simp only [bind, Except.bind]
  rw [found]

/-- What can be written stays so when a file is put anywhere. -/
theorem Takes.put (takes : tree.Takes path place) {target : Place} (admits : tree.Admits target)
    (contents : Octets) : (tree.put target (.file contents)).Takes path place where
  plain := takes.plain
  resolved := (admits.keepsFolders contents).resolve takes.resolved
  admits := by
    intro occupant found
    by_cases same : place = target
    · subst same
      rw [occupant?_put_self admits.ne_nil] at found
      exact ⟨contents, (Option.some.inj found).symm⟩
    · rw [occupant?_put_of_ne same] at found
      exact takes.admits occupant found

/-! ## Many files -/

/-- All of the paths can be written, and they lead to different places. -/
structure TakesAll (tree : FileTree) (paths : List String) : Prop where
  takes : ∀ path ∈ paths, ∃ place, tree.Takes path place
  apart : paths.Pairwise fun path other => tree.resolve path ≠ tree.resolve other

theorem TakesAll.sublist {fewer paths : List String} (sublist : fewer.Sublist paths)
    (takes : tree.TakesAll paths) : tree.TakesAll fewer :=
  ⟨fun path held => takes.takes path (sublist.subset held), takes.apart.sublist sublist⟩

theorem TakesAll.put {paths : List String} (takes : tree.TakesAll paths)
    (admits : tree.Admits place) (contents : Octets) :
    (tree.put place (.file contents)).TakesAll paths := by
  have kept := admits.keepsFolders contents
  constructor
  · intro path held
    obtain ⟨target, found⟩ := takes.takes path held
    exact ⟨target, found.put admits contents⟩
  · refine takes.apart.imp_of_mem ?_
    intro left right held_left held_right differ
    obtain ⟨_, first⟩ := takes.takes left held_left
    obtain ⟨_, second⟩ := takes.takes right held_right
    rw [kept.resolve first.resolved, kept.resolve second.resolved]
    rwa [first.resolved, second.resolved] at differ

/-- One tree has become the other one by writing the files. -/
structure Written (before after : FileTree) (files : List (String × Octets)) : Prop where
  kept : before.KeepsFolders after
  /-- Each path leads to what was written. -/
  reads : ∀ file ∈ files, after.read file.1 = .ok file.2
  /-- Nothing else has changed. -/
  others : ∀ place, (∀ file ∈ files, before.resolve file.1 ≠ .ok place) →
    after.occupant? place = before.occupant? place

theorem written_nil (tree : FileTree) : tree.Written tree [] where
  kept := .refl tree
  reads _ held := nomatch held
  others _ _ := rfl

/-- One more file is written first. -/
theorem written_cons {files : List (String × Octets)} (takes : before.Takes path place)
    (apart : ∀ file ∈ files, before.resolve path ≠ before.resolve file.1)
    (found : ∀ file ∈ files, ∃ target, before.Takes file.1 target)
    (written : (before.put place (.file contents)).Written after files) :
    before.Written after ((path, contents) :: files) := by
  have kept := takes.admits.keepsFolders contents
  -- a path of a later file leads in both trees to the same place, which is another one
  have elsewhere (file : String × Octets) (held : file ∈ files) :
      (before.put place (.file contents)).resolve file.1 = before.resolve file.1 ∧
        before.resolve file.1 ≠ .ok place := by
    obtain ⟨target, later⟩ := found file held
    rw [later.resolved]
    refine ⟨kept.resolve later.resolved, fun same => apart file held ?_⟩
    rw [takes.resolved, later.resolved, same]
  refine ⟨kept.trans written.kept, ?_, ?_⟩
  · intro file held
    rcases List.mem_cons.mp held with rfl | held
    · have stays : after.occupant? place = some (.file contents) := by
        rw [written.others place, occupant?_put_self takes.admits.ne_nil]
        intro file held
        rw [(elsewhere file held).1]
        exact (elsewhere file held).2
      exact read_eq_ok ((kept.trans written.kept).resolve takes.resolved) stays
    · exact written.reads file held
  · intro target untouched
    have ne : target ≠ place := by
      rintro rfl
      exact untouched _ List.mem_cons_self takes.resolved
    rw [written.others target, occupant?_put_of_ne ne]
    intro file held
    rw [(elsewhere file held).1]
    exact untouched file (List.mem_cons_of_mem _ held)

end FileTree

/-! ## Steps -/

/-- The file that a step writes. -/
def Step.file? : Step → Option (String × Octets)
  | .write _ path contents => some (path, contents)
  | _ => none

/-- The files that steps write. -/
def Step.files (steps : List Step) : List (String × Octets) := steps.filterMap file?

namespace FileTree

variable {tree : FileTree} {place : Place} {path : String}

theorem run_attempt (change : FileTree → Except Obstacle FileTree) (session : Session) :
    (attempt change).run session =
      match change session.tree with
      | .error obstacle => (.error obstacle, session)
      | .ok tree => (.ok (), { session with tree }) := by
  simp only [attempt, StateT.run_bind, StateT.run_get, pure_bind]
  cases change session.tree with
  | error obstacle => rfl
  | ok tree => rfl

theorem perform_print (tree : FileTree) (text printed : String) :
    (host.perform (.print text)).run ⟨tree, printed⟩ = (.ok (), ⟨tree, printed ++ text⟩) := rfl

theorem perform_write (takes : tree.Takes path place) (artefact : Artefact) (contents : Octets)
    (printed : String) :
    (host.perform (.write artefact path contents)).run ⟨tree, printed⟩ =
      (.ok (), ⟨tree.put place (.file contents), printed⟩) := by
  have attempted := run_attempt (·.write path contents) ⟨tree, printed⟩
  rw [takes.write contents] at attempted
  exact attempted

theorem performAll_cons {step : Step} {session next : Session}
    (performed : (host.perform step).run session = (.ok (), next)) (ending : Ending)
    (rest : List Step) :
    (host.performAll ending (step :: rest)).run session =
      (host.performAll ending rest).run next := by
  rw [Plan.Host.performAll, StateT.run_bind, performed]
  rfl

/-- Steps that only write files, at different places, are all carried out. -/
theorem performAll_writes (ending : Ending) (printed : String) {steps : List Step}
    (only : ∀ step ∈ steps, ∃ artefact path contents, step = .write artefact path contents)
    (takes : tree.TakesAll ((Step.files steps).map Prod.fst)) :
    ∃ after, (host.performAll ending steps).run ⟨tree, printed⟩ = (ending, ⟨after, printed⟩) ∧
      tree.Written after (Step.files steps) := by
  induction steps generalizing tree with
  | nil => exact ⟨tree, rfl, written_nil tree⟩
  | cons step rest ih =>
    obtain ⟨artefact, path, contents, rfl⟩ := only step List.mem_cons_self
    have files : Step.files (.write artefact path contents :: rest) =
      (path, contents) :: Step.files rest := rfl
    rw [files, List.map_cons] at takes
    obtain ⟨place, first⟩ := takes.takes path List.mem_cons_self
    have apart := (List.pairwise_cons.mp takes.apart).1
    -- the remaining files can still be written when the first one stands
    have others := takes.sublist (List.sublist_cons_self path _)
    have later := others.put first.admits contents
    obtain ⟨after, performed, written⟩ :=
      ih (fun step held => only step (List.mem_cons_of_mem _ held)) later
    refine ⟨after, ?_, ?_⟩
    · rw [performAll_cons (perform_write first artefact contents printed), performed]
    · exact written_cons first (fun file held => apart file.1 (List.mem_map_of_mem held))
        (fun file held => others.takes file.1 (List.mem_map_of_mem held)) written

end FileTree

end LidarSieve
