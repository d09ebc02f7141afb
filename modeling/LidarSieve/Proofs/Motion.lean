import LidarSieve.Proofs.Outcome
/-!
# A transform moves the written points and nothing else

Rings, walks, verdicts, counts and visibility are taken from the positions that the scan holds;
a transform is applied to a point when it is written.  So a scan filtered with a transform and
without one yields the same counts, the same visibility and clouds that differ in the frame and
in the positions alone: each is the image of the one in its place (`Snapshot.filter_moved`).  This
holds of every matrix, also of one that maps points to infinities or to no numbers.
-/
set_option autoImplicit false

namespace LidarSieve

open LidarSieve.Binary

variable {α : Type}

/-! ## Points -/

/-- The image of a written point: the position is mapped, the intensity stays. -/
def Transform.moveSpot (t : Transform) (spot : Spot) : Spot :=
  let image := t.apply ⟨spot.x, spot.y, spot.z⟩
  ⟨image.x, image.y, image.z, spot.intensity⟩

/-- Points written through a transform are the images of the points written without it. -/
theorem pointsOf_transform (t : Transform) (get : α → Return) (records : List α) :
    pointsOf (some t) get records = (pointsOf none get records).map t.moveSpot := by
  rw [pointsOf, pointsOf, List.map_map]
  refine List.map_congr_left fun record _ => ?_
  rw [Function.comp_apply, Spot.ofReturn_some, Spot.ofReturn_none, Transform.moveSpot]

/-! ## Clouds -/

/-- A cloud is another one moved by a transform: it has as many octets, its points are the images
of the other's points in the same order, and apart from these and the frame it is the same. -/
structure Cloud.MovedBy (t : Transform) (plain moved : Cloud) : Prop where
  spots_eq : ∃ spots, plain.spots = .ok spots ∧ moved.spots = .ok (spots.map t.moveSpot)
  size_eq : moved.data.size = plain.data.size
  rest : moved =
    { plain with header := { plain.header with frame := t.frame }, data := moved.data }

/-- Mapping the points that are put into a cloud moves the cloud. -/
theorem Cloud.movedBy_ofSpots (t : Transform) (header : Header) (order : ByteOrder)
    (spots : List Spot) (dense : Bool) :
    MovedBy t (.ofSpots header order spots dense)
      (.ofSpots { header with frame := t.frame } order (spots.map t.moveSpot) dense) where
  spots_eq := by
    refine ⟨_, spots_ofSpots_take _ _ _ _, ?_⟩
    rw [spots_ofSpots_take, List.length_map, List.map_take]
  size_eq := by rw [size_data_ofSpots, size_data_ofSpots, List.length_map]
  rest := by simp [ofSpots]

/-- The cloud of a verdict is moved. -/
theorem Cloud.movedBy_ofSelection (p : Parameters) (cloud : Cloud) (t : Transform)
    (get : α → Return) (records : List α) (verdict : Verdict) :
    MovedBy t (.ofSelection p cloud none get records verdict)
      (.ofSelection p cloud (some t) get records verdict) := by
  rw [ofSelection, ofSelection, pointsOf_transform]
  exact movedBy_ofSpots t cloud.header _ _ _

/-! ## Outcomes -/

/-- The visibility of a scan bears the header that it is given. -/
theorem Snapshot.header_of_visibility? {s : Snapshot} {header : Header} {returns : Array Return}
    {visibility : Option Visibility}
    (reported : s.visibility? header returns = some visibility) :
    ∀ report ∈ visibility, report.header = header := by
  rintro report rfl
  unfold visibility? at reported
  split at reported
  · obtain ⟨visibility, estimated, same⟩ := Option.map_eq_some_iff.mp reported
    cases same
    unfold Grid.evaluate? at estimated
    simp only [Option.bind_eq_bind, Option.bind_eq_some_iff] at estimated
    obtain ⟨counts, -, made⟩ := estimated
    cases made
    rfl
  · cases reported

/-- A scan that is filtered with a transform and without one has the same counts, version and
visibility in both outcomes, and the visibility bears the header of the scan.  Without the
transform both clouds bear that header too; with it they are moved. -/
theorem Snapshot.filter_moved (s : Snapshot) (cloud : Cloud) (t : Transform)
    {plain moved : Outcome} (filtered_plain : (s.filter cloud none).1 = .ok plain)
    (filtered_moved : (s.filter cloud (some t)).1 = .ok moved) :
    moved.statistics = plain.statistics ∧ moved.version = plain.version ∧
      moved.visibility = plain.visibility ∧
      (∀ report ∈ plain.visibility, report.header = cloud.header) ∧
      plain.points.header = cloud.header ∧
      (∀ noise ∈ plain.noise, noise.header = cloud.header) ∧
      plain.points.MovedBy t moved.points ∧
      Option.Rel (Cloud.MovedBy t) plain.noise moved.noise := by
  obtain ⟨scan, visibility, opened, reported, rfl⟩ :=
    s.eq_ofSelection_of_filter cloud none filtered_plain
  obtain ⟨again, also, reopened, rereported, rfl⟩ :=
    s.eq_ofSelection_of_filter cloud (some t) filtered_moved
  -- Both runs open the same scan and estimate the same visibility.
  obtain rfl : scan = again := Except.ok.inj (opened.symm.trans reopened)
  obtain rfl : visibility = also := Option.some.inj (reported.symm.trans rereported)
  refine ⟨rfl, rfl, rfl, header_of_visibility? reported, rfl, ?_,
    Cloud.movedBy_ofSelection _ cloud t _ _ .cluster, ?_⟩
  · intro noise held
    simp only [Outcome.ofSelection] at held
    split at held
    · cases held
      rfl
    · cases held
  · simp only [Outcome.ofSelection]
    split
    · exact .some (Cloud.movedBy_ofSelection _ cloud t _ _ .noise)
    · exact .none

/-- A quarter turn to the left, then a shift. -/
def sampleTransform : Transform where
  frame := "base"
  matrix := ⟨⟨0, -1, 0, 1⟩, ⟨1, 0, 0, 2⟩, ⟨0, 0, 1, 3⟩, ⟨0, 0, 0, 1⟩⟩

theorem sampleCloud_moved :
    ∃ plain moved, (sampleSnapshot.filter sampleCloud none).1 = .ok plain ∧
      (sampleSnapshot.filter sampleCloud (some sampleTransform)).1 = .ok moved ∧
      moved.statistics = plain.statistics ∧ moved.visibility = plain.visibility ∧
      plain.points.MovedBy sampleTransform moved.points ∧
      Option.Rel (Cloud.MovedBy sampleTransform) plain.noise moved.noise := by
  obtain ⟨plain, filtered_plain⟩ := sampleSnapshot.exists_outcome ofCloud_sampleCloud none
    (by decide) (fun _ => by decide)
  obtain ⟨moved, filtered_moved⟩ := sampleSnapshot.exists_outcome ofCloud_sampleCloud
    (some sampleTransform) (by decide) (fun _ => by decide)
  obtain ⟨statistics, -, visibility, -, -, -, points, noise⟩ :=
    sampleSnapshot.filter_moved sampleCloud sampleTransform filtered_plain filtered_moved
  exact ⟨plain, moved, filtered_plain, filtered_moved, statistics, visibility, points, noise⟩

end LidarSieve
