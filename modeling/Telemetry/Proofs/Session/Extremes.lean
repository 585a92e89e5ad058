import Telemetry.Proofs.Session.Gathering

/-! The extremes that the engine holds while it calibrates, and those its thresholds are derived from. -/
namespace Telemetry.Session

variable {Timer Input Store : Type} [AlarmTimer Timer] [ConfigStore Store]
  {start : Node Timer Input Store} {actions : List Action}

/-- A bound on all starts of a run bounds those between two frames. -/
theorem StartsBounded.of_count_lt (start : Node Timer Input Store)
    (h : actions.count .begin < UInt32.size) : StartsBounded start actions := by
  intro before first between second after hSplit _
  have hPart : between.Sublist actions := by
    rw [hSplit]
    exact (List.sublist_append_left _ _).trans ((List.sublist_cons_self _ _).trans
      (List.sublist_append_right _ _))
  exact Nat.lt_of_le_of_lt (hPart.count_le _) h

/-- A frame in calibrating mode leaves the engine with the calibration of exactly the frames processed in
that mode since the last start, this one included, and nothing comes out. -/
theorem calibration_of_gathered (hFresh : Fresh start) {frame : SampleFrame}
    (hBounded : StartsBounded start (actions ++ [.frame frame]))
    (hMode : (run start actions).state.flags.engineMode = .calibrating) :
    .begin ∈ actions ∧
    ((run start actions).process frame).value.1 = none ∧
    (run start (actions ++ [.frame frame])).engine.calibration =
      .ofFrames (gathered start actions ++ [frame]) := by
  have hInvariant := invariant_run hFresh hBounded.of_concat
  refine ⟨hInvariant.begun ((Flags.engineMode_eq_calibrating_iff _).mp hMode).2, ?_, ?_⟩
  · rw [Node.output_process, hMode]
    rfl
  · rw [run_concat, step, Node.process_of_calibrating hMode]
    exact hInvariant.calibration_collected hMode hBounded

/-- A stop and a start between two frames part their calibrations, and a frame passed on raw joins none. -/
theorem calibration_of_gathered_restarted :
    let actions : List Action := [.begin, .frame (level 3000), .finish, .begin, .rawMode true,
      .frame (level 4000), .rawMode false, .frame (level 500)]
    Fresh trial ∧ StartsBounded trial (actions ++ [.frame (level 100)]) ∧
    (run trial actions).state.flags.engineMode = .calibrating ∧
    ((run trial actions).process (level 100)).value.1 = none ∧
    (run trial (actions ++ [.frame (level 100)])).engine.calibration =
      .ofFrames [level 500, level 100] := by
  intro actions
  have hFresh : Fresh trial := fresh_boot _ _
  have hBounded : StartsBounded trial (actions ++ [.frame (level 100)]) :=
    .of_count_lt _ (by decide)
  obtain ⟨-, hNone, hCalibration⟩ := calibration_of_gathered hFresh hBounded rfl
  exact ⟨hFresh, hBounded, rfl, hNone, hCalibration⟩

/-- Fewer calibrations are begun than there are epochs between any two frames next to each other, in whatever
mode they are processed. -/
def NeighboursBounded (actions : List Action) : Prop :=
  ∀ before first between second after,
    actions = before ++ .frame first :: (between ++ .frame second :: after) →
    (∀ frame, .frame frame ∉ between) → between.count .begin < UInt32.size

/-- A stretch of a list that misses one of its items lies on one side of it. -/
private theorem sublist_side {left right before stretch after : List Action} {middle : Action}
    (h : left ++ middle :: right = before ++ (stretch ++ after)) (hMissing : middle ∉ stretch) :
    stretch.Sublist left ∨ stretch.Sublist right := by
  obtain ⟨gap, -, hRest⟩ | ⟨gap, rfl, hRest⟩ := List.append_eq_append_iff.mp h
  · cases gap with
    | nil =>
      cases stretch with
      | nil => exact .inl (List.nil_sublist left)
      | cons item rest => exact absurd (by simp [(List.cons.inj hRest).1]) hMissing
    | cons item rest =>
      rw [(List.cons.inj hRest).2]
      exact .inr ((List.sublist_append_left stretch after).trans (List.sublist_append_right rest _))
  · obtain ⟨extra, rfl, -⟩ | ⟨extra, rfl, hLater⟩ := List.append_eq_append_iff.mp hRest
    · exact .inl ((List.sublist_append_left stretch extra).trans (List.sublist_append_right before _))
    · cases extra with
      | nil =>
        rw [List.append_nil]
        exact .inl (List.sublist_append_right before gap)
      | cons item rest => exact absurd (by simp [(List.cons.inj hLater).1]) hMissing

theorem NeighboursBounded.of_sides {left right : List Action} {middle : SampleFrame}
    (hLeft : left.count .begin < UInt32.size) (hRight : right.count .begin < UInt32.size) :
    NeighboursBounded (left ++ .frame middle :: right) := by
  intro before first between second after hSplit hNone
  rw [List.append_cons before] at hSplit
  rcases sublist_side hSplit (hNone middle) with hPart | hPart
  · exact Nat.lt_of_le_of_lt (hPart.count_le _) hLeft
  · exact Nat.lt_of_le_of_lt (hPart.count_le _) hRight

/-- More starts while a calibration is wanted move the epoch on, and nothing else. -/
theorem view_run_begins {node : Node Timer Input Store} (h : (view node).calibrating = true) (starts : Nat) :
    view (run node (List.replicate starts .begin)) =
      { view node with epoch := (view node).epoch + .ofNat starts } := by
  induction starts with
  | zero => exact congrArg (fun epoch => { view node with epoch }) (UInt32.add_zero _).symm
  | succ starts ih =>
    rw [List.replicate_succ', run_concat, view_step, ih, View.next, UInt32.ofNat_add, ← UInt32.add_assoc, ← h]
    rfl

/-- Starts behind raw mode, with a frame among them that is passed on raw. -/
def behindRaw (earlier later : Nat) : List Action :=
  List.replicate earlier .begin ++ .frame (level 4000) :: (List.replicate later .begin ++ [.rawMode false])

theorem view_run_behindRaw {node : Node Timer Input Store} (hCalibrating : (view node).calibrating = true)
    (hRaw : (view node).rawMode = true) (earlier later : Nat) : view (run node (behindRaw earlier later)) =
      { view node with rawMode := false, epoch := (view node).epoch + .ofNat (earlier + later) } := by
  have hPassed : view (run node (List.replicate earlier .begin ++ [.frame (level 4000)])) =
      { view node with epoch := (view node).epoch + .ofNat earlier } := by
    rw [run_concat, view_step, view_run_begins hCalibrating, View.next, View.afterFrame, View.mode, Flags.engineMode,
      hRaw]
    rfl
  have hWanted : (view (run node (List.replicate earlier .begin ++ [.frame (level 4000)]))).calibrating = true := by
    rw [hPassed]
    exact hCalibrating
  rw [behindRaw, List.append_cons, run_append, run_concat, view_step, view_run_begins hWanted, hPassed,
    View.next, UInt32.ofNat_add, ← UInt32.add_assoc]

theorem gathered_behindRaw (before : List Action) (earlier : Nat) {later : Nat} (h : 0 < later) :
    gathered start (before ++ behindRaw earlier later) = [] := by
  obtain ⟨fewer, rfl⟩ := Nat.exists_eq_add_one.mpr h
  have hSplit : before ++ behindRaw earlier (fewer + 1) =
      before ++ List.replicate earlier .begin ++ .frame (level 4000) :: List.replicate fewer .begin ++
        [.begin] ++ [.rawMode false] := by
    simp [behindRaw, List.replicate_succ']
  rw [hSplit, gathered_concat (by simp), gathered_begin]
  rfl

theorem neighboursBounded_behindRaw {before after : List Action} {earlier later : Nat}
    (hEarlier : before.count .begin + earlier < UInt32.size)
    (hLater : later + after.count .begin < UInt32.size) :
    NeighboursBounded (before ++ behindRaw earlier later ++ after) := by
  have hSplit : before ++ behindRaw earlier later ++ after = (before ++ List.replicate earlier .begin) ++
      .frame (level 4000) :: (List.replicate later .begin ++ .rawMode false :: after) := by
    simp [behindRaw]
  rw [hSplit]
  apply NeighboursBounded.of_sides
  · simpa using hEarlier
  · simpa using hLater

/-- A bound between neighbours is not enough. Once a frame of 3000 is taken, as many calibrations are begun as there
are epochs, half of them on either side of a frame that is passed on raw. The epoch is then the one seen last,
nothing starts afresh, and a frame of 500 joins the 3000. -/
theorem calibration_mixed_by_full_round :
    let half := UInt32.size / 2
    let actions : List Action := [.begin, .frame (level 3000), .rawMode true] ++ behindRaw half half
    Fresh trial ∧ NeighboursBounded (actions ++ [.frame (level 500)]) ∧
    (run trial actions).state.flags.engineMode = .calibrating ∧ gathered trial actions = [] ∧
    (run trial (actions ++ [.frame (level 500)])).engine.calibration.maxima = .replicate channelCount 3000 ∧
    (Calibration.ofFrames (gathered trial actions ++ [level 500])).maxima = .replicate channelCount 500 := by
  intro half actions
  let opened := run trial [.begin, .frame (level 3000), .rawMode true]
  have hView : view (run trial actions) = { view opened with rawMode := false } := by
    have hRound : UInt32.ofNat (half + half) = 0 := by decide
    rw [run_append, view_run_behindRaw rfl rfl, hRound, UInt32.add_zero]
  have hGathered : gathered trial actions = [] := gathered_behindRaw _ half (by decide)
  refine ⟨fresh_boot _ _, ?_, ?_, hGathered, ?_, ?_⟩
  · exact neighboursBounded_behindRaw (by decide) (by decide)
  · rw [← mode_view, hView]
    rfl
  · have hNext : view (run trial (actions ++ [.frame (level 500)])) =
        { view opened with rawMode := false }.afterFrame (level 500).data := by
      rw [run_concat, view_step, hView, View.next]
    rw [← engine_view, hNext]
    decide +kernel
  · rw [hGathered]
    decide +kernel

/-- The thresholds that end a calibration are those of the frames gathered when its last frame was taken,
and are stored with it. They are those of the last start exactly if a frame was gathered since then: a
start whose stop comes before any frame leaves the superseded calibration in force. -/
theorem thresholds_of_gathered_iff (hFresh : Fresh start) (frame : SampleFrame)
    (hBounded : StartsBounded start actions)
    (hMode : (run start actions).state.flags.engineMode = .thresholding)
    (hCollecting : (run start actions).engine.collecting = true) :
    let percent := (run start actions).state.thresholdPercent
    let ended := run start (actions ++ [.frame frame])
    (∃ before last between, actions = before ++ .frame last :: between ∧
      observed examines (run start (before ++ [.frame last])) between = [] ∧
      last ∈ gathered start (before ++ [.frame last]) ∧
      ended.engine.calibration =
        (Calibration.ofFrames (gathered start (before ++ [.frame last]))).computeThresholds percent) ∧
    ended.store = (Calibration.saveAll (run start actions).store
      ((.thresholdPercent, percent.toUInt16) :: ended.engine.calibration.entries)).value.2 ∧
    (ended.engine.calibration =
        (Calibration.ofFrames (gathered start actions)).computeThresholds percent ↔
      gathered start actions ≠ []) := by
  have hInvariant := invariant_run hFresh hBounded
  obtain ⟨before, last, between, hLast⟩ := hInvariant.collecting hCollecting
  have hDue : (run start actions).thresholdsDue = true := by
    rw [Node.thresholdsDue, hCollecting, Bool.true_or]
  have hEnded := Node.process_of_due hMode hDue frame
  have hCalibration : (run start (actions ++ [.frame frame])).engine.calibration =
      (Calibration.ofFrames (gathered start (before ++ [.frame last]))).computeThresholds
        (run start actions).state.thresholdPercent := by
    rw [run_concat, step, hEnded, ← hLast.calibration]
    rfl
  refine ⟨⟨before, last, between, hLast.split, hLast.unexamined, hLast.taken, hCalibration⟩, ?_, ?_⟩
  · rw [run_concat, step, hEnded]
    rfl
  · constructor
    · intro hCurrent hNone
      rw [hCalibration, hNone] at hCurrent
      exact Calibration.computeThresholds_ofFrames_ne (List.ne_nil_of_mem hLast.taken) _ hCurrent
    · intro hSome
      have hNoStart : .begin ∉ between := by
        intro hStart
        rw [hLast.gathered_eq, if_pos hStart] at hSome
        exact hSome rfl
      rw [hLast.gathered_eq, if_neg hNoStart]
      exact hCalibration

/-- A start and a stop with frames between them. -/
theorem thresholds_of_gathered_trial :
    let actions : List Action := [.begin, .frame (level 3000), .frame (level 100), .finish]
    Fresh trial ∧ StartsBounded trial actions ∧
    (run trial actions).state.flags.engineMode = .thresholding ∧
    (run trial actions).engine.collecting = true ∧
    gathered trial actions = [level 3000, level 100] ∧
    (run trial (actions ++ [.frame (level 2000)])).engine.calibration =
      (Calibration.ofFrames [level 3000, level 100]).computeThresholds 50 := by
  intro actions
  have hFresh : Fresh trial := fresh_boot _ _
  have hBounded : StartsBounded trial actions := .of_count_lt _ (by decide)
  have hGathered : gathered trial actions = [level 3000, level 100] := rfl
  obtain ⟨-, -, hCurrent⟩ :=
    thresholds_of_gathered_iff hFresh (level 2000) hBounded rfl rfl
  exact ⟨hFresh, hBounded, rfl, rfl, hGathered, hCurrent.mpr (by simp [hGathered])⟩

/-- A second start, stopped before any frame, has gathered nothing, and yet thresholds are derived from
the readings of the first and stored. -/
theorem superseded_calibration_kept :
    let actions : List Action :=
      [.begin, .frame (level 3000), .frame (level 100), .finish, .begin, .finish]
    let ended := run trial (actions ++ [.frame (level 2000)])
    Fresh trial ∧ StartsBounded trial actions ∧
    (run trial actions).state.flags.engineMode = .thresholding ∧
    (run trial actions).engine.collecting = true ∧
    gathered trial actions = [] ∧
    ended.engine.calibration.maxima = .replicate channelCount 3000 ∧
    ended.engine.calibration.minima = .replicate channelCount 100 ∧
    ended.engine.calibration.thresholds = .replicate channelCount 1550 ∧
    ended.store.get (.threshold 0) = some 1550 := by
  intro actions ended
  refine ⟨fresh_boot _ _, .of_count_lt _ (by decide), rfl, rfl, rfl, ?_, ?_, ?_, ?_⟩
  · decide +kernel
  · decide +kernel
  · decide +kernel
  · decide +kernel

end Telemetry.Session
