import Telemetry.Node.Sampling

/-! What one alarm does to a node: a paused one posts at most the stop of the timer, and any other one
takes exactly one sample. -/
namespace Telemetry.Node

variable {Timer Input Store : Type}

theorem value_noteFirst (now : UInt64) (node : Node Timer Input Store) :
    (node.noteFirst now).value = { node with fired := true } := by
  unfold noteFirst
  split
  · rename_i h
    rw [Traced.value_pure, ← h]
  · rfl

theorem postPause_of_accepts {node : Node Timer Input Store} (h : node.events.accepts = true) :
    node.postPause = { node with
      events := node.events.withItems (node.events.items ++ [DeferredEvent.disableTimer]) }.withFlags
        { node.state.flags with pauseSampling := false } := by
  rw [postPause, Queue.push?_of_accepts h, Queue.offer_of_accepts h]

theorem postPause_of_not_accepts {node : Node Timer Input Store}
    (h : node.events.accepts = false) : node.postPause = node := by
  rw [postPause, Queue.push?_of_not_accepts h]

@[simp] theorem timer_postPause (node : Node Timer Input Store) : node.postPause.timer = node.timer := by
  cases h : node.events.accepts
  · rw [postPause_of_not_accepts h]
  · rw [postPause_of_accepts h]
    rfl

@[simp] theorem events_postPause (node : Node Timer Input Store) :
    node.postPause.events = node.events.offer .disableTimer := by
  cases h : node.events.accepts
  · rw [postPause_of_not_accepts h, Queue.offer_of_not_accepts h]
  · rw [postPause_of_accepts h, Queue.offer_of_accepts h]
    rfl

private theorem postReload_cases (node : Node Timer Input Store) :
    node.postReload = node ∧ (node.events.accepts = true → node.state.flags.nodeIdChanged = true →
      node.state.reloadClaimed = true) ∨
    (node.state.flags.nodeIdChanged = true ∧ node.state.reloadClaimed = false ∧ node.events.accepts = true) ∧
      node.postReload = { node with
        events := node.events.withItems (node.events.items ++ [DeferredEvent.reloadNodeId])
        state := { node.state with reloadClaimed := true } } := by
  unfold postReload
  split
  · rename_i hAsked
    have hFree : node.state.flags.nodeIdChanged = true ∧ node.state.reloadClaimed = false := by
      simpa using hAsked
    cases h : node.events.accepts
    · exact .inl ⟨by rw [Queue.push?_of_not_accepts h], fun hRoom => nomatch hRoom⟩
    · exact .inr ⟨⟨hFree.1, hFree.2, rfl⟩, by rw [Queue.push?_of_accepts h, Queue.offer_of_accepts h]⟩
  · rename_i hUnasked
    exact .inl ⟨rfl, fun _ hChanged => by simpa [hChanged] using hUnasked⟩

private theorem postDump_cases (node : Node Timer Input Store) :
    node.postDump = node ∧ (node.events.accepts = true → node.state.flags.debugDump = false) ∨
    (node.state.flags.debugDump = true ∧ node.events.accepts = true) ∧ node.postDump = { node with
      events := node.events.withItems (node.events.items ++ [DeferredEvent.debugDump]) }.withFlags
        { node.state.flags with debugDump := false } := by
  unfold postDump
  split
  · rename_i hAsked
    cases h : node.events.accepts
    · exact .inl ⟨by rw [Queue.push?_of_not_accepts h], fun hRoom => nomatch hRoom⟩
    · exact .inr ⟨⟨hAsked, rfl⟩, by rw [Queue.push?_of_accepts h, Queue.offer_of_accepts h]⟩
  · rename_i hUnasked
    exact .inl ⟨rfl, fun _ => Bool.not_eq_true _ ▸ hUnasked⟩

/-- Events posted for the two requests that do not stop sampling, with the reload slot and the dump request
that they leave. -/
structure Posted (node : Node Timer Input Store) (posted : List DeferredEvent) (claimed dump : Bool) : Prop where
  noStop : .disableTimer ∉ posted
  /-- A reload is posted exactly when its slot is taken. -/
  reloads : posted.count .reloadNodeId + node.state.reloadClaimed.toNat = claimed.toNat
  asked : .reloadNodeId ∈ posted → node.state.flags.nodeIdChanged = true
  /-- A dump request stays up, or makes one event. -/
  dumps : posted.count .debugDump + dump.toNat = node.state.flags.debugDump.toNat
  /-- Nothing is held back from a queue that has room in the end. -/
  served : (node.events.withItems (node.events.items ++ posted)).accepts = true →
    dump = false ∧ (node.state.flags.nodeIdChanged = true → claimed = true)

/-- The two requests that do not stop sampling add events behind those queued. Of the state they touch the reload
slot and the dump request only. -/
theorem posts_eq (node : Node Timer Input Store) :
    ∃ posted claimed dump, node.Posted posted claimed dump ∧
      node.postReload.postDump = { node with
        events := node.events.withItems (node.events.items ++ posted)
        state := { node.state with
          reloadClaimed := claimed, flags := { node.state.flags with debugDump := dump } } } := by
  have hself : node.events.withItems (node.events.items ++ []) = node.events := by
    rw [List.append_nil]
    rfl
  rcases node.postReload_cases with ⟨hr, hReload⟩ | ⟨⟨hChanged, hFree, -⟩, hr⟩
  · rw [hr]
    rcases node.postDump_cases with ⟨hd, hDump⟩ | ⟨⟨hAsked, hRoom⟩, hd⟩
    · refine ⟨[], node.state.reloadClaimed, node.state.flags.debugDump, ⟨?_, ?_, ?_, ?_, ?_⟩, ?_⟩
      · simp
      · simp
      · simp
      · simp
      · rw [hself]
        exact fun hRoom => ⟨hDump hRoom, hReload hRoom⟩
      · rw [hd, hself]
    · refine ⟨[.debugDump], node.state.reloadClaimed, false, ⟨?_, ?_, ?_, ?_, ?_⟩, hd⟩
      · simp
      · simp
      · simp
      · simp [hAsked]
      · exact fun _ => ⟨rfl, hReload hRoom⟩
  · have hDumps := node.postReload.postDump_cases
    rw [hr] at hDumps ⊢
    rcases hDumps with ⟨hd, hDump⟩ | ⟨⟨hAsked, -⟩, hd⟩
    · refine ⟨[.reloadNodeId], true, node.state.flags.debugDump, ⟨?_, ?_, ?_, ?_, ?_⟩, hd⟩
      · simp
      · simp [hFree]
      · exact fun _ => hChanged
      · simp
      · exact fun hRoom => ⟨hDump hRoom, fun _ => rfl⟩
    · refine ⟨[.reloadNodeId, .debugDump], true, false, ⟨?_, ?_, ?_, ?_, ?_⟩, ?_⟩
      · simp
      · simp [hFree]
      · exact fun _ => hChanged
      · exact (congrArg Bool.toNat hAsked).symm
      · exact fun _ => ⟨rfl, fun _ => rfl⟩
      · rw [hd]
        simp [withFlags, Queue.withItems]

theorem value_queueFrame (frame : SampleFrame) (node : Node Timer Input Store) :
    (node.queueFrame frame).value = (if node.samples.accepts then .queued else .dropped, { node with
      samples := node.samples.offer frame
      state := if node.samples.accepts then node.state else node.state.count .samplesDropped }) := by
  unfold queueFrame
  cases h : node.samples.accepts
  · rw [Queue.push?_of_not_accepts h, Queue.offer_of_not_accepts h]
    rfl
  · rw [Queue.push?_of_accepts h]
    rfl

/-- The statistics once a sample was taken: it is dropped unless the queue takes it. -/
def sampledStats (node : Node Timer Input Store) : Statistics :=
  let taken := node.state.stats.record .samplesCaptured
  if node.samples.accepts then taken else taken.record .samplesDropped

variable [AnalogInput Input] [AlarmTimer Timer]

/-- The node as its handler finds it, with the interrupt acknowledged. -/
def acknowledged (node : Node Timer Input Store) : Node Timer Input Store :=
  { node with timer := AlarmTimer.clearInterrupt node.timer, fired := true }

/-- The timer with the alarm that follows the present fire. -/
def rearmed (node : Node Timer Input Store) : Timer :=
  node.schedule.arm (AlarmTimer.clearInterrupt node.timer)
    (AlarmTimer.counter (AlarmTimer.clearInterrupt node.timer))

theorem onAlarm_of_pause {node : Node Timer Input Store} (h : node.state.flags.pauseSampling = true) :
    node.onAlarm.value = (.paused, node.acknowledged.postPause) := by
  simp [onAlarm, value_noteFirst, h, acknowledged]

/-- An alarm without a pause request makes one frame of the node id, the counter and the medians in
force, whether or not the frame finds room, and writes one alarm. -/
theorem onAlarm_of_sample {node : Node Timer Input Store} (h : node.state.flags.pauseSampling = false) :
    ∃ posted claimed dump, node.Posted posted claimed dump ∧
      node.onAlarm.value = (if node.samples.accepts then .queued else .dropped, { node with
        timer := node.rearmed
        input := (AnalogInput.readAll node.input).2
        filters := node.filters.push (AnalogInput.readAll node.input).1
        counter := node.counter + 1
        fired := true
        samples := node.samples.offer node.nextFrame
        events := node.events.withItems (node.events.items ++ posted)
        state := { node.state with
          reloadClaimed := claimed
          stats := node.sampledStats
          flags := { node.state.flags with debugDump := dump } } }) := by
  obtain ⟨posted, claimed, dump, hPosted, he⟩ := node.acknowledged.posts_eq
  refine ⟨posted, claimed, dump, ?_, ?_⟩
  · exact ⟨hPosted.noStop, hPosted.reloads, hPosted.asked, hPosted.dumps, hPosted.served⟩
  have hf : node.acknowledged.postReload.postDump.nextFrame = node.nextFrame := by
    rw [he]
    rfl
  conv => lhs; simp only [onAlarm, Traced.value_bind, value_noteFirst, h]
  change ((node.acknowledged.postReload.postDump.takeSample.queueFrame
    node.acknowledged.postReload.postDump.nextFrame >>= _).value) = _
  rw [Traced.value_bind, hf, value_queueFrame, he, sampledStats]
  cases hAccepts : node.samples.accepts
  · simp only [takeSample, count, acknowledged, hAccepts]
    rfl
  · simp only [takeSample, count, acknowledged, hAccepts]
    rfl

end Telemetry.Node
