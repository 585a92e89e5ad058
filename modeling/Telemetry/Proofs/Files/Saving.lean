import Telemetry.Proofs.Files.Disk

/-! When saving a file works: it goes on working once it did, and never works on a disk that is write-protected. -/
namespace Telemetry.Disk

variable {disk later : Disk} {path : String}

theorem isDirectory_iff : disk.isDirectory path = true ↔
    ∃ place, disk.resolve path = .ok place ∧ disk.entry? place = some .directory := by
  rw [isDirectory]
  split <;> simp_all [isDirectoryAt]

theorem isDirectory_of_kept (h : disk.DirectoriesKeptIn later) (hPath : disk.isDirectory path = true) :
    later.isDirectory path = true := by
  obtain ⟨place, hResolve, hEntry⟩ := isDirectory_iff.mp hPath
  exact isDirectory_iff.mpr ⟨place, resolve_of_kept h hResolve, h place hEntry⟩

/-- A directory that was made is one. -/
theorem isDirectory_of_makeOne {made : Disk} (h : disk.makeOne path = .ok made) :
    made.isDirectory path = true := by
  have hKept := (keptIn_makeOne h).directories
  rw [makeOne] at h
  split at h
  · cases h
  · rename_i directory name hApproach
    split at h
    · cases h
    · split at h
      · cases h
      · rename_i place hChild
        split at h
        · cases h
        · rename_i hFree
          have hResolve := resolve_eq_ok_iff.mpr ⟨_, hApproach, hChild⟩
          refine isDirectory_iff.mpr ⟨place, resolve_of_kept hKept hResolve, ?_⟩
          rw [tryPut_eq_ok h, disk.entry?_put (by simp [hFree]), if_pos rfl]

theorem makeOne_of_isDirectory (h : disk.isDirectory path = true) :
    disk.makeOne path = .error .alreadyExists := by
  obtain ⟨place, hResolve, hEntry⟩ := isDirectory_iff.mp h
  obtain ⟨⟨directory, name⟩, hApproach, hChild⟩ := resolve_eq_ok_iff.mp hResolve
  rw [makeOne, hApproach]
  dsimp only
  split
  · rfl
  · rw [hChild]
    simp only [hEntry]

theorem isDirectory_of_ensureOne {ready : Disk} (h : disk.ensureOne path = (.ok (), ready)) :
    ready.isDirectory path = true := by
  rw [ensureOne] at h
  split at h
  · rename_i made hMade
    cases h
    exact isDirectory_of_makeOne hMade
  · split at h
    · rename_i hDirectory
      cases h
      exact hDirectory
    · cases h

/-- Directories that were made once are not made again. -/
theorem ensureStages_again {paths : List String} {ready : Disk}
    (h : disk.ensureStages paths = (.ok (), ready)) (hKept : ready.DirectoriesKeptIn later) :
    later.ensureStages paths = (.ok (), later) := by
  cases paths with
  | nil => rfl
  | cons path above =>
    have hReady : ready.isDirectory path = true := by
      rw [ensureStages] at h
      split at h
      · split at h
        · cases h
        · exact isDirectory_of_ensureOne h
      · exact isDirectory_of_ensureOne h
    have hLater := isDirectory_of_kept hKept hReady
    rw [ensureStages, makeOne_of_isDirectory hLater]
    simp [ensureOne, makeOne_of_isDirectory hLater, hLater]

/-- Saving the file works, whatever is saved. -/
def Saves (disk : Disk) (path : String) : Prop :=
  ∀ content, (disk.save path content).1 = .ok ()

/-- A file that was saved can be saved with other content, and again. -/
theorem saves_of_save {content : FileContent} {saved : Disk} (h : disk.save path content = (.ok (), saved)) :
    disk.Saves path ∧ saved.Saves path := by
  rw [save] at h
  split at h
  · cases h
  · rename_i ready hReady
    split at h
    · cases h
    · rename_i written hWritten
      cases h
      obtain ⟨directory, name, place, hApproach, hOrdinary, hChild, hPlace, hOpen, rfl⟩ :=
        write_eq_ok_iff.mp hWritten
      have hKept := ready.directoriesKeptIn_put hPlace (.file content)
      refine ⟨?_, ?_⟩
      · intro other
        have hWrite : ready.write path other = .ok (ready.put place (.file other)) :=
          write_eq_ok_iff.mpr ⟨directory, name, place, hApproach, hOrdinary, hChild, hPlace, hOpen, rfl⟩
        rw [save, hReady]
        simp only [hWrite]
      · intro other
        have hFile : Disk.entry? (ready.put place (.file content)) place ≠ some .directory := by
          rw [ready.entry?_put hPlace, if_pos rfl]
          simp
        have hWrite : (ready.put place (.file content)).write path other =
            .ok ((ready.put place (.file content)).put place (.file other)) :=
          write_eq_ok_iff.mpr ⟨directory, name, place, approach_of_kept hKept hApproach, hOrdinary, hChild, hFile,
            hOpen, rfl⟩
        rw [save, ensureStages_again hReady hKept]
        simp only [hWrite]

theorem Saves.save (h : disk.Saves path) (content : FileContent) : (disk.save path content).2.Saves path :=
  (saves_of_save (Prod.ext (h content) rfl)).2

/-! A disk that is write-protected stays as it is. -/

theorem makeOne_of_writeProtected (h : disk.writeProtected = true) (path : String) (made : Disk) :
    disk.makeOne path ≠ .ok made := by
  rw [makeOne]
  split
  · simp
  · split
    · simp
    · split
      · simp
      · split
        · simp
        · simp [tryPut, h]

theorem ensureOne_of_writeProtected (h : disk.writeProtected = true) (path : String) :
    (disk.ensureOne path).2 = disk := by
  rw [ensureOne]
  split
  · rename_i made hMade
    exact absurd hMade (makeOne_of_writeProtected h path made)
  · split
    · rfl
    · rfl

theorem ensureStages_of_writeProtected (h : disk.writeProtected = true) (paths : List String) :
    (disk.ensureStages paths).2 = disk := by
  induction paths with
  | nil => rfl
  | cons path above ih =>
    rw [ensureStages]
    split
    · split
      · rename_i hLeft
        rwa [hLeft] at ih
      · rename_i ready hReady
        rw [hReady] at ih
        obtain rfl : ready = disk := ih
        exact ensureOne_of_writeProtected h path
    · exact ensureOne_of_writeProtected h path

theorem save_of_writeProtected (h : disk.writeProtected = true) (path : String) (content : FileContent) :
    ∃ error, disk.save path content = (.error error, disk) := by
  have hSame := ensureStages_of_writeProtected h (Path.directories path)
  rw [save]
  split
  · rename_i error left hLeft
    rw [hLeft] at hSame
    exact ⟨error, congrArg _ hSame⟩
  · rename_i ready hReady
    rw [hReady] at hSame
    obtain rfl : ready = disk := hSame
    split
    · rename_i error _
      exact ⟨error, rfl⟩
    · rename_i written hWritten
      obtain ⟨_, _, _, -, -, -, -, hOpen, -⟩ := write_eq_ok_iff.mp hWritten
      exact absurd hOpen (by simp [h])

end Telemetry.Disk
