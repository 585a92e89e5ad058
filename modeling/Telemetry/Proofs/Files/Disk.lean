import Telemetry.Files.Disk
import Telemetry.Proofs.Entries

/-! What saving a file does to a disk: a success is read back, and a failure leaves what can be read. -/
namespace Telemetry.Disk

/-- Everything on the one disk is on the other as well. -/
def KeptIn (disk later : Disk) : Prop :=
  ∀ place entry, disk.entry? place = some entry → later.entry? place = some entry

/-- The same of directories only. -/
def DirectoriesKeptIn (disk later : Disk) : Prop :=
  ∀ place, disk.entry? place = some .directory → later.entry? place = some .directory

variable {disk later : Disk}

theorem KeptIn.refl (disk : Disk) : disk.KeptIn disk :=
  fun _ _ h => h

theorem KeptIn.trans {last : Disk} (h : disk.KeptIn later) (h' : later.KeptIn last) : disk.KeptIn last :=
  fun place entry hEntry => h' place entry (h place entry hEntry)

theorem KeptIn.directories (h : disk.KeptIn later) : disk.DirectoriesKeptIn later :=
  fun place => h place .directory

/-! Finding a place depends on the directories on the way to it alone. -/

theorem checkDirectory_eq_ok_iff {place : Place} :
    disk.checkDirectory place = .ok () ↔ disk.entry? place = some .directory := by
  unfold checkDirectory
  split <;> simp_all

theorem walk_nil_eq_ok_iff {place found : Place} :
    disk.walk place [] = .ok found ↔ disk.entry? place = some .directory ∧ place = found := by
  rw [← checkDirectory_eq_ok_iff, walk]
  split <;> simp_all

theorem walk_cons_eq_ok_iff {place found : Place} {name : String} {rest : List String} :
    disk.walk place (name :: rest) = .ok found ↔ disk.entry? place = some .directory ∧
      ∃ next, child place name = .ok next ∧ disk.walk next rest = .ok found := by
  rw [← checkDirectory_eq_ok_iff, walk]
  split
  · simp_all
  · split <;> simp_all

theorem approach_eq_ok_iff {path : String} {found : Place × String} :
    disk.approach path = .ok found ↔ checkPath path = .ok () ∧
      ∃ place, disk.walk (origin path) (Path.names path).dropLast = .ok place ∧
        (place, (Path.names path).getLast?.getD ".") = found := by
  rw [approach]
  split
  · simp_all
  · dsimp only
    split <;> simp_all

theorem resolve_eq_ok_iff {path : String} {place : Place} :
    disk.resolve path = .ok place ↔
      ∃ found, disk.approach path = .ok found ∧ child found.1 found.2 = .ok place := by
  rw [resolve]
  split <;> simp_all

theorem walk_of_kept (h : disk.DirectoriesKeptIn later) {place found : Place} {names : List String}
    (hWalk : disk.walk place names = .ok found) : later.walk place names = .ok found := by
  induction names generalizing place with
  | nil =>
    obtain ⟨hPlace, hFound⟩ := walk_nil_eq_ok_iff.mp hWalk
    exact walk_nil_eq_ok_iff.mpr ⟨h place hPlace, hFound⟩
  | cons name rest ih =>
    obtain ⟨hPlace, next, hChild, hRest⟩ := walk_cons_eq_ok_iff.mp hWalk
    exact walk_cons_eq_ok_iff.mpr ⟨h place hPlace, next, hChild, ih hRest⟩

theorem approach_of_kept (h : disk.DirectoriesKeptIn later) {path : String} {found : Place × String}
    (hApproach : disk.approach path = .ok found) : later.approach path = .ok found := by
  obtain ⟨hCheck, place, hWalk, hFound⟩ := approach_eq_ok_iff.mp hApproach
  exact approach_eq_ok_iff.mpr ⟨hCheck, place, walk_of_kept h hWalk, hFound⟩

theorem resolve_of_kept (h : disk.DirectoriesKeptIn later) {path : String} {place : Place}
    (hResolve : disk.resolve path = .ok place) : later.resolve path = .ok place := by
  obtain ⟨found, hApproach, hChild⟩ := resolve_eq_ok_iff.mp hResolve
  exact resolve_eq_ok_iff.mpr ⟨found, approach_of_kept h hApproach, hChild⟩

/-- A file is read exactly when its path leads to it and does not call for a directory. -/
theorem read_eq_ok_iff {path : String} {content : FileContent} : disk.read path = .ok content ↔
    ∃ place, disk.resolve path = .ok place ∧ disk.entry? place = some (.file content) ∧
      Path.endsInSlash path = false := by
  rw [read]
  cases hResolve : disk.resolve path with
  | error error => simp
  | ok place =>
    dsimp only
    cases hEntry : disk.entry? place with
    | none => simp [hEntry]
    | some entry =>
      cases entry with
      | directory => simp [hEntry]
      | file found => cases hSlash : Path.endsInSlash path <;> simp [hEntry]

theorem readText_eq_ok_iff {path text : String} :
    disk.readText path = .ok text ↔ disk.read path = .ok (.text text) := by
  rw [readText]
  split <;> simp_all

theorem readText_of_kept (h : disk.KeptIn later) {path text : String}
    (hText : disk.readText path = .ok text) : later.readText path = .ok text := by
  obtain ⟨place, hResolve, hEntry, hSlash⟩ := read_eq_ok_iff.mp (readText_eq_ok_iff.mp hText)
  exact readText_eq_ok_iff.mpr
    (read_eq_ok_iff.mpr ⟨place, resolve_of_kept h.directories hResolve, h place _ hEntry, hSlash⟩)

/-! What is put somewhere is there, unless a directory stands there anyway. -/

theorem entry?_put (disk : Disk) {place : Place} (hPlace : disk.entry? place ≠ some .directory)
    (entry : DiskEntry) (other : Place) :
    Disk.entry? (disk.put place entry) other = if other = place then some entry else disk.entry? other := by
  have hOrdinary : (place.all fun name => name == ".." || name == "/") = false := by
    rw [Bool.eq_false_iff]
    intro hAbove
    exact hPlace (if_pos hAbove)
  by_cases hOther : other = place
  · subst hOther
    rw [if_pos rfl, entry?, hOrdinary]
    simp [put]
  · rw [if_neg hOther, entry?, entry?, put, List.lookup_cons, beq_false_of_ne hOther]
    simp only [Entries.lookup_filter_ne hOther]

/-- A file in the place of none or of another file leaves every directory. -/
theorem directoriesKeptIn_put (disk : Disk) {place : Place} (hPlace : disk.entry? place ≠ some .directory)
    (entry : DiskEntry) : disk.DirectoriesKeptIn (disk.put place entry) := by
  intro other hOther
  have hDiffers : other ≠ place := by
    rintro rfl
    exact hPlace hOther
  rw [disk.entry?_put hPlace, if_neg hDiffers, hOther]

theorem keptIn_put (disk : Disk) {place : Place} (hPlace : disk.entry? place = none) (entry : DiskEntry) :
    disk.KeptIn (disk.put place entry) := by
  intro other found hOther
  have hDiffers : other ≠ place := by
    rintro rfl
    rw [hPlace] at hOther
    cases hOther
  rw [disk.entry?_put (by simp [hPlace]), if_neg hDiffers, hOther]

/-! Making directories takes nothing away. -/

theorem tryPut_eq_ok {place : Place} {entry : DiskEntry} {written : Disk}
    (h : disk.tryPut place entry = .ok written) : written = disk.put place entry := by
  rw [tryPut] at h
  split at h
  · cases h
  · cases h
    rfl

theorem keptIn_makeOne {path : String} {made : Disk} (h : disk.makeOne path = .ok made) :
    disk.KeptIn made := by
  rw [makeOne] at h
  split at h
  · cases h
  · split at h
    · cases h
    · split at h
      · cases h
      · split at h
        · cases h
        · rename_i hFree
          rw [tryPut_eq_ok h]
          exact disk.keptIn_put hFree _

theorem keptIn_ensureOne (disk : Disk) (path : String) : disk.KeptIn (disk.ensureOne path).2 := by
  rw [ensureOne]
  split
  · rename_i made hMade
    exact keptIn_makeOne hMade
  · split
    · exact .refl disk
    · exact .refl disk

theorem keptIn_ensureStages (disk : Disk) (paths : List String) : disk.KeptIn (disk.ensureStages paths).2 := by
  induction paths with
  | nil => exact .refl disk
  | cons path above ih =>
    rw [ensureStages]
    split
    · split
      · rename_i error left hLeft
        rw [hLeft] at ih
        exact ih
      · rename_i ready hReady
        rw [hReady] at ih
        exact ih.trans (ready.keptIn_ensureOne path)
    · exact disk.keptIn_ensureOne path

/-! Writing and saving. -/

/-- What a write needs, whatever it writes. -/
theorem write_eq_ok_iff {path : String} {content : FileContent} {written : Disk} :
    disk.write path content = .ok written ↔ ∃ directory name place, disk.approach path = .ok (directory, name) ∧
      (Path.isDots name || Path.endsInSlash path) = false ∧ child directory name = .ok place ∧
      disk.entry? place ≠ some .directory ∧ disk.writeProtected = false ∧
      disk.put place (.file content) = written := by
  constructor
  · intro h
    rw [write] at h
    split at h
    · cases h
    · rename_i directory name hApproach
      split at h
      · cases h
      · rename_i hOrdinary
        split at h
        · cases h
        · rename_i place hChild
          split at h
          · cases h
          · rename_i hFile
            rw [tryPut] at h
            split at h
            · cases h
            · rename_i hOpen
              exact ⟨directory, name, place, hApproach, by simpa using hOrdinary, hChild,
                by simpa [isDirectoryAt] using hFile, by simpa using hOpen, Except.ok.inj h⟩
  · rintro ⟨directory, name, place, hApproach, hOrdinary, hChild, hPlace, hOpen, rfl⟩
    rw [write, hApproach]
    simp only [hOrdinary, hChild, isDirectoryAt, hPlace, tryPut, hOpen, Bool.false_eq_true, if_false, decide_false]

theorem read_of_write {path : String} {content : FileContent} {written : Disk}
    (h : disk.write path content = .ok written) : written.read path = .ok content := by
  obtain ⟨directory, name, place, hApproach, hOrdinary, hChild, hPlace, -, rfl⟩ := write_eq_ok_iff.mp h
  have hResolve : disk.resolve path = .ok place := resolve_eq_ok_iff.mpr ⟨(directory, name), hApproach, hChild⟩
  -- The new file stands where no directory stood, so the way to it is the same.
  refine read_eq_ok_iff.mpr ⟨place, ?_, ?_, ?_⟩
  · exact resolve_of_kept (disk.directoriesKeptIn_put hPlace _) hResolve
  · rw [disk.entry?_put hPlace, if_pos rfl]
  · exact (Bool.or_eq_false_iff.mp hOrdinary).2

/-- What was saved is read back. -/
theorem readText_of_save {path text : String} {saved : Disk}
    (h : disk.save path (.text text) = (.ok (), saved)) : saved.readText path = .ok text := by
  rw [save] at h
  split at h
  · cases h
  · split at h
    · cases h
    · rename_i ready _ written hWritten
      cases h
      exact readText_eq_ok_iff.mpr (read_of_write hWritten)

/-- A file that could be read before can still be read when saving it has failed. -/
theorem readText_of_save_error {path text : String} {content : FileContent} {error : DiskError} {left : Disk}
    (hText : disk.readText path = .ok text) (h : disk.save path content = (.error error, left)) :
    left.readText path = .ok text := by
  have hStages := disk.keptIn_ensureStages (Path.directories path)
  rw [save] at h
  split at h
  · rename_i _ stopped hStopped
    rw [hStopped] at hStages
    cases h
    exact readText_of_kept hStages hText
  · rename_i ready hReady
    rw [hReady] at hStages
    split at h
    · cases h
      exact readText_of_kept hStages hText
    · cases h

/-- Without a directory to make, a save that fails leaves the disk as it was. -/
theorem eq_of_save_error {path : String} {content : FileContent} {error : DiskError} {left : Disk}
    (hDirectories : Path.directories path = []) (h : disk.save path content = (.error error, left)) :
    left = disk := by
  rw [save, hDirectories, ensureStages] at h
  dsimp only at h
  split at h
  · cases h
    rfl
  · cases h

end Telemetry.Disk
