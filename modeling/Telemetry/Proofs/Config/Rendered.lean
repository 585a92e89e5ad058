import Mathlib.Data.String.Basic
import Telemetry.Proofs.Config.Labels
import Telemetry.Proofs.Json.RoundTrip
import Telemetry.Proofs.Json.Space

/-! The text that a file store writes is read back as the values it was written from, unused labels and all. -/
namespace Telemetry.FileStore

/-- In ascending order of labels, each label once. -/
def Ascending (values : List (String × UInt16)) : Prop :=
  values.Pairwise fun earlier later => earlier.1 < later.1

theorem mem_insertLabel {label : String} {value : UInt16} {values : List (String × UInt16)}
    {entry : String × UInt16} (h : entry ∈ insertLabel label value values) :
    entry = (label, value) ∨ entry ∈ values := by
  induction values with
  | nil => exact .inl (List.mem_singleton.mp h)
  | cons first rest ih =>
    rw [insertLabel] at h
    split at h
    · exact List.mem_cons.mp h
    · split at h
      · rename_i hSame
        subst hSame
        obtain rfl | hRest := List.mem_cons.mp h
        · exact .inl rfl
        · exact .inr (List.mem_cons_of_mem _ hRest)
      · obtain rfl | hRest := List.mem_cons.mp h
        · exact .inr List.mem_cons_self
        · exact (ih hRest).imp_right (List.mem_cons_of_mem _)

theorem Ascending.insertLabel {values : List (String × UInt16)} (h : Ascending values) (label : String)
    (value : UInt16) : Ascending (insertLabel label value values) := by
  induction values with
  | nil => exact List.pairwise_singleton _ _
  | cons first rest ih =>
    obtain ⟨hFirst, hRest⟩ := List.pairwise_cons.mp h
    rw [FileStore.insertLabel]
    split
    · rename_i hBefore
      refine List.pairwise_cons.mpr ⟨?_, h⟩
      intro entry hEntry
      obtain rfl | hLater := List.mem_cons.mp hEntry
      · exact hBefore
      · exact lt_trans hBefore (hFirst entry hLater)
    · rename_i hNotBefore
      split
      · rename_i hSame
        subst hSame
        exact List.pairwise_cons.mpr ⟨hFirst, hRest⟩
      · rename_i hDiffers
        refine List.pairwise_cons.mpr ⟨?_, ih hRest⟩
        intro entry hEntry
        obtain rfl | hLater := mem_insertLabel hEntry
        · exact lt_of_le_of_ne (not_lt.mp hNotBefore) (Ne.symm hDiffers)
        · exact hFirst entry hLater

theorem insertLabel_insertLabel (label : String) (value held : UInt16) (values : List (String × UInt16)) :
    insertLabel label held (insertLabel label value values) = insertLabel label held values := by
  induction values with
  | nil => simp [insertLabel]
  | cons first rest ih =>
    obtain ⟨other, kept⟩ := first
    by_cases hBefore : label < other
    · simp [insertLabel, hBefore]
    · by_cases hSame : label = other
      · simp [insertLabel, hSame]
      · simp [insertLabel, hBefore, hSame, ih]

/-- Putting in what is there already changes nothing. -/
theorem Ascending.insertLabel_of_lookup {values : List (String × UInt16)} (h : Ascending values) {label : String}
    {held : UInt16} (hHeld : values.lookup label = some held) :
    FileStore.insertLabel label held values = values := by
  induction values with
  | nil => cases hHeld
  | cons first rest ih =>
    obtain ⟨other, kept⟩ := first
    obtain ⟨hFirst, hRest⟩ := List.pairwise_cons.mp h
    rw [Entries.lookup_cons] at hHeld
    rw [FileStore.insertLabel]
    by_cases hSame : label = other
    · rw [if_pos hSame] at hHeld
      cases hHeld
      rw [if_neg (not_lt.mpr hSame.ge), if_pos hSame, hSame]
    · rw [if_neg hSame] at hHeld
      -- The label is found behind the first one, so it does not belong before it.
      obtain ⟨before, after, rfl, -⟩ := List.lookup_eq_some_iff.mp hHeld
      have hLater : other < label := hFirst (label, held) (by simp)
      rw [if_neg (not_lt.mpr hLater.le), if_neg hSame, ih hRest hHeld]

/-- Taking out what was put in leaves what was there, where the label is new. -/
theorem filter_insertLabel {label : String} {values : List (String × UInt16)}
    (hNew : ∀ entry ∈ values, entry.1 ≠ label) (value : UInt16) :
    (insertLabel label value values).filter (·.1 ≠ label) = values := by
  have hKept : values.filter (·.1 ≠ label) = values := by
    apply List.filter_eq_self.mpr
    simpa using hNew
  induction values with
  | nil => simp [insertLabel]
  | cons first rest ih =>
    obtain ⟨hFirst, hRest⟩ := List.forall_mem_cons.mp hNew
    rw [insertLabel]
    split
    · rw [List.filter_cons_of_neg (by simp), hKept]
    · rw [if_neg hFirst.symm, List.filter_cons_of_pos (by simpa using hFirst), ih hRest]
      rw [List.filter_cons_of_pos (by simpa using hFirst)] at hKept
      exact List.tail_eq_of_cons_eq hKept

/-- Once a value was changed, putting back what its label had restores the values: those with the label among
them by writing the old value over the new one, those without it by taking the label out. -/
theorem Ascending.putBack_insertLabel {values : List (String × UInt16)} (h : Ascending values) (label : String)
    (value : UInt16) :
    putBack label (values.lookup label) (FileStore.insertLabel label value values) = values := by
  cases hHeld : values.lookup label with
  | some held =>
    rw [putBack, insertLabel_insertLabel]
    exact h.insertLabel_of_lookup hHeld
  | none =>
    refine filter_insertLabel ?_ value
    intro entry hEntry hSame
    simpa [hSame] using List.lookup_eq_none_iff.mp hHeld entry hEntry

/-- Behind all earlier labels, a new one is put at the end. -/
theorem insertLabel_of_later {label : String} {value : UInt16} {values : List (String × UInt16)}
    (h : ∀ entry ∈ values, entry.1 < label) : insertLabel label value values = values ++ [(label, value)] := by
  induction values with
  | nil => rfl
  | cons first rest ih =>
    obtain ⟨hFirst, hRest⟩ := List.forall_mem_cons.mp h
    rw [insertLabel, if_neg (not_lt.mpr hFirst.le), if_neg hFirst.ne', ih hRest, List.cons_append]

/-- Values put in one after the other. -/
def insertAll (values : List (String × UInt16)) (entries : List (String × UInt16)) : List (String × UInt16) :=
  entries.foldl (fun values entry => insertLabel entry.1 entry.2 values) values

theorem Ascending.insertAll {values : List (String × UInt16)} (h : Ascending values)
    (entries : List (String × UInt16)) : Ascending (insertAll values entries) := by
  induction entries generalizing values with
  | nil => exact h
  | cons entry rest ih => exact ih (h.insertLabel entry.1 entry.2)

theorem insertAll_of_ascending {values entries : List (String × UInt16)} (h : Ascending (values ++ entries)) :
    insertAll values entries = values ++ entries := by
  induction entries generalizing values with
  | nil => exact (List.append_nil _).symm
  | cons entry rest ih =>
    have hBefore : ∀ earlier ∈ values, earlier.1 < entry.1 := by
      intro earlier hEarlier
      exact (List.pairwise_append.mp h).2.2 earlier hEarlier entry List.mem_cons_self
    rw [List.append_cons] at h
    rw [insertAll, List.foldl_cons, insertLabel_of_later hBefore]
    exact (ih h).trans (List.append_cons values entry rest).symm

theorem parse_eq (text : String) : parse text =
    if Text.isBlankText text then some []
    else match Json.parse text with
      | some (.object members) => (members.mapM readMember).map (insertAll [])
      | _ => none :=
  rfl

theorem Ascending.of_parse {text : String} {values : List (String × UInt16)} (h : parse text = some values) :
    Ascending values := by
  rw [parse_eq] at h
  split at h
  · cases h
    exact List.Pairwise.nil
  · split at h
    · obtain ⟨entries, -, rfl⟩ := Option.map_eq_some_iff.mp h
      exact Ascending.insertAll List.Pairwise.nil entries
    · cases h

/-- A value as a member of the file's object. -/
def member (entry : String × UInt16) : String × Json.Scalar :=
  (entry.1, .number entry.2.toNat)

theorem readMember_member (entry : String × UInt16) :
    readMember (Json.readMember (member entry)) = some entry := by
  obtain ⟨label, value⟩ := entry
  have hValue := Json.natural?_read value.toNat_lt
  simp [readMember, Json.readMember, member, hValue]

theorem mapM_readMember (values : List (String × UInt16)) :
    ((values.map member).map Json.readMember).mapM readMember = some values := by
  induction values with
  | nil => rfl
  | cons entry rest ih =>
    simp only [List.map_cons, List.mapM_cons, readMember_member, ih]
    rfl

/-- An object's text is read as its members, put in one after the other. -/
theorem parse_of_object {text : String} {members : List (Option String × Json.Value)}
    (h : Json.parse text = some (.object members)) :
    parse text = (members.mapM readMember).map (insertAll []) := by
  rw [parse_eq, Json.isBlankText_of_parse h, h]
  rfl

theorem parse_object_render (values : List (String × UInt16)) :
    Json.parse (render values) = some (.object ((values.map member).map Json.readMember)) :=
  Json.parse_writeObject Json.Layout.legible_pretty (values.map member)

theorem parse_render {values : List (String × UInt16)} (h : Ascending values) :
    parse (render values) = some values := by
  rw [parse_of_object (parse_object_render values), mapM_readMember]
  exact congrArg some (insertAll_of_ascending h)

end Telemetry.FileStore
