/-! Lists of entries that are looked up by key. -/
namespace Telemetry.Entries

variable {Key Value : Type} [BEq Key] [LawfulBEq Key] [DecidableEq Key]

theorem lookup_cons (key other : Key) (value : Value) (rest : List (Key × Value)) :
    ((key, value) :: rest).lookup other = if other = key then some value else rest.lookup other := by
  by_cases h : other = key
  · simp [h]
  · rw [List.lookup_cons, beq_false_of_ne h, if_neg h]

theorem lookup_filter_ne {key other : Key} (h : other ≠ key) (entries : List (Key × Value)) :
    (entries.filter (·.1 ≠ key)).lookup other = entries.lookup other := by
  induction entries with
  | nil => rfl
  | cons entry rest ih =>
    obtain ⟨held, value⟩ := entry
    by_cases hHeld : held = key
    · subst hHeld
      rw [List.filter_cons_of_neg (by simp), ih, lookup_cons, if_neg h]
    · rw [List.filter_cons_of_pos (by simpa), List.lookup_cons, List.lookup_cons, ih]

theorem lookup_filter_self (key : Key) (entries : List (Key × Value)) :
    (entries.filter (·.1 ≠ key)).lookup key = none := by
  apply List.lookup_eq_none_iff.mpr
  intro entry hEntry
  have hOther : entry.1 ≠ key := of_decide_eq_true (List.mem_filter.mp hEntry).2
  exact bne_iff_ne.mpr hOther.symm

/-- With each key once, looking up is being there. -/
theorem lookup_eq_some_iff {entries : List (Key × Value)} (hKeys : (entries.map Prod.fst).Nodup) {key : Key}
    {value : Value} : entries.lookup key = some value ↔ (key, value) ∈ entries := by
  induction entries with
  | nil => simp
  | cons entry rest ih =>
    obtain ⟨held, kept⟩ := entry
    obtain ⟨hFirst, hRest⟩ := List.nodup_cons.mp hKeys
    rw [lookup_cons]
    by_cases h : key = held
    · subst h
      have hLater : (key, value) ∉ rest := fun hMember =>
        hFirst (List.mem_map.mpr ⟨(key, value), hMember, rfl⟩)
      simp [hLater, eq_comm]
    · simp [h, ih hRest]

/-- With each key once, the order does not matter. -/
theorem lookup_of_perm {entries other : List (Key × Value)} (h : entries.Perm other)
    (hKeys : (entries.map Prod.fst).Nodup) (key : Key) : entries.lookup key = other.lookup key := by
  have hOther : (other.map Prod.fst).Nodup := (h.map Prod.fst).nodup_iff.mp hKeys
  apply Option.ext
  intro value
  rw [lookup_eq_some_iff hKeys, lookup_eq_some_iff hOther, h.mem_iff]

theorem lookup_map_of_injective {Name : Type} [BEq Name] [LawfulBEq Name] [DecidableEq Name] {name : Key → Name}
    (h : ∀ key other, name key = name other → key = other) (entries : List (Key × Value)) (key : Key) :
    (entries.map fun entry => (name entry.1, entry.2)).lookup (name key) = entries.lookup key := by
  induction entries with
  | nil => rfl
  | cons entry rest ih =>
    rw [List.map_cons, lookup_cons, ih, lookup_cons]
    by_cases hKey : key = entry.1
    · rw [if_pos hKey, if_pos (congrArg name hKey)]
    · rw [if_neg hKey, if_neg fun hName => hKey (h key entry.1 hName)]

/-- What is read after entries were put in one after the other: the last of each key, or what was there. -/
theorem read_foldl {State : Type} (read : State → Key → Option Value) {put : State → Key × Value → State}
    (hPut : ∀ state entry key, read (put state entry) key = if key = entry.1 then some entry.2 else read state key)
    (entries : List (Key × Value)) (state : State) (key : Key) :
    read (entries.foldl put state) key = (entries.reverse.lookup key).or (read state key) := by
  induction entries generalizing state with
  | nil => rfl
  | cons entry rest ih =>
    rw [List.foldl_cons, ih, hPut, List.reverse_cons, List.lookup_append, lookup_cons, Option.or_assoc]
    split
    · rfl
    · rfl

/-- Entries that were put into nothing are read as they are listed, with each key once. -/
theorem read_foldl_of_nodup {State : Type} (read : State → Key → Option Value)
    {put : State → Key × Value → State}
    (hPut : ∀ state entry key, read (put state entry) key = if key = entry.1 then some entry.2 else read state key)
    {state : State} (hState : ∀ key, read state key = none) {entries : List (Key × Value)}
    (hKeys : (entries.map Prod.fst).Nodup) (key : Key) :
    read (entries.foldl put state) key = entries.lookup key := by
  rw [read_foldl read hPut, hState, Option.or_none, lookup_of_perm entries.reverse_perm.symm hKeys]

end Telemetry.Entries
