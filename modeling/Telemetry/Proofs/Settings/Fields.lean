import Mathlib.Data.List.Basic
import Telemetry.Proofs.Config.Reopened
import Telemetry.Proofs.Files.Disk
import Telemetry.Proofs.Json.RoundTrip
import Telemetry.Settings.File

/-! What a settings file has to say, whole or in part: the fields that it lists are taken from it, all others keep their
defaults, and a file that makes no sense gives nothing but defaults. -/
namespace Telemetry.Settings

/-- The listed fields from one place, all others from another. -/
def pick (fields : List Field) (listed other : Settings) : Settings where
  sampleRateHz := if .sampleRateHz ∈ fields then listed.sampleRateHz else other.sampleRateHz
  localPort := if .localPort ∈ fields then listed.localPort else other.localPort
  remoteIp := if .remoteIp ∈ fields then listed.remoteIp else other.remoteIp
  remotePort := if .remotePort ∈ fields then listed.remotePort else other.remotePort
  storePath := if .storePath ∈ fields then listed.storePath else other.storePath
  sampleQueueCapacity :=
    if .sampleQueueCapacity ∈ fields then listed.sampleQueueCapacity else other.sampleQueueCapacity
  packetQueueCapacity :=
    if .packetQueueCapacity ∈ fields then listed.packetQueueCapacity else other.packetQueueCapacity
  eventQueueCapacity := if .eventQueueCapacity ∈ fields then listed.eventQueueCapacity else other.eventQueueCapacity
  engineTimeoutMs := if .engineTimeoutMs ∈ fields then listed.engineTimeoutMs else other.engineTimeoutMs
  transmitTimeoutMs := if .transmitTimeoutMs ∈ fields then listed.transmitTimeoutMs else other.transmitTimeoutMs
  keepaliveAfter := if .keepaliveAfter ∈ fields then listed.keepaliveAfter else other.keepaliveAfter

/-- A field's type: numbers below a bound, or any text. -/
inductive Field.Kind where
  | word (bound : Nat)
  | text
  deriving DecidableEq, Repr

def Field.kind : Field → Kind
  | sampleRateHz | keepaliveAfter => .word UInt32.size
  | localPort | remotePort => .word UInt16.size
  | remoteIp | storePath => .text
  | sampleQueueCapacity | packetQueueCapacity | eventQueueCapacity | engineTimeoutMs | transmitTimeoutMs =>
    .word UInt64.size

/-- The values of a type. A number is written in digits alone. -/
inductive Field.Kind.Admits : Kind → Json.Value → Prop
  | word {bound number : Nat} {literal : List Char} (h : Text.Digits literal number) (hBound : number < bound) :
    Admits (.word bound) (.number literal)
  | text (content : String) : Admits .text (.string (some content))

/-- Members of an object that hold some fields of the settings, each once, and maybe unknown names with any values. -/
inductive Lists (settings : Settings) : List Field → List (Option String × Json.Value) → Prop
  | nil : Lists settings [] []
  | field {field : Field} {fields : List Field} {rest : List (Option String × Json.Value)} (h : field ∉ fields)
    (hRest : Lists settings fields rest) :
    Lists settings (field :: fields) ((some field.name, (field.scalar settings).read) :: rest)
  | unknown {name : String} {value : Json.Value} {fields : List Field} {rest : List (Option String × Json.Value)}
    (h : ∀ field : Field, field.name ≠ name) (hRest : Lists settings fields rest) :
    Lists settings fields ((some name, value) :: rest)

/-- A value that some JSON has for a field: by its name in an object, by its place in an array. -/
inductive Gives : Json.Value → Field → Json.Value → Prop
  | member {members : List (Option String × Json.Value)} {field : Field} {value : Json.Value}
    (h : (some field.name, value) ∈ members) : Gives (.object members) field value
  | item {items : List Json.Value} {field : Field} {value : Json.Value} (h : (field, value) ∈ Field.all.zip items) :
    Gives (.array items) field value

/-! Names and single values. -/

theorem ofName?_name (field : Field) : Field.ofName? field.name = some field := by
  cases field <;> decide

theorem ofName?_eq_none {name : String} (h : ∀ field : Field, field.name ≠ name) : Field.ofName? name = none := by
  rw [Field.ofName?, List.find?_eq_none]
  intro field _
  simpa using h field

theorem natural?_eq_none_iff {bound : Nat} {value : Json.Value} :
    value.natural? bound = none ↔ ¬(Field.Kind.word bound).Admits value := by
  rw [← not_iff_not, not_not, ← ne_eq, Option.ne_none_iff_exists']
  constructor
  · rintro ⟨number, h⟩
    unfold Json.Value.natural? at h
    split at h
    · obtain ⟨hDigits, hBound⟩ := Option.filter_eq_some_iff.mp h
      exact .word (Text.digitsValue?_eq_some_iff.mp hDigits) (by simpa using hBound)
    · cases h
  · rintro ⟨h, hBound⟩
    exact ⟨_, Option.filter_eq_some_iff.mpr ⟨Text.digitsValue?_eq_some_iff.mpr h, by simpa using hBound⟩⟩

theorem text?_eq_none_iff {value : Json.Value} : value.text? = none ↔ ¬Field.Kind.text.Admits value := by
  rw [← not_iff_not, not_not, ← ne_eq, Option.ne_none_iff_exists']
  constructor
  · rintro ⟨content, h⟩
    unfold Json.Value.text? at h
    split at h
    · subst h
      exact .text content
    · cases h
  · intro h
    cases h with
    | text content => exact ⟨content, rfl⟩

/-- A value is refused when it is not of the field's type. -/
theorem put_eq_none_iff {settings : Settings} {value : Json.Value} {field : Field} :
    field.put settings value = none ↔ ¬field.kind.Admits value := by
  cases field <;> simp only [Field.put, Field.kind, Option.map_eq_none_iff, natural?_eq_none_iff, text?_eq_none_iff]

/-- What is written for a field is put back into it alone. -/
theorem put_read (field : Field) (settings base : Settings) :
    field.put base (field.scalar settings).read = some (pick [field] settings base) := by
  have hShort (n : UInt16) := Json.natural?_read n.toNat_lt
  have hWord (n : UInt32) := Json.natural?_read n.toNat_lt
  have hLong (n : UInt64) := Json.natural?_read n.toNat_lt
  cases field
  case remoteIp | storePath => rfl
  all_goals simp [Field.put, Field.scalar, pick, hShort, hWord, hLong]

theorem pick_cons (field : Field) (fields : List Field) (listed other : Settings) :
    pick fields listed (pick [field] listed other) = pick (field :: fields) listed other := by
  unfold pick
  simp only [List.mem_cons, List.not_mem_nil, or_false]
  congr 1 <;> split_ifs <;> simp_all

theorem pick_nil (listed other : Settings) : pick [] listed other = other := rfl

theorem pick_all (listed other : Settings) : pick Field.all listed other = listed := rfl

/-! Members and items, one after the other. -/

theorem putMembers_of_lists {settings : Settings} {fields : List Field}
    {members : List (Option String × Json.Value)} (h : Lists settings fields members) {seen : List Field}
    (hSeen : ∀ field ∈ fields, field ∉ seen) (base : Settings) :
    putMembers seen base members = some (pick fields settings base) := by
  induction h generalizing seen base with
  | nil => rfl
  | @field field fields rest hOnce hRest ih =>
    have hLater : ∀ other ∈ fields, other ∉ field :: seen := by
      intro other hOther hMember
      rcases List.mem_cons.mp hMember with rfl | hMember
      · exact hOnce hOther
      · exact hSeen other (List.mem_cons_of_mem _ hOther) hMember
    have hFirst : seen.contains field = false := by
      simpa using hSeen field List.mem_cons_self
    rw [putMembers, ofName?_name]
    simp only [hFirst, Bool.false_eq_true, if_false, put_read, Option.bind_some]
    rw [ih hLater, pick_cons]
  | unknown hName hRest ih =>
    rw [putMembers, ofName?_eq_none hName]
    exact ih hSeen base

/-- One value that is not of its field's type is enough to refuse an object. -/
theorem putMembers_of_unfit {members : List (Option String × Json.Value)} {field : Field} {value : Json.Value}
    (h : (some field.name, value) ∈ members) (hUnfit : ¬field.kind.Admits value) (seen : List Field)
    (base : Settings) : putMembers seen base members = none := by
  fun_induction putMembers seen base members with
  | case1 => cases h
  | case2 => rfl
  | case3 seen base name head rest hName ih =>
    rcases List.mem_cons.mp h with hHead | hRest
    · cases hHead
      rw [ofName?_name] at hName
      cases hName
    · exact ih hRest
  | case4 => rfl
  | case5 seen base name head rest known hName hSeen ih =>
    rcases List.mem_cons.mp h with hHead | hRest
    · cases hHead
      obtain rfl := Option.some.inj ((ofName?_name field).symm.trans hName)
      rw [put_eq_none_iff.mpr hUnfit, Option.bind_none]
    · cases hPut : known.put base head with
      | none => rfl
      | some next => exact ih next hRest

/-- One value that is not of its field's type is enough to refuse an array. -/
theorem putItems_of_unfit {fields : List Field} {items : List Json.Value} {field : Field} {value : Json.Value}
    (h : (field, value) ∈ fields.zip items) (hUnfit : ¬field.kind.Admits value) (base : Settings) :
    putItems base fields items = none := by
  fun_induction putItems base fields items with
  | case1 => simp at h
  | case2 => rfl
  | case3 base first fields head items ih =>
    rcases List.mem_cons.mp h with hHead | hRest
    · cases hHead
      rw [put_eq_none_iff.mpr hUnfit, Option.bind_none]
    · cases hPut : first.put base head with
      | none => rfl
      | some next => exact ih next hRest

theorem parse_of_gives {text : String} {json : Json.Value} {field : Field} {value : Json.Value}
    (hText : Json.parse text = some json) (h : Gives json field value) (hUnfit : ¬field.kind.Admits value) :
    parse text = none := by
  rw [parse, hText]
  cases h with
  | member h => exact putMembers_of_unfit h hUnfit [] {}
  | item h => exact putItems_of_unfit h hUnfit {}

theorem lists_written (settings : Settings) {fields : List Field} (h : fields.Nodup) :
    Lists settings fields (fields.map fun field => Json.readMember (field.name, field.scalar settings)) := by
  induction fields with
  | nil => exact .nil
  | cons field fields ih =>
    obtain ⟨hFirst, hRest⟩ := List.nodup_cons.mp h
    exact .field hFirst (ih hRest)

theorem parse_of_lists {text : String} {settings : Settings} {fields : List Field}
    {members : List (Option String × Json.Value)} (hText : Json.parse text = some (.object members))
    (h : Lists settings fields members) : parse text = some (pick fields settings {}) := by
  rw [parse, hText]
  exact putMembers_of_lists h (fun _ _ => List.not_mem_nil) {}

/-- Settings are read back as they were written. -/
theorem parse_render (settings : Settings) : parse settings.render = some settings := by
  have hText := Json.parse_writeObject Json.Layout.legible_pretty
    (Field.all.map fun field => (field.name, field.scalar settings))
  rw [List.map_map] at hText
  exact parse_of_lists hText (lists_written settings (by decide))

theorem load_of_text {path text : String} {disk : Disk} (h : disk.readText path = .ok text) :
    load path disk = (parse text).getD {} := by
  rw [load, h]

/-- A file with an object is taken for what it lists, in any order, and for the defaults otherwise. A file that was
saved is taken for the settings that were saved. When the file cannot be read, is no JSON or has a value that is not of
its field's type, everything has its default. -/
theorem loaded_as_listed (path : String) (disk : Disk) :
    (∀ settings fields members text, disk.readText path = .ok text → Json.parse text = some (.object members) →
      Lists settings fields members → load path disk = pick fields settings {}) ∧
    (∀ settings, (save settings path disk).1 = .ok () → load path (save settings path disk).2 = settings) ∧
    (∀ error, disk.readText path = .error error → load path disk = {}) ∧
    ∀ text, disk.readText path = .ok text →
      (Json.parse text = none → load path disk = {}) ∧
      ∀ json field value, Json.parse text = some json → Gives json field value → ¬field.kind.Admits value →
        load path disk = {} := by
  refine ⟨fun settings fields members text hText hObject hLists => ?_, fun settings hSaved => ?_,
    fun error hError => ?_, fun text hText => ⟨fun hNone => ?_, fun json field value hJson hGives hUnfit => ?_⟩⟩
  · rw [load_of_text hText, parse_of_lists hObject hLists, Option.getD_some]
  · have hSave : disk.save path (.text settings.render) = (.ok (), (save settings path disk).2) :=
      Prod.ext hSaved rfl
    rw [load_of_text (Disk.readText_of_save hSave), parse_render, Option.getD_some]
  · rw [load, hError]
  · rw [load_of_text hText, parse, hNone]
    rfl
  · rw [load_of_text hText, parse_of_gives hJson hGives hUnfit, Option.getD_none]

/-- Two fields in another order than they are written in, among names that are no fields. -/
def trialText : String :=
  "\x7b\"colour\": null, \"remote_port\": 9000, \"spare\": [-1.5e3], \"remote_ip\": \"10.0.\\u0030.2\"\x7d"

/-- What the trial text is read as: a match says so, as values have no decidable equality. -/
theorem parse_trialText : (match Json.parse trialText with
    | some (.object [(some "colour", .null), (some "remote_port", .number ['9', '0', '0', '0']),
        (some "spare", .array [.number ['-', '1', '.', '5', 'e', '3']]),
        (some "remote_ip", .string (some "10.0.0.2"))]) => true
    | _ => false) = true := by decide +kernel

/-- A port that is out of range, behind a field that is fine. -/
def unfitText : String :=
  "\x7b\"remote_port\": 9000, \"local_port\": 65536\x7d"

/-- A file with two fields, one that was saved with the first of these in it, and one with an unfit field. -/
theorem loaded_as_listed_trial :
    load "n" (FileStore.shelf trialText false) = { remoteIp := "10.0.0.2", remotePort := 9000 } ∧
    load "n" (save { remoteIp := "::1\n\"" } "n" (FileStore.shelf trialText false)).2 = { remoteIp := "::1\n\"" } ∧
    load "n" (FileStore.shelf unfitText false) = {} := by
  refine ⟨?_, ?_, ?_⟩
  · have hLists : Lists { remoteIp := "10.0.0.2", remotePort := 9000 } [.remotePort, .remoteIp]
        [(some "colour", .null), (some "remote_port", .number ['9', '0', '0', '0']),
          (some "spare", .array [.number ['-', '1', '.', '5', 'e', '3']]),
          (some "remote_ip", .string (some "10.0.0.2"))] :=
      .unknown (fun field => by cases field <;> decide) (.field (by decide) (.unknown
        (fun field => by cases field <;> decide) (.field List.not_mem_nil .nil)))
    have hShape := parse_trialText
    split at hShape
    case h_1 hText => exact (loaded_as_listed "n" _).1 _ _ _ _ (FileStore.readText_shelf _ _) hText hLists
    case h_2 => cases hShape
  · have hSaved := congrArg Prod.fst
      (FileStore.save_shelf trialText false (render { remoteIp := "::1\n\"" }))
    exact (loaded_as_listed "n" _).2.1 _ hSaved
  · have hText : Json.parse unfitText = some (.object [(some "remote_port", .number ['9', '0', '0', '0']),
        (some "local_port", .number ['6', '5', '5', '3', '6'])]) := by cbv
    have hUnfit : ¬Field.localPort.kind.Admits (.number ['6', '5', '5', '3', '6']) := by
      intro h
      cases h with
      | word h hBound =>
        rw [← h.value] at hBound
        exact absurd hBound (by decide)
    exact ((loaded_as_listed "n" _).2.2.2 _ (FileStore.readText_shelf _ _)).2 _ _ _ hText
      (.member (List.mem_cons_of_mem _ List.mem_cons_self)) hUnfit

end Telemetry.Settings
