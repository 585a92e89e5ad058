import Mathlib.Data.List.Induction
import Telemetry.CommandLine.Options

/-! The grammar of the command line: which words fall into groups, what a group asks for, and what the groups
amount to. Words are read exactly by it. -/
namespace Telemetry.CommandLine
open Text (Numeral boundedNat?_eq_some_iff)

/-- How each word may be written. -/
def Word.spellings : Word → List String
  | version => ["--version", "-v"]
  | help => ["--help", "-h"]
  | single .raw => ["--raw"]
  | single .saveSettings => ["--save-settings"]
  | single _ => []
  | valued .settings => ["--settings", "-s"]
  | valued .nodeId => ["--node-id", "-n"]
  | valued .rate => ["--rate", "-r"]
  | valued .remote => ["--remote"]
  | valued .calibrate => ["--calibrate", "-c"]
  | valued .threshold => ["--threshold", "-t"]

/-- The values that an option takes, and what it asks for with each. -/
inductive ValuedOption.Takes : ValuedOption → String → Request → Prop
  | settings (path : String) : Takes settings path (.settings path)
  | remote (address : String) : Takes remote address (.remote address)
  | nodeId {value : String} {id : UInt8} (h : Numeral value.toList id.toNat) : Takes nodeId value (.nodeId id)
  | rate {value : String} {hertz : UInt32} (h : Numeral value.toList hertz.toNat) : Takes rate value (.rate hertz)
  | calibrate {value : String} {seconds : UInt64} (h : Numeral value.toList seconds.toNat) :
    Takes calibrate value (.calibrate seconds)
  | threshold {value : String} {percent : UInt8} (h : Numeral value.toList percent.toNat) (hPercent : percent ≤ 100) :
    Takes threshold value (.threshold percent)

/-- A group of words: an option that stands alone, or one with its value. -/
inductive Group : List String → Request → Prop
  | single {word : String} {request : Request} (h : word ∈ (Word.single request).spellings) : Group [word] request
  | valued {option : ValuedOption} {word value : String} {request : Request}
    (h : word ∈ (Word.valued option).spellings) (hValue : option.Takes value request) : Group [word, value] request

/-- Words that are groups from left to right. -/
inductive Line : List String → List Request → Prop
  | nil : Line [] []
  | cons {group rest : List String} {request : Request} {requests : List Request} (h : Group group request)
    (hRest : Line rest requests) : Line (group ++ rest) (request :: requests)

/-- Words that are groups up to a place where none begins, and why it does not. -/
inductive Broken : List String → Halt → Prop
  | version {word : String} {rest : List String} (h : word ∈ Word.version.spellings) : Broken (word :: rest) .version
  | help {word : String} {rest : List String} (h : word ∈ Word.help.spellings) : Broken (word :: rest) .help
  | valueNeeded {option : ValuedOption} {word : String} {rest : List String}
    (h : word ∈ (Word.valued option).spellings)
    (hValue : ∀ value ∈ rest.head?, ∀ request, ¬option.Takes value request) :
    Broken (word :: rest) (.valueNeeded option)
  | unknownWord {word : String} {rest : List String} (h : ∀ known : Word, word ∉ known.spellings) :
    Broken (word :: rest) (.unknownWord word)
  | later {group rest : List String} {request : Request} {halt : Halt} (h : Group group request)
    (hRest : Broken rest halt) : Broken (group ++ rest) halt

/-! Single words and values. -/

theorem map_boundedNat?_eq_some_iff {bound : Nat} {text : List Char} {ask : Nat → Request} {request : Request} :
    (Text.boundedNat? bound text).map ask = some request ↔
      ∃ number < bound, Numeral text number ∧ ask number = request := by
  simp only [Option.map_eq_some_iff, boundedNat?_eq_some_iff, and_assoc, and_left_comm]

theorem read_eq_some_iff {option : ValuedOption} {value : String} {request : Request} :
    option.read value = some request ↔ option.Takes value request := by
  constructor
  · intro h
    cases option with
    | settings =>
      cases h
      exact .settings value
    | remote =>
      cases h
      exact .remote value
    | nodeId =>
      obtain ⟨number, hBound, hNumeral, rfl⟩ := map_boundedNat?_eq_some_iff.mp h
      exact .nodeId (by rwa [UInt8.toNat_ofNat_of_lt' hBound])
    | rate =>
      obtain ⟨number, hBound, hNumeral, rfl⟩ := map_boundedNat?_eq_some_iff.mp h
      exact .rate (by rwa [UInt32.toNat_ofNat_of_lt' hBound])
    | calibrate =>
      obtain ⟨number, hBound, hNumeral, rfl⟩ := map_boundedNat?_eq_some_iff.mp h
      exact .calibrate (by rwa [UInt64.toNat_ofNat_of_lt' hBound])
    | threshold =>
      obtain ⟨number, hBound, hNumeral, rfl⟩ := map_boundedNat?_eq_some_iff.mp h
      have hByte : (UInt8.ofNat number).toNat = number :=
        UInt8.toNat_ofNat_of_lt' (Nat.lt_trans hBound (by decide))
      refine .threshold (by rwa [hByte]) ?_
      rw [UInt8.le_iff_toNat_le, hByte]
      exact Nat.le_of_lt_succ hBound
  · intro h
    cases h with
    | settings | remote => rfl
    | @nodeId _ id h => exact map_boundedNat?_eq_some_iff.mpr ⟨_, id.toNat_lt, h, by rw [UInt8.ofNat_toNat]⟩
    | @rate _ hertz h => exact map_boundedNat?_eq_some_iff.mpr ⟨_, hertz.toNat_lt, h, by rw [UInt32.ofNat_toNat]⟩
    | @calibrate _ seconds h =>
      exact map_boundedNat?_eq_some_iff.mpr ⟨_, seconds.toNat_lt, h, by rw [UInt64.ofNat_toNat]⟩
    | @threshold _ percent h hPercent =>
      have hBound : percent.toNat < 101 := Nat.lt_succ_of_le (UInt8.le_iff_toNat_le.mp hPercent)
      exact map_boundedNat?_eq_some_iff.mpr ⟨_, hBound, h, by rw [UInt8.ofNat_toNat]⟩

theorem ofText?_eq_some_iff {text : String} {word : Word} : Word.ofText? text = some word ↔ text ∈ word.spellings := by
  constructor
  · intro h
    unfold Word.ofText? at h
    split at h <;> cases h <;> simp [Word.spellings]
  · intro h
    unfold Word.spellings at h
    split at h <;> simp only [List.mem_cons, List.not_mem_nil, or_false] at h <;> rcases h with rfl | rfl <;> rfl

theorem ofText?_eq_none_iff {text : String} : Word.ofText? text = none ↔ ∀ word : Word, text ∉ word.spellings := by
  simp only [Option.eq_none_iff_forall_ne_some, ne_eq, ofText?_eq_some_iff]

/-! Groups, one after the other. -/

theorem requests_group {group : List String} {request : Request} (h : Group group request) (rest : List String) :
    requests (group ++ rest) = (requests rest).map (request :: ·) := by
  cases h with
  | single h =>
    rw [List.cons_append, List.nil_append, requests, ofText?_eq_some_iff.mpr h]
  | valued h hValue =>
    rw [List.cons_append, List.cons_append, List.nil_append, requests, ofText?_eq_some_iff.mpr h]
    simp only [read_eq_some_iff.mpr hValue]

theorem requests_of_line {words : List String} {found : List Request} (h : Line words found) :
    requests words = .ok found := by
  induction h with
  | nil => rfl
  | cons h hRest ih =>
    rw [requests_group h, ih]
    rfl

theorem requests_of_broken {words : List String} {halt : Halt} (h : Broken words halt) :
    requests words = .error halt := by
  induction h with
  | version h | help h => rw [requests, ofText?_eq_some_iff.mpr h]
  | unknownWord h => rw [requests, ofText?_eq_none_iff.mpr h]
  | @valueNeeded option word rest h hValue =>
    rw [requests, ofText?_eq_some_iff.mpr h]
    cases rest with
    | nil => rfl
    | cons value more =>
      have hRead : option.read value = none :=
        Option.eq_none_iff_forall_ne_some.mpr fun request hRequest =>
          hValue value rfl request (read_eq_some_iff.mp hRequest)
      simp only [hRead]
  | later h hRest ih =>
    rw [requests_group h, ih]
    rfl

theorem line_or_broken (words : List String) : (∃ found, Line words found) ∨ ∃ halt, Broken words halt := by
  have hLater {group rest : List String} {request : Request} (h : Group group request)
      (ih : (∃ found, Line rest found) ∨ ∃ halt, Broken rest halt) :
      (∃ found, Line (group ++ rest) found) ∨ ∃ halt, Broken (group ++ rest) halt := by
    obtain ⟨found, hLine⟩ | ⟨halt, hBroken⟩ := ih
    · exact .inl ⟨_, .cons h hLine⟩
    · exact .inr ⟨_, .later h hBroken⟩
  fun_induction requests words with
  | case1 => exact .inl ⟨[], .nil⟩
  | case2 word rest hWord => exact .inr ⟨_, .unknownWord (ofText?_eq_none_iff.mp hWord)⟩
  | case3 word rest hWord => exact .inr ⟨_, .version (ofText?_eq_some_iff.mp hWord)⟩
  | case4 word rest hWord => exact .inr ⟨_, .help (ofText?_eq_some_iff.mp hWord)⟩
  | case5 word rest request hWord ih => exact hLater (.single (ofText?_eq_some_iff.mp hWord)) ih
  | case6 word option hWord => exact .inr ⟨_, .valueNeeded (ofText?_eq_some_iff.mp hWord) nofun⟩
  | case7 word option hWord value more hRead =>
    refine .inr ⟨_, .valueNeeded (ofText?_eq_some_iff.mp hWord) ?_⟩
    intro given hGiven request hTakes
    obtain rfl := Option.some.inj hGiven
    rw [read_eq_some_iff.mpr hTakes] at hRead
    cases hRead
  | case8 word option hWord value more request hRead ih =>
    exact hLater (.valued (ofText?_eq_some_iff.mp hWord) (read_eq_some_iff.mp hRead)) ih

/-- The words are split as the grammar has it, which splits them in one way at most. -/
theorem requests_eq_ok_iff {words : List String} {found : List Request} :
    requests words = .ok found ↔ Line words found := by
  refine ⟨fun h => ?_, requests_of_line⟩
  obtain ⟨line, hLine⟩ | ⟨halt, hBroken⟩ := line_or_broken words
  · rw [requests_of_line hLine] at h
    cases h
    exact hLine
  · rw [requests_of_broken hBroken] at h
    cases h

theorem requests_eq_error_iff {words : List String} {halt : Halt} :
    requests words = .error halt ↔ Broken words halt := by
  refine ⟨fun h => ?_, requests_of_broken⟩
  obtain ⟨line, hLine⟩ | ⟨other, hBroken⟩ := line_or_broken words
  · rw [requests_of_line hLine] at h
    cases h
  · rw [requests_of_broken hBroken] at h
    cases h
    exact hBroken

/-! What the groups amount to. -/

/-- The option that is asked for something. -/
def Request.word : Request → Word
  | settings _ => .valued .settings
  | nodeId _ => .valued .nodeId
  | rate _ => .valued .rate
  | remote _ => .valued .remote
  | calibrate _ => .valued .calibrate
  | raw => .single .raw
  | threshold _ => .valued .threshold
  | saveSettings => .single .saveSettings

/-- The requests of each option are the same, in the same order. -/
def SameByOption (earlier later : List Request) : Prop :=
  ∀ word, later.filter (·.word = word) = earlier.filter (·.word = word)

namespace Options

/-- What is selected in the last request that has it. -/
def last? {α : Type} (select : Request → Option α) (requests : List Request) : Option α :=
  (requests.filterMap select).getLast?

/-- The options that requests amount to: those of each kind give way to the last one. -/
def ofRequests (requests : List Request) : Options where
  settingsPath := last? (fun | .settings path => some path | _ => none) requests
  nodeId := last? (fun | .nodeId id => some id | _ => none) requests
  sampleRateHz := last? (fun | .rate hertz => some hertz | _ => none) requests
  remote := last? (fun | .remote address => some address | _ => none) requests
  calibrateSeconds := last? (fun | .calibrate seconds => some seconds | _ => none) requests
  raw := .raw ∈ requests
  threshold := last? (fun | .threshold percent => some percent | _ => none) requests
  saveSettings := .saveSettings ∈ requests

theorem last?_concat {α : Type} (select : Request → Option α) (requests : List Request) (request : Request) :
    last? select (requests ++ [request]) = (select request).or (last? select requests) := by
  unfold last?
  cases h : select request <;> simp [h]

theorem ofRequests_concat (requests : List Request) (request : Request) :
    ofRequests (requests ++ [request]) = (ofRequests requests).apply request := by
  cases request <;> simp [ofRequests, apply, last?_concat]

theorem foldl_apply (requests : List Request) : requests.foldl apply {} = ofRequests requests := by
  induction requests using List.reverseRecOn with
  | nil => rfl
  | append_singleton requests request ih =>
    rw [List.foldl_append, ih, ofRequests_concat]
    rfl

theorem last?_filter {α : Type} {select : Request → Option α} {word : Word}
    (h : ∀ request : Request, request.word ≠ word → select request = none) (requests : List Request) :
    last? select (requests.filter (·.word = word)) = last? select requests := by
  unfold last?
  rw [List.filterMap_filter]
  congr 2
  funext request
  by_cases hWord : request.word = word
  · simp [hWord]
  · simp [hWord, h request hWord]

/-- Groups of different options may change places. -/
theorem ofRequests_eq {earlier later : List Request} (h : SameByOption earlier later) :
    ofRequests later = ofRequests earlier := by
  have hLast {α : Type} {select : Request → Option α} (word : Word)
      (hSelect : ∀ request : Request, request.word ≠ word → select request = none) :
      last? select later = last? select earlier := by
    rw [← last?_filter hSelect, h word, last?_filter hSelect]
  have hMem (request : Request) : request ∈ later ↔ request ∈ earlier := by
    have hFilter := congrArg (request ∈ ·) (h request.word)
    simpa using hFilter
  unfold ofRequests
  congr 1
  · exact hLast (.valued .settings) fun request => by cases request <;> simp [Request.word]
  · exact hLast (.valued .nodeId) fun request => by cases request <;> simp [Request.word]
  · exact hLast (.valued .rate) fun request => by cases request <;> simp [Request.word]
  · exact hLast (.valued .remote) fun request => by cases request <;> simp [Request.word]
  · exact hLast (.valued .calibrate) fun request => by cases request <;> simp [Request.word]
  · exact decide_eq_decide.mpr (hMem _)
  · exact hLast (.valued .threshold) fun request => by cases request <;> simp [Request.word]
  · exact decide_eq_decide.mpr (hMem _)

/-- Goes through the words by position: from a group on to the next one, one place further or two. -/
def scan (words : List String) (position : Nat) (options : Options) : Except Halt Options :=
  if h : position < words.length then
    match Word.ofText? words[position] with
    | none => .error (.unknownWord words[position])
    | some .version => .error .version
    | some .help => .error .help
    | some (.single request) => scan words (position + 1) (options.apply request)
    | some (.valued option) =>
      match words[position + 1]?.bind option.read with
      | none => .error (.valueNeeded option)
      | some request => scan words (position + 2) (options.apply request)
  else .ok options
termination_by words.length - position

theorem scan_eq (words : List String) (position : Nat) (options : Options) :
    scan words position options = (requests (words.drop position)).map (·.foldl apply options) := by
  have hMap (options : Options) (request : Request) (found : Except Halt (List Request)) :
      found.map (·.foldl apply (options.apply request)) = (found.map (request :: ·)).map (·.foldl apply options) := by
    cases found <;> rfl
  fun_induction scan words position options with
  | case1 position options h hWord | case2 position options h hWord | case3 position options h hWord =>
    rw [List.drop_eq_getElem_cons h, requests, hWord]
    rfl
  | case4 position options h request hWord ih =>
    rw [List.drop_eq_getElem_cons h, requests, hWord, ih, hMap]
  | case5 position options h option hWord hValue =>
    rw [List.drop_eq_getElem_cons h, requests, hWord]
    dsimp only
    split
    · rfl
    · rename_i value more hRest
      have hNext : words[position + 1]? = some value := by
        rw [← List.head?_drop, hRest, List.head?_cons]
      rw [hNext, Option.bind_some] at hValue
      rw [hValue]
      rfl
  | case6 position options h option hWord request hValue ih =>
    obtain ⟨value, hNext, hRead⟩ := Option.bind_eq_some_iff.mp hValue
    have hRest : words.drop (position + 1) = value :: words.drop (position + 2) :=
      List.drop_eq_getElem?_toList_append.trans (by rw [hNext]; rfl)
    rw [List.drop_eq_getElem_cons h, requests, hWord, hRest]
    simp only [hRead]
    rw [ih, hMap]
  | case7 position options h =>
    rw [List.drop_eq_nil_of_le (Nat.not_lt.mp h)]
    rfl

theorem parse_eq (words : List String) : parse words = (requests words).map ofRequests := by
  rw [parse]
  congr 1
  funext found
  exact foldl_apply found

theorem parse_eq_ok_iff {words : List String} {options : Options} :
    parse words = .ok options ↔ ∃ found, Line words found ∧ options = ofRequests found := by
  simp only [parse_eq, ← requests_eq_ok_iff]
  cases requests words <;> simp [Except.map, eq_comm]

theorem parse_eq_error_iff {words : List String} {halt : Halt} : parse words = .error halt ↔ Broken words halt := by
  rw [parse_eq, ← requests_eq_error_iff]
  cases requests words <;> simp [Except.map]

/-- The words behind the program's name are read exactly when they are groups from the first to the last, and by what
the last group of each option says. They are groups in one way at most. Groups of different options may change places.
All other words are refused, each for its own reason. -/
theorem parsed_by_grammar (args : List String) :
    scan args 1 {} = parse args.tail ∧
    (∀ options, parse args.tail = .ok options ↔ ∃ found, Line args.tail found ∧ options = ofRequests found) ∧
    (∀ halt, parse args.tail = .error halt ↔ Broken args.tail halt) ∧
    ∀ found, Line args.tail found → (∀ other, Line args.tail other → other = found) ∧
      ∀ words later, Line words later → SameByOption found later → parse words = parse args.tail := by
  refine ⟨?_, fun options => parse_eq_ok_iff, fun halt => parse_eq_error_iff, fun found hFound => ⟨?_, ?_⟩⟩
  · rw [scan_eq, List.drop_one]
    rfl
  · intro other hOther
    have hSame := (requests_of_line hOther).symm.trans (requests_of_line hFound)
    exact Except.ok.inj hSame
  · intro words later hLater hSame
    rw [parse_eq, parse_eq, requests_of_line hLater, requests_of_line hFound]
    exact congrArg Except.ok (ofRequests_eq hSame)

/-- An option is given twice, a value looks like an option, and a number has a plus sign. -/
theorem parsed_by_grammar_trial :
    let words := ["-r", "60", "--remote", "--raw", "--rate", "+0120"]
    let found : List Request := [.rate 60, .remote "--raw", .rate 120]
    let moved := ["--rate", "60", "-r", "+0120", "--remote", "--raw"]
    let later : List Request := [.rate 60, .rate 120, .remote "--raw"]
    Line words found ∧ Line moved later ∧ SameByOption found later ∧ parse moved = parse words ∧
      parse words = .ok { sampleRateHz := some 120, remote := some "--raw" } := by
  intro words found moved later
  have hFound : Line words found := requests_eq_ok_iff.mp rfl
  have hLater : Line moved later := requests_eq_ok_iff.mp rfl
  have hSame : SameByOption found later := by
    intro word
    by_cases hRate : Word.valued .rate = word
    · subst hRate
      rfl
    · simp [found, later, List.filter_cons, Request.word, hRate]
  obtain ⟨-, hOk, -, hOnly⟩ := parsed_by_grammar ("sensornode" :: words)
  exact ⟨hFound, hLater, hSame, (hOnly found hFound).2 moved later hLater hSame, (hOk _).mpr ⟨found, hFound, rfl⟩⟩

end Options

end Telemetry.CommandLine
