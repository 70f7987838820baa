import Mathlib.Data.List.Induction
import ProgramImage.Proofs.DistinctKeys

/-!
# Adding regular expressions

The entries of a table are found by a text or by a type, and both kinds stand in one list. An entry
is added for the first request with its key that succeeds, with the size of the table as its
number. Requests with this key find the entry from then on, and no request ever changes it, so that
a number that was given out once can be kept for good. All of this holds of any language of
patterns. Numbers have 32 bits; a number leads back to its entry as long as there are no more
entries than numbers.

## Main definitions

* `RegexRequest` is a call that adds an entry, and `RegexKey` what the entry is found by.
* `RegexTable.place?` is where the entry with a key stands.
* `RegexTable.after` is the table after some requests.
* `RegexRequest.IsFirstSuccess` is the first request with a key that succeeds.
* `RegexTable.IsStable` collects what holds of the table after some requests.

## Main statements

* `RegexTable.answer_eq_ok_iff` says what a request does.
* `RegexTable.id?_after_iff` finds the request behind an entry.
* `RegexTable.isStable` holds after any requests.
-/

namespace ProgramImage

/-- What an entry is found by. -/
inductive RegexKey where
  | text (text : String)
  | type (tid : TypeId)
  deriving DecidableEq

/-- A call that adds an entry for literals with a text, or for the values of a type. -/
inductive RegexRequest where
  | insert (text pattern : String)
  | addValidator (tid : TypeId) (text pattern : String)

namespace RegexRequest

def key : RegexRequest → RegexKey
  | insert text _ => .text text
  | addValidator tid _ _ => .type tid

def role : RegexRequest → RegexRole
  | insert .. => .literal
  | addValidator tid _ _ => .validator tid

def text : RegexRequest → String
  | insert text _ | addValidator _ text _ => text

def pattern : RegexRequest → String
  | insert _ pattern | addValidator _ _ pattern => pattern

end RegexRequest

/-- What an entry is found by. -/
def RegexEntry.key (entry : RegexEntry) : RegexKey :=
  match entry.role with
  | .literal => .text entry.regex.text
  | .validator tid => .type tid

namespace RegexTable

/-- The place of the entry with a key. -/
def place? (table : RegexTable) (key : RegexKey) : Option Nat :=
  table.entries.findIdx? fun entry => entry.key == key

/-- The number of the entry with a key. -/
def id? (table : RegexTable) (key : RegexKey) : Option RegexId :=
  (table.place? key).map RegexId.ofPlace

/-- What a table answers to a request. -/
def answer (patterns : PatternLanguage) (table : RegexTable) :
    RegexRequest → Except RegexError (RegexId × RegexTable)
  | .insert text pattern => table.insert patterns text pattern
  | .addValidator tid text pattern => table.addValidator patterns tid text pattern

/-- The table after a request. -/
def apply (patterns : PatternLanguage) (table : RegexTable)
    (request : RegexRequest) : RegexTable :=
  match table.answer patterns request with
  | .ok (_, later) => later
  | .error _ => table

/-- The table after some requests, the first of which finds it empty. -/
def after (patterns : PatternLanguage) (requests : List RegexRequest) :
    RegexTable :=
  requests.foldl (apply patterns) empty

end RegexTable

/-- A request is answered with a number, and those with its key before it all fail. -/
def RegexRequest.IsFirstSuccess (request : RegexRequest)
    (patterns : PatternLanguage) (requests : List RegexRequest)
    (id : RegexId) : Prop :=
  ∃ before rest, requests = before ++ request :: rest ∧
    (∀ earlier other mid, before = earlier ++ other :: mid → other.key = request.key →
      ∃ error, (RegexTable.after patterns earlier).answer patterns other = .error error) ∧
    ∃ later, (RegexTable.after patterns before).answer patterns request = .ok (id, later)

namespace RegexTable

variable {patterns : PatternLanguage} {table later : RegexTable}
  {request : RegexRequest} {requests : List RegexRequest} {key : RegexKey} {id : RegexId}
  {place : Nat}

/-! ### Keys -/

theorem lookup_eq_id? (table : RegexTable) (text : String) :
    table.lookup text = table.id? (.text text) := by
  unfold lookup find? id? place?
  congr
  funext entry
  unfold RegexEntry.hasText RegexEntry.key
  rw [Bool.eq_iff_iff]
  cases entry.role <;> simp

theorem validatorId?_eq_id? (table : RegexTable) (tid : TypeId) :
    table.validatorId? tid = table.id? (.type tid) := by
  unfold validatorId? find? id? place?
  congr
  funext entry
  unfold RegexEntry.validates RegexEntry.key
  rw [Bool.eq_iff_iff]
  cases entry.role <;> simp

/-- The keys of a table, in the order of its entries. -/
def keys (table : RegexTable) : List RegexKey :=
  table.entries.map RegexEntry.key

theorem id?_eq_none_iff : table.id? key = none ↔ key ∉ table.keys := by
  simp [id?, place?, keys, List.findIdx?_eq_none_iff]

/-- When no two entries have one key, the entry with a key is where it is found. -/
theorem place?_eq_some_iff (hnodup : table.keys.Nodup) :
    table.place? key = some place ↔ table.keys[place]? = some key := by
  unfold place?
  rw [List.findIdx?_eq_some_iff_getElem, List.getElem?_eq_some_iff]
  constructor
  · rintro ⟨hlt, hkey, -⟩
    refine ⟨by simpa [keys] using hlt, ?_⟩
    simpa [keys] using hkey
  · rintro ⟨hlt, hkey⟩
    have hplace : place < table.entries.length := by simpa [keys] using hlt
    refine ⟨hplace, by simpa [keys] using hkey, ?_⟩
    intro earlier hearlier hsame
    -- an earlier entry with this key would be a second one
    have hfirst : table.keys[earlier]? = some key := by
      simpa [keys, List.getElem?_eq_getElem (Nat.lt_trans hearlier hplace)] using hsame
    have hsecond : table.keys[place]? = some key := List.getElem?_eq_some_iff.mpr ⟨hlt, hkey⟩
    have heq := (List.getElem?_inj (Nat.lt_trans hearlier hlt) hnodup).mp
      (hfirst.trans hsecond.symm)
    omega

/-- The number of a key is that of the place where the entry with this key stands. -/
theorem id?_eq_some_iff (hnodup : table.keys.Nodup) :
    table.id? key = some id ↔
      ∃ place, table.keys[place]? = some key ∧ RegexId.ofPlace place = id := by
  unfold id?
  simp only [Option.map_eq_some_iff, place?_eq_some_iff hnodup]

/-- Numbers of places tell the entries of a table apart while there are few enough. -/
theorem ofPlace_inj (hsize : table.size ≤ idCount) {other : Nat} (hplace : place < table.size)
    (hother : other < table.size) (h : RegexId.ofPlace place = RegexId.ofPlace other) :
    place = other := by
  have hvalue := congrArg RegexId.value h
  rwa [RegexId.value_ofPlace_of_lt (by omega), RegexId.value_ofPlace_of_lt (by omega)] at hvalue

/-- The number of a place that has one of its own leads back to the entry there. -/
theorem get?_ofPlace (hplace : place < idCount) {entry : RegexEntry}
    (hentry : table.entries[place]? = some entry) :
    table.get? (.ofPlace place) = some entry.regex := by
  rw [get?, RegexId.value_ofPlace_of_lt hplace, hentry, Option.map_some]

theorem lt_size_of_getElem? {entry : RegexEntry} (h : table.entries[place]? = some entry) :
    place < table.size :=
  (List.getElem?_eq_some_iff.mp h).1

/-! ### One request -/

theorem answer_eq (patterns : PatternLanguage) (table : RegexTable)
    (request : RegexRequest) :
    table.answer patterns request =
      match table.id? request.key with
      | some id => .ok (id, table)
      | none => (Regex.compile patterns request.text request.pattern).map
          (table.push request.role) := by
  cases request with
  | insert text pattern =>
    show table.insert patterns text pattern = _
    unfold insert
    rw [lookup_eq_id?]
    rfl
  | addValidator tid text pattern =>
    show table.addValidator patterns tid text pattern = _
    unfold addValidator
    rw [validatorId?_eq_id?]
    rfl

/-- A key that a table has is answered with the number it has, whatever is a pattern or is not. -/
theorem answer_of_id? (patterns : PatternLanguage)
    (h : table.id? request.key = some id) : table.answer patterns request = .ok (id, table) := by
  rw [answer_eq, h]

/-- A request succeeds when there is an entry with its key, or when its pattern compiles, and an
    entry is appended then. -/
theorem answer_eq_ok_iff :
    table.answer patterns request = .ok (id, later) ↔
      (table.id? request.key = some id ∧ later = table) ∨
      (table.id? request.key = none ∧ id = .ofPlace table.size ∧
        ∃ regex, Regex.compile patterns request.text request.pattern = .ok regex ∧
          later = ⟨table.entries ++ [⟨request.role, regex⟩]⟩) := by
  rw [answer_eq]
  cases table.id? request.key with
  | some found => simp [eq_comm]
  | none =>
    dsimp only
    rw [Except.map_eq_ok]
    constructor
    · rintro ⟨regex, hregex, ⟨⟩⟩
      exact .inr ⟨rfl, rfl, regex, hregex, rfl⟩
    · rintro (⟨hfound, -⟩ | ⟨-, rfl, regex, hregex, rfl⟩)
      · cases hfound
      · exact ⟨regex, hregex, rfl⟩

theorem apply_of_ok (h : table.answer patterns request = .ok (id, later)) :
    table.apply patterns request = later := by
  unfold apply
  rw [h]

theorem apply_of_error {error : RegexError} (h : table.answer patterns request = .error error) :
    table.apply patterns request = table := by
  unfold apply
  rw [h]

/-- The entry that is appended for a request has its key. -/
theorem key_of_compile {regex : Regex}
    (h : Regex.compile patterns request.text request.pattern = .ok regex) :
    RegexEntry.key ⟨request.role, regex⟩ = request.key := by
  cases request with
  | insert text pattern =>
    rw [(compile_eq_ok_iff.mp h).2]
    rfl
  | addValidator tid text pattern => rfl

/-- A request changes nothing, or its key is new and an entry with this key is appended. -/
theorem apply_cases (patterns : PatternLanguage) (table : RegexTable)
    (request : RegexRequest) :
    table.apply patterns request = table ∨
      (table.id? request.key = none ∧
        ∃ regex, Regex.compile patterns request.text request.pattern = .ok regex ∧
          table.apply patterns request = ⟨table.entries ++ [⟨request.role, regex⟩]⟩) := by
  cases hanswer : table.answer patterns request with
  | error error => exact .inl (apply_of_error hanswer)
  | ok answered =>
    obtain ⟨id, later⟩ := answered
    rw [apply_of_ok hanswer]
    rcases answer_eq_ok_iff.mp hanswer with ⟨-, hsame⟩ | ⟨hnew, -, hregex⟩
    · exact .inl hsame
    · exact .inr ⟨hnew, hregex⟩

theorem prefix_apply (patterns : PatternLanguage) (table : RegexTable)
    (request : RegexRequest) : table.entries <+: (table.apply patterns request).entries := by
  rcases apply_cases patterns table request with hsame | ⟨-, regex, -, hlater⟩
  · exact hsame.symm ▸ List.prefix_rfl
  · exact hlater.symm ▸ List.prefix_append _ _

/-! ### Any requests -/

theorem after_append (patterns : PatternLanguage)
    (requests more : List RegexRequest) :
    after patterns (requests ++ more) = more.foldl (apply patterns) (after patterns requests) :=
  List.foldl_append

theorem after_concat (patterns : PatternLanguage)
    (requests : List RegexRequest) (request : RegexRequest) :
    after patterns (requests ++ [request]) = (after patterns requests).apply patterns request :=
  after_append patterns requests [request]

/-- Entries are only appended. -/
theorem prefix_after (patterns : PatternLanguage)
    (requests more : List RegexRequest) :
    (after patterns requests).entries <+: (after patterns (requests ++ more)).entries := by
  induction more using List.reverseRecOn with
  | nil => exact (List.append_nil requests).symm ▸ List.prefix_rfl
  | append_singleton more request ih =>
    rw [← List.append_assoc, after_concat]
    exact ih.trans (prefix_apply _ _ _)

/-- There are at most as many entries as requests. -/
theorem size_after_le (patterns : PatternLanguage) (requests : List RegexRequest) :
    (after patterns requests).size ≤ requests.length := by
  induction requests using List.reverseRecOn with
  | nil => exact Nat.le_refl 0
  | append_singleton requests request ih =>
    rw [after_concat, List.length_append, List.length_singleton]
    rcases apply_cases patterns (after patterns requests) request with
      hsame | ⟨-, regex, -, hlater⟩
    · rw [hsame]
      omega
    · rw [hlater, size, List.length_append, List.length_singleton]
      exact Nat.succ_le_succ ih

/-- No two entries have one key. -/
theorem keys_nodup_after (patterns : PatternLanguage)
    (requests : List RegexRequest) : (after patterns requests).keys.Nodup := by
  induction requests using List.reverseRecOn with
  | nil => exact List.nodup_nil
  | append_singleton requests request ih =>
    rw [after_concat]
    rcases apply_cases patterns (after patterns requests) request with
      hsame | ⟨hnew, regex, hregex, hlater⟩
    · rwa [hsame]
    · have hkeys : ((after patterns requests).apply patterns request).keys =
          (after patterns requests).keys ++ [request.key] := by
        rw [hlater, keys, List.map_append, ← key_of_compile hregex]
        rfl
      rw [hkeys, List.nodup_append]
      refine ⟨ih, List.nodup_singleton _, ?_⟩
      intro key hkey other hother hsame
      rw [List.mem_singleton.mp hother] at hsame
      exact id?_eq_none_iff.mp hnew (hsame ▸ hkey)

/-- Behind every entry there is a request that appended it. -/
theorem origin {place : Nat} {entry : RegexEntry}
    (h : (after patterns requests).entries[place]? = some entry) :
    ∃ before request rest regex, requests = before ++ request :: rest ∧
      (after patterns before).id? request.key = none ∧ place = (after patterns before).size ∧
      Regex.compile patterns request.text request.pattern = .ok regex ∧
      entry = ⟨request.role, regex⟩ := by
  induction requests using List.reverseRecOn with
  | nil => cases h
  | append_singleton requests request ih =>
    have hearlier : (after patterns requests).entries[place]? = some entry →
        ∃ before other rest regex, requests ++ [request] = before ++ other :: rest ∧
          (after patterns before).id? other.key = none ∧ place = (after patterns before).size ∧
          Regex.compile patterns other.text other.pattern = .ok regex ∧
          entry = ⟨other.role, regex⟩ := by
      intro hold
      obtain ⟨before, other, rest, regex, hsplit, hrest⟩ := ih hold
      refine ⟨before, other, rest ++ [request], regex, ?_, hrest⟩
      rw [hsplit, List.append_assoc]
      rfl
    rw [after_concat] at h
    rcases apply_cases patterns (after patterns requests) request with
      hsame | ⟨hnew, regex, hregex, hlater⟩
    · rw [hsame] at h
      exact hearlier h
    · rw [hlater, List.getElem?_append] at h
      split at h
      · exact hearlier h
      · next hplace =>
        obtain ⟨hend, hentry⟩ := List.getElem?_eq_some_iff.mp h
        rw [List.length_singleton] at hend
        have hsize : (after patterns requests).size = (after patterns requests).entries.length :=
          rfl
        refine ⟨requests, request, [], regex, rfl, hnew, by omega, hregex, ?_⟩
        rw [← hentry]
        simp

/-- A key that is found in a table is found under the same number when the table has grown. -/
theorem id?_of_prefix (hgrown : table.entries <+: later.entries) (htable : table.keys.Nodup)
    (hlater : later.keys.Nodup) (h : table.id? key = some id) : later.id? key = some id := by
  obtain ⟨place, hplace, hid⟩ := (id?_eq_some_iff htable).mp h
  refine (id?_eq_some_iff hlater).mpr ⟨place, ?_, hid⟩
  obtain ⟨hlt, hkey⟩ := List.getElem?_eq_some_iff.mp hplace
  have hkeys : table.keys <+: later.keys := hgrown.map RegexEntry.key
  rw [List.prefix_iff_getElem?.mp hkeys place hlt, hkey]

/-- Once a request has succeeded, its key is found under the number that was given out. -/
theorem id?_after_of_ok {before : List RegexRequest}
    (h : (after patterns before).answer patterns request = .ok (id, later))
    (rest : List RegexRequest) :
    (after patterns (before ++ request :: rest)).id? request.key = some id := by
  have hlater : after patterns (before ++ [request]) = later := by
    rw [after_concat, apply_of_ok h]
  have hfound : (after patterns (before ++ [request])).id? request.key = some id := by
    rcases answer_eq_ok_iff.mp h with ⟨hold, rfl⟩ | ⟨-, rfl, regex, hregex, rfl⟩
    · rwa [hlater]
    · refine (id?_eq_some_iff (keys_nodup_after _ _)).mpr ⟨(after patterns before).size, ?_, rfl⟩
      rw [hlater, ← key_of_compile hregex]
      simp [keys, size]
  rw [List.append_cons]
  exact id?_of_prefix (prefix_after _ _ _) (keys_nodup_after _ _) (keys_nodup_after _ _) hfound

/-- A key is found under the number that the first request with it that succeeded was answered
    with. -/
theorem id?_after_iff :
    (after patterns requests).id? key = some id ↔
      ∃ request : RegexRequest, request.key = key ∧
        request.IsFirstSuccess patterns requests id := by
  constructor
  · intro h
    obtain ⟨place, hplace, rfl⟩ := (id?_eq_some_iff (keys_nodup_after _ _)).mp h
    rw [keys, List.getElem?_map] at hplace
    obtain ⟨entry, hentry, hkey⟩ := Option.map_eq_some_iff.mp hplace
    obtain ⟨before, request, rest, regex, hsplit, hnew, rfl, hregex, rfl⟩ := origin hentry
    refine ⟨request, (key_of_compile hregex).symm.trans hkey, before, rest, hsplit, ?_, ?_⟩
    · intro earlier other mid hbefore hsame
      cases hanswer : (after patterns earlier).answer patterns other with
      | error error => exact ⟨error, rfl⟩
      | ok answered =>
        -- its key would have been found
        have hfound := id?_after_of_ok hanswer mid
        rw [← hbefore, hsame, hnew] at hfound
        cases hfound
    · exact ⟨_, answer_eq_ok_iff.mpr (.inr ⟨hnew, rfl, regex, hregex, rfl⟩)⟩
  · rintro ⟨request, rfl, before, rest, rfl, -, later, hanswer⟩
    exact id?_after_of_ok hanswer rest

/-- The entry for the first request with a key that succeeded is what its pattern was compiled to,
    and the number that was given out is that of its place. -/
theorem entry_of_isFirstSuccess (h : request.IsFirstSuccess patterns requests id) :
    ∃ regex place, Regex.compile patterns request.text request.pattern = .ok regex ∧
      (after patterns requests).entries[place]? = some ⟨request.role, regex⟩ ∧
      id = .ofPlace place := by
  obtain ⟨before, rest, rfl, hfails, later, hanswer⟩ := h
  rcases answer_eq_ok_iff.mp hanswer with ⟨hold, -⟩ | ⟨-, rfl, regex, hregex, rfl⟩
  · -- an earlier request would have succeeded
    obtain ⟨other, hsame, earlier, mid, hsplit, -, _, hok⟩ := id?_after_iff.mp hold
    obtain ⟨error, herror⟩ := hfails earlier other mid hsplit hsame
    rw [herror] at hok
    cases hok
  · refine ⟨regex, (after patterns before).size, hregex, ?_, rfl⟩
    have hgrown := prefix_after patterns (before ++ [request]) rest
    rw [after_concat, apply_of_ok hanswer, List.append_assoc, List.singleton_append] at hgrown
    have hentry := List.prefix_iff_getElem?.mp hgrown (after patterns before).entries.length
      (by rw [List.length_append]; exact Nat.lt_succ_self _)
    rwa [List.getElem_concat_length rfl] at hentry

/-! ### Stable numbers -/

/-- What holds of the table after some requests, whatever the language. -/
structure IsStable (patterns : PatternLanguage) (requests : List RegexRequest) : Prop where
  /-- Entries are appended, and never change. -/
  grows : ∀ more,
    (after patterns requests).entries <+: (after patterns (requests ++ more)).entries
  /-- The numbers that were given out are those of the places of entries. -/
  numbered : ∀ id : RegexId,
    (∃ before request rest later, requests = before ++ request :: rest ∧
      (after patterns before).answer patterns request = .ok (id, later)) ↔
    ∃ place < (after patterns requests).size, id = .ofPlace place
  /-- Up to 2^32 entries are numbered without a gap. -/
  dense : (after patterns requests).size ≤ idCount → ∀ id : RegexId,
    id.value < (after patterns requests).size ↔
      ∃ before request rest later, requests = before ++ request :: rest ∧
        (after patterns before).answer patterns request = .ok (id, later)
  /-- A further entry stands behind the others, and has the number of its place. -/
  added : ∀ request id later, (after patterns requests).answer patterns request = .ok (id, later) →
    later ≠ after patterns requests → id = .ofPlace (after patterns requests).size ∧
      ∃ regex, Regex.compile patterns request.text request.pattern = .ok regex ∧
        later.entries = (after patterns requests).entries ++ [⟨request.role, regex⟩]
  /-- A text or a type that has an entry is answered with its number, whatever language is at
      hand, and the table stays as it is. -/
  repeated : ∀ (request : RegexRequest) id other,
    (after patterns requests).id? request.key = some id →
      (after patterns requests).answer other request = .ok (id, after patterns requests)
  /-- A request that fails changes nothing. -/
  failed : ∀ request error, (after patterns requests).answer patterns request = .error error →
    after patterns (requests ++ [request]) = after patterns requests
  lookup_iff : ∀ text id, (after patterns requests).lookup text = some id ↔
    ∃ pattern, (RegexRequest.insert text pattern).IsFirstSuccess patterns requests id
  /-- The entry of a text is the pattern that was given for it first. Its number leads to it while
      there are at most 2^32 entries. -/
  lookup_entry : ∀ text pattern id,
    (RegexRequest.insert text pattern).IsFirstSuccess patterns requests id →
      ∃ regex place, Regex.compile patterns text pattern = .ok regex ∧
        regex = ⟨text, Regex.anchored pattern⟩ ∧
        (after patterns requests).entries[place]? = some ⟨.literal, regex⟩ ∧
        id = .ofPlace place ∧
        ((after patterns requests).size ≤ idCount →
          (after patterns requests).get? id = some regex)
  validator_iff : ∀ tid id, (after patterns requests).validatorId? tid = some id ↔
    ∃ text pattern,
      (RegexRequest.addValidator tid text pattern).IsFirstSuccess patterns requests id
  /-- The same for the entry of a type. -/
  validator_entry : ∀ tid text pattern id,
    (RegexRequest.addValidator tid text pattern).IsFirstSuccess patterns requests id →
      ∃ regex place, Regex.compile patterns text pattern = .ok regex ∧
        regex = ⟨text, Regex.anchored pattern⟩ ∧
        (after patterns requests).entries[place]? = some ⟨.validator tid, regex⟩ ∧
        id = .ofPlace place ∧
        ((after patterns requests).size ≤ idCount →
          (after patterns requests).validator? tid = some regex)
  /-- No entry is found both by a text and by a type. -/
  apart : (after patterns requests).size ≤ idCount → ∀ text tid id,
    (after patterns requests).lookup text = some id →
      (after patterns requests).validatorId? tid ≠ some id
  /-- There are as many entries as texts and types by which they are found. -/
  size_eq : (after patterns requests).size =
    (after patterns requests).texts.length + (after patterns requests).validatorCount
  texts : (after patterns requests).texts.Nodup ∧
    ∀ text, text ∈ (after patterns requests).texts ↔
      ((after patterns requests).lookup text).isSome
  validated : (after patterns requests).validated.Nodup ∧
    (after patterns requests).validatorCount = (after patterns requests).validated.length ∧
    ∀ tid, tid ∈ (after patterns requests).validated ↔
      ((after patterns requests).validatorId? tid).isSome

theorem texts_eq_keys (table : RegexTable) :
    table.texts = table.keys.filterMap fun key =>
      match key with
      | .text text => some text
      | .type _ => none := by
  unfold texts keys
  rw [List.filterMap_map]
  congr
  funext entry
  unfold RegexEntry.key
  cases hrole : entry.role <;> simp [hrole]

theorem validated_eq_keys (table : RegexTable) :
    table.validated = table.keys.filterMap fun key =>
      match key with
      | .text _ => none
      | .type tid => some tid := by
  unfold validated keys
  rw [List.filterMap_map]
  congr
  funext entry
  unfold RegexEntry.key
  cases hrole : entry.role <;> simp [hrole]

/-- The numbers that were given out are those of the places of entries. -/
theorem answered_iff :
    (∃ before request rest later, requests = before ++ request :: rest ∧
      (after patterns before).answer patterns request = .ok (id, later)) ↔
    ∃ place < (after patterns requests).size, id = .ofPlace place := by
  constructor
  · rintro ⟨before, request, rest, later, rfl, hanswer⟩
    have hfound := id?_after_of_ok hanswer rest
    obtain ⟨place, hkey, rfl⟩ := (id?_eq_some_iff (keys_nodup_after _ _)).mp hfound
    have hlt := (List.getElem?_eq_some_iff.mp hkey).1
    rw [keys, List.length_map] at hlt
    exact ⟨place, hlt, rfl⟩
  · rintro ⟨place, hplace, rfl⟩
    obtain ⟨before, request, rest, regex, hsplit, hnew, rfl, hregex, -⟩ :=
      origin (List.getElem?_eq_getElem hplace)
    exact ⟨before, request, rest, _, hsplit,
      answer_eq_ok_iff.mpr (.inr ⟨hnew, rfl, regex, hregex, rfl⟩)⟩

/-- While there are few enough entries, the numbers of their places are the numbers below the
    size. -/
theorem lt_size_iff (hsize : table.size ≤ idCount) :
    id.value < table.size ↔ ∃ place < table.size, id = .ofPlace place := by
  constructor
  · intro h
    refine ⟨id.value, h, ?_⟩
    rw [RegexId.ofPlace, Nat.mod_eq_of_lt (by omega)]
  · rintro ⟨place, hplace, rfl⟩
    rwa [RegexId.value_ofPlace_of_lt (by omega)]

theorem isStable (patterns : PatternLanguage) (requests : List RegexRequest) :
    IsStable patterns requests where
  grows := prefix_after patterns requests
  numbered id := answered_iff
  dense hsize id := (lt_size_iff hsize).trans answered_iff.symm
  added request id later hanswer hchanged := by
    rcases answer_eq_ok_iff.mp hanswer with ⟨-, hsame⟩ | ⟨-, rfl, regex, hregex, rfl⟩
    · exact absurd hsame hchanged
    · exact ⟨rfl, regex, hregex, rfl⟩
  repeated request id other h := answer_of_id? other h
  failed request error h := by
    rw [after_concat, apply_of_error h]
  lookup_iff text id := by
    rw [lookup_eq_id?, id?_after_iff]
    constructor
    · rintro ⟨request, hkey, hfirst⟩
      cases request with
      | insert other pattern =>
        cases hkey
        exact ⟨pattern, hfirst⟩
      | addValidator tid other pattern => cases hkey
    · rintro ⟨pattern, hfirst⟩
      exact ⟨_, rfl, hfirst⟩
  lookup_entry text pattern id h := by
    obtain ⟨regex, place, hregex, hentry, rfl⟩ := entry_of_isFirstSuccess h
    exact ⟨regex, place, hregex, (compile_eq_ok_iff.mp hregex).2, hentry, rfl,
      fun hsize => get?_ofPlace (Nat.lt_of_lt_of_le (lt_size_of_getElem? hentry) hsize) hentry⟩
  validator_iff tid id := by
    rw [validatorId?_eq_id?, id?_after_iff]
    constructor
    · rintro ⟨request, hkey, hfirst⟩
      cases request with
      | insert other pattern => cases hkey
      | addValidator other text pattern =>
        cases hkey
        exact ⟨text, pattern, hfirst⟩
    · rintro ⟨text, pattern, hfirst⟩
      exact ⟨_, rfl, hfirst⟩
  validator_entry tid text pattern id h := by
    have hfound := id?_after_iff.mpr ⟨_, rfl, h⟩
    obtain ⟨regex, place, hregex, hentry, rfl⟩ := entry_of_isFirstSuccess h
    refine ⟨regex, place, hregex, (compile_eq_ok_iff.mp hregex).2, hentry, rfl, fun hsize => ?_⟩
    unfold validator?
    rw [validatorId?_eq_id?]
    have hplace := Nat.lt_of_lt_of_le (lt_size_of_getElem? hentry) hsize
    exact Option.bind_eq_some_iff.mpr ⟨_, hfound, get?_ofPlace hplace hentry⟩
  apart hsize text tid id htext htype := by
    rw [lookup_eq_id?, id?_eq_some_iff (keys_nodup_after _ _)] at htext
    rw [validatorId?_eq_id?, id?_eq_some_iff (keys_nodup_after _ _)] at htype
    obtain ⟨place, hplace, rfl⟩ := htext
    obtain ⟨other, hother, hsame⟩ := htype
    have hlt {p : Nat} {key : RegexKey} (h : (after patterns requests).keys[p]? = some key) :
        p < (after patterns requests).size := by
      have := (List.getElem?_eq_some_iff.mp h).1
      rwa [keys, List.length_map] at this
    obtain rfl := ofPlace_inj hsize (hlt hother) (hlt hplace) hsame
    rw [hplace] at hother
    cases hother
  size_eq := by
    rw [RegexTable.size_eq, validatorCount_eq]
  texts := by
    constructor
    · rw [texts_eq_keys]
      refine (keys_nodup_after patterns requests).filterMap ?_
      intro first second text hfirst hsecond
      cases first <;> cases second <;> simp_all
    · intro text
      rw [Option.isSome_iff_ne_none, Ne, lookup_eq_none_iff, not_not]
  validated := by
    refine ⟨?_, validatorCount_eq _, ?_⟩
    · rw [validated_eq_keys]
      refine (keys_nodup_after patterns requests).filterMap ?_
      intro first second tid hfirst hsecond
      cases first <;> cases second <;> simp_all
    · intro tid
      rw [Option.isSome_iff_ne_none, Ne, validatorId?_eq_none_iff, not_not]

end RegexTable

end ProgramImage
