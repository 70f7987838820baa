import ProgramImage.Document.Reader
import ProgramImage.Proofs.Outcome

/-!
# What a record is read from

A reader of records goes through the members of an object in their order, but what it builds is
told by the keys alone: every field takes the one value under its key, or its default when there is
none, and all other members only have to be passed over. `Fields.Builds` says this without going
through the members, one field after the other, and the readers of records agree with it.

## Main definitions

* `Node.valuesAt` are the values under a key, in the order of the text.
* `Fields.Builds` relates the members of an object to the record that its fields make.
* `Fields.leftover` are the members of a tagged record that are left for the fields of its kind.

## Main statements

* `Reader.record_object_eq_ok_iff` and `Reader.tagged_object_eq_ok_iff` say when an object reads as
  a record, and as which.
-/

namespace ProgramImage

/-! ### Values under a key -/

namespace Node

/-- The values under a key, in the order of the text. -/
def valuesAt (key : String) (members : Members) : List Node :=
  members.filterMap fun member => if member.1.toOption = some key then some member.2 else none

@[simp] theorem valuesAt_nil (key : String) : valuesAt key [] = [] := rfl

theorem valuesAt_cons_same (key : String) (value : Node) (members : Members) :
    valuesAt key ((.ok key, value) :: members) = value :: valuesAt key members := by
  simp [valuesAt, Except.toOption]

theorem valuesAt_cons_of_ne {key name : String} (h : name ≠ key) (value : Node)
    (members : Members) : valuesAt key ((.ok name, value) :: members) = valuesAt key members := by
  simp [valuesAt, Except.toOption, h]

theorem valuesAt_cons_error (key : String) (fault : Fault) (value : Node) (members : Members) :
    valuesAt key ((.error fault, value) :: members) = valuesAt key members := by
  simp [valuesAt, Except.toOption]

theorem valuesAt_append (key : String) (members others : Members) :
    valuesAt key (members ++ others) = valuesAt key members ++ valuesAt key others :=
  List.filterMap_append

/-- A member is not among the values under another key. -/
theorem valuesAt_middle {key name : String} (h : name ≠ key) (before behind : Members)
    (value : Node) :
    valuesAt key (before ++ (.ok name, value) :: behind) = valuesAt key (before ++ behind) := by
  rw [valuesAt_append, valuesAt_cons_of_ne h, ← valuesAt_append]

theorem valuesAt_perm {members others : Members} (key : String) (h : members.Perm others) :
    (valuesAt key members).Perm (valuesAt key others) :=
  h.filterMap _

end Node

/-! ### Fields and the values under their keys -/

namespace Field

variable {α : Type} {field : Field α} {origin : Origin}

/-- A field takes the one value under its key, or its default when there is none. -/
def Takes (field : Field α) (origin : Origin) : List Node → α → Prop
  | [], a => field.absent = some a
  | [value], a => field.read origin value = .ok a
  | _, _ => False

/-- What is known of a field after the values under its key are read, where `start` is what was
    known of it before. -/
def Fills (field : Field α) (origin : Origin) (start : Option α) : List Node → Option α → Prop
  | [], slot => slot = start
  | [value], slot => start = none ∧ ∃ a, field.read origin value = .ok a ∧ slot = some a
  | _, _ => False

/-- A value is read into a field of which nothing is known yet. -/
theorem fills_cons_iff {start slot : Option α} {value : Node} {values : List Node} :
    field.Fills origin start (value :: values) slot ↔
      start = none ∧ ∃ a, field.read origin value = .ok a ∧
        field.Fills origin (some a) values slot := by
  match values with
  | [] => simp [Fills]
  | [_] => simp [Fills]
  | _ :: _ :: _ => simp [Fills]

theorem Takes.perm {values values' : List Node} {a : α} (h : field.Takes origin values a)
    (hperm : values.Perm values') : field.Takes origin values' a := by
  match values with
  | [] => rwa [List.nil_perm.mp hperm]
  | [value] => rwa [List.singleton_perm.mp hperm] at h
  | _ :: _ :: _ => exact h.elim

/-- What a field takes is what is known of it at the end, or else its default. -/
theorem takes_iff {values : List Node} {a : α} :
    field.Takes origin values a ↔
      ∃ slot, field.Fills origin none values slot ∧ (slot <|> field.absent) = some a := by
  match values with
  | [] => simp [Takes, Fills]
  | [value] =>
    constructor
    · intro hread
      exact ⟨some a, ⟨rfl, a, hread, rfl⟩, rfl⟩
    · rintro ⟨slot, ⟨-, b, hread, rfl⟩, hslot⟩
      obtain rfl := Option.some.inj hslot
      exact hread
  | _ :: _ :: _ => simp [Takes, Fills]

end Field

namespace Fields

variable {ρ σ : Type} {origin : Origin} {members : Node.Members}

/-- The keys of the fields in the order of their declaration. -/
def keys : {σ : Type} → Fields ρ σ → List String
  | _, done => []
  | _, field first rest => first.key :: rest.keys

theorem knows_iff {fields : Fields ρ σ} {key : String} :
    fields.knows key = true ↔ key ∈ fields.keys := by
  induction fields with
  | done => simp [knows, keys]
  | field first rest ih => simp [knows, keys, ih, eq_comm (a := key)]

/-- The members of an object make a record: each field takes the values under its key. -/
def Builds (origin : Origin) (members : Node.Members) :
    {σ : Type} → Fields ρ σ → σ → ρ → Prop
  | _, done, made, record => made = record
  | _, @field _ α _ first rest, make, record =>
    ∃ a : α, first.Takes origin (Node.valuesAt first.key members) a ∧
      rest.Builds origin members (make a) record

/-- What is known of the fields after the members of an object are read. -/
def Filled (origin : Origin) (members : Node.Members) :
    {σ : Type} → (fields : Fields ρ σ) → fields.Slots → fields.Slots → Prop
  | _, done, _, _ => True
  | _, field first rest, start, slots =>
    first.Fills origin (Prod.fst start) (Node.valuesAt first.key members) (Prod.fst slots) ∧
      rest.Filled origin members (Prod.snd start) (Prod.snd slots)

theorem filled_nil_iff {fields : Fields ρ σ} {start slots : fields.Slots} :
    fields.Filled origin [] start slots ↔ slots = start := by
  induction fields with
  | done => exact iff_of_true trivial rfl
  | field first rest ih =>
    obtain ⟨slot, later⟩ := start
    obtain ⟨slot', later'⟩ := slots
    change slot' = slot ∧ rest.Filled origin [] later later' ↔ _
    rw [ih]
    exact Prod.mk.injEq .. ▸ Iff.rfl

/-- A member whose key names no field changes nothing. -/
theorem filled_cons_of_unknown {fields : Fields ρ σ} {key : String} {value : Node}
    {start slots : fields.Slots} (h : key ∉ fields.keys) :
    fields.Filled origin ((.ok key, value) :: members) start slots ↔
      fields.Filled origin members start slots := by
  induction fields with
  | done => exact Iff.rfl
  | field first rest ih =>
    have hfirst : key ≠ first.key := fun heq => h (heq ▸ List.mem_cons_self)
    have hrest : key ∉ rest.keys := fun hmem => h (List.mem_cons_of_mem _ hmem)
    simp only [Filled]
    rw [ih hrest, Node.valuesAt_cons_of_ne hfirst]

theorem fill_same {α : Type} {first : Field α} {rest : Fields ρ σ} {value : Node}
    {slot : Option α} {later : rest.Slots} :
    (field first rest).fill origin first.key value (slot, later) =
      if slot.isSome then .error (.duplicateField first.key)
      else (first.read origin value).map fun a => (some a, later) :=
  if_pos rfl

theorem fill_other {α : Type} {first : Field α} {rest : Fields ρ σ} {key : String} {value : Node}
    {slot : Option α} {later : rest.Slots} (h : first.key ≠ key) :
    (field first rest).fill origin key value (slot, later) =
      (rest.fill origin key value later).map fun later => (slot, later) :=
  if_neg h

/-- A member whose key names a field is read into this field. -/
theorem filled_cons_of_known {fields : Fields ρ σ} {key : String} {value : Node}
    {start slots : fields.Slots} (hnodup : fields.keys.Nodup) (h : key ∈ fields.keys) :
    fields.Filled origin ((.ok key, value) :: members) start slots ↔
      ∃ mid, fields.fill origin key value start = .ok mid ∧
        fields.Filled origin members mid slots := by
  induction fields with
  | done => cases h
  | field first rest ih =>
    obtain ⟨slot, later⟩ := start
    obtain ⟨hfresh, hrest⟩ := List.nodup_cons.mp hnodup
    by_cases hkey : first.key = key
    · subst hkey
      rw [fill_same]
      simp only [Filled]
      rw [Node.valuesAt_cons_same, filled_cons_of_unknown hfresh, Field.fills_cons_iff]
      constructor
      · rintro ⟨⟨rfl, a, hread, hfills⟩, hlater⟩
        refine ⟨(some a, later), ?_, hfills, hlater⟩
        rw [hread]
        rfl
      · rintro ⟨mid, hmid, hfills, hlater⟩
        cases slot with
        | some a => cases hmid
        | none =>
          obtain ⟨a, hread, rfl⟩ := Except.map_eq_ok.mp hmid
          exact ⟨⟨rfl, a, hread, hfills⟩, hlater⟩
    · have hmem : key ∈ rest.keys := (List.mem_cons.mp h).resolve_left (Ne.symm hkey)
      rw [fill_other hkey]
      simp only [Filled]
      rw [Node.valuesAt_cons_of_ne (Ne.symm hkey), ih hrest hmem]
      constructor
      · rintro ⟨hfills, mid, hmid, hlater⟩
        refine ⟨(slot, mid), ?_, hfills, hlater⟩
        rw [hmid]
        rfl
      · rintro ⟨mid, hmid, hfills, hlater⟩
        obtain ⟨later', hfill, rfl⟩ := Except.map_eq_ok.mp hmid
        exact ⟨hfills, later', hfill, hlater⟩

/-- A record is built from what is known of its fields at the end. -/
theorem builds_iff {fields : Fields ρ σ} {make : σ} {record : ρ} :
    fields.Builds origin members make record ↔
      ∃ slots, fields.Filled origin members fields.vacant slots ∧
        fields.build make slots = .ok record := by
  induction fields with
  | done =>
    constructor
    · rintro rfl
      exact ⟨(), trivial, rfl⟩
    · rintro ⟨_, _, hbuild⟩
      exact Except.ok.inj hbuild
  | field first rest ih =>
    simp only [Builds, ih, Field.takes_iff]
    constructor
    · rintro ⟨a, ⟨slot, hfills, hslot⟩, later, hlater, hbuild⟩
      refine ⟨(slot, later), ⟨hfills, hlater⟩, ?_⟩
      simp only [build, hslot]
      exact hbuild
    · rintro ⟨⟨slot, later⟩, ⟨hfills, hlater⟩, hbuild⟩
      simp only [build] at hbuild
      split at hbuild
      · next a hslot => exact ⟨a, ⟨slot, hfills, hslot⟩, later, hlater, hbuild⟩
      · cases hbuild

/-- Members with the same values under each key make the same record. -/
theorem Builds.perm {fields : Fields ρ σ} {make : σ} {members' : Node.Members} {record : ρ}
    (h : fields.Builds origin members make record)
    (hperm : ∀ key ∈ fields.keys,
      (Node.valuesAt key members).Perm (Node.valuesAt key members')) :
    fields.Builds origin members' make record := by
  induction fields with
  | done => exact h
  | field first rest ih =>
    obtain ⟨a, htakes, hrest⟩ := h
    refine ⟨a, htakes.perm (hperm first.key List.mem_cons_self), ih hrest fun key hkey => ?_⟩
    exact hperm key (List.mem_cons_of_mem _ hkey)

/-! ### The members of an object, one after the other -/

/-- A member is read into a field, or passed over. -/
def Passes (fields : Fields ρ σ) (member : Except Fault String × Node) : Prop :=
  ∃ key, member.1 = .ok key ∧ (key ∉ fields.keys → member.2.skip = .ok ())

theorem wanted_eq_ok_iff {α : Type} {x : Except Fault α} {a : α} :
    wanted x = .ok a ↔ x = .ok a := by
  cases x with
  | error fault => exact ⟨nofun, nofun⟩
  | ok b => rw [wanted, Except.ok.injEq, Except.ok.injEq]

theorem passes_ok_iff {fields : Fields ρ σ} {key : String} {value : Node} :
    fields.Passes (.ok key, value) ↔ (key ∉ fields.keys → value.skip = .ok ()) := by
  constructor
  · rintro ⟨name, hname, hpass⟩
    cases hname
    exact hpass
  · intro hpass
    exact ⟨key, rfl, hpass⟩

theorem fillAll_cons {fields : Fields ρ σ} {key : String} {value : Node} {start : fields.Slots} :
    fields.fillAll origin start ((.ok key, value) :: members) =
      if fields.knows key then
        fields.fill origin key value start >>= fun slots => fields.fillAll origin slots members
      else wanted value.skip >>= fun _ => fields.fillAll origin start members :=
  rfl

/-- The members of an object are read when all of them pass, and then each field has taken the
    values under its key. -/
theorem fillAll_eq_ok_iff {fields : Fields ρ σ} (hnodup : fields.keys.Nodup)
    {start slots : fields.Slots} :
    fields.fillAll origin start members = .ok slots ↔
      (∀ member ∈ members, fields.Passes member) ∧ fields.Filled origin members start slots := by
  induction members generalizing start with
  | nil =>
    rw [filled_nil_iff]
    exact ⟨fun h => ⟨nofun, (Except.ok.inj h).symm⟩, fun h => congrArg _ h.2.symm⟩
  | cons member rest ih =>
    obtain ⟨name, value⟩ := member
    rw [List.forall_mem_cons]
    cases name with
    | error fault =>
      refine iff_of_false nofun ?_
      rintro ⟨⟨⟨key, hkey, -⟩, -⟩, -⟩
      cases hkey
    | ok key =>
      rw [fillAll_cons, passes_ok_iff]
      by_cases hknown : key ∈ fields.keys
      · rw [if_pos (knows_iff.mpr hknown), Except.bind_eq_ok, filled_cons_of_known hnodup hknown]
        simp only [ih]
        constructor
        · rintro ⟨mid, hfill, hrest, hfilled⟩
          exact ⟨⟨fun hunknown => absurd hknown hunknown, hrest⟩, mid, hfill, hfilled⟩
        · rintro ⟨⟨-, hrest⟩, mid, hfill, hfilled⟩
          exact ⟨mid, hfill, hrest, hfilled⟩
      · rw [if_neg (fun h => hknown (knows_iff.mp h)), Except.bind_eq_ok,
          filled_cons_of_unknown hknown, ih]
        constructor
        · rintro ⟨_, hskip, hrest, hfilled⟩
          exact ⟨⟨fun _ => wanted_eq_ok_iff.mp hskip, hrest⟩, hfilled⟩
        · rintro ⟨⟨hskip, hrest⟩, hfilled⟩
          exact ⟨(), wanted_eq_ok_iff.mpr (hskip hknown), hrest, hfilled⟩

/-- A member is read into a field, or kept. -/
def Keeps (fields : Fields ρ σ) (origin : Origin) (member : Except Fault String × Node) : Prop :=
  ∃ key, member.1 = .ok key ∧ (key ∉ fields.keys → ∃ json, member.2.toJson origin = .ok json)

theorem keeps_ok_iff {fields : Fields ρ σ} {key : String} {value : Node} :
    fields.Keeps origin (.ok key, value) ↔
      (key ∉ fields.keys → ∃ json, value.toJson origin = .ok json) := by
  constructor
  · rintro ⟨name, hname, hkeep⟩
    cases hname
    exact hkeep
  · intro hkeep
    exact ⟨key, rfl, hkeep⟩

/-- The members that name no field. -/
def unknown (fields : Fields ρ σ) : Node.Members → List (String × Node)
  | [] => []
  | (.ok key, value) :: rest =>
    if fields.knows key then fields.unknown rest else (key, value) :: fields.unknown rest
  | (.error _, _) :: rest => fields.unknown rest

theorem fillKeeping_cons {fields : Fields ρ σ} {key : String} {value : Node}
    {start : fields.Slots} :
    Reader.fillKeeping fields origin start ((.ok key, value) :: members) =
      if fields.knows key then
        fields.fill origin key value start >>= fun slots =>
          Reader.fillKeeping fields origin slots members
      else value.toJson origin >>= fun _ =>
        Reader.fillKeeping fields origin start members >>= fun read =>
          .ok (read.1, (key, value) :: read.2) :=
  rfl

/-- The members of a tagged record are read when all of them pass, and those that name no field
    are kept. -/
theorem fillKeeping_eq_ok_iff {fields : Fields ρ σ} (hnodup : fields.keys.Nodup)
    {start slots : fields.Slots} {kept : List (String × Node)} :
    Reader.fillKeeping fields origin start members = .ok (slots, kept) ↔
      (∀ member ∈ members, fields.Keeps origin member) ∧
        fields.Filled origin members start slots ∧ kept = fields.unknown members := by
  induction members generalizing start kept with
  | nil =>
    rw [filled_nil_iff]
    constructor
    · intro h
      cases h
      exact ⟨nofun, rfl, rfl⟩
    · rintro ⟨-, rfl, rfl⟩
      rfl
  | cons member rest ih =>
    obtain ⟨name, value⟩ := member
    rw [List.forall_mem_cons]
    cases name with
    | error fault =>
      refine iff_of_false nofun ?_
      rintro ⟨⟨⟨key, hkey, -⟩, -⟩, -⟩
      cases hkey
    | ok key =>
      rw [fillKeeping_cons, keeps_ok_iff, unknown]
      by_cases hknown : key ∈ fields.keys
      · have hknows := knows_iff.mpr hknown
        rw [if_pos hknows, if_pos hknows, Except.bind_eq_ok,
          filled_cons_of_known hnodup hknown]
        simp only [ih]
        constructor
        · rintro ⟨mid, hfill, hrest, hfilled, hkept⟩
          exact ⟨⟨fun hunknown => absurd hknown hunknown, hrest⟩, ⟨mid, hfill, hfilled⟩, hkept⟩
        · rintro ⟨⟨-, hrest⟩, ⟨mid, hfill, hfilled⟩, hkept⟩
          exact ⟨mid, hfill, hrest, hfilled, hkept⟩
      · have hknows : ¬fields.knows key = true := fun h => hknown (knows_iff.mp h)
        rw [if_neg hknows, if_neg hknows, Except.bind_eq_ok, filled_cons_of_unknown hknown]
        constructor
        · rintro ⟨json, hjson, hread⟩
          obtain ⟨⟨slots', kept'⟩, hkeeping, heq⟩ := Except.bind_eq_ok.mp hread
          cases heq
          obtain ⟨hrest, hfilled, rfl⟩ := ih.mp hkeeping
          exact ⟨⟨fun _ => ⟨json, hjson⟩, hrest⟩, hfilled, rfl⟩
        · rintro ⟨⟨hkeep, hrest⟩, hfilled, rfl⟩
          obtain ⟨json, hjson⟩ := hkeep hknown
          refine ⟨json, hjson, ?_⟩
          rw [ih.mpr ⟨hrest, hfilled, rfl⟩]
          rfl

/-- The members that are left for the fields of a kind: those that name neither a common field nor
    the tag. -/
def leftover (fields : Fields ρ σ) (tag : String) (members : Node.Members) : Node.Members :=
  members.filter fun member => match member.1 with
    | .ok key => !fields.knows key && key != tag
    | .error _ => false

theorem leftover_of_known {fields : Fields ρ σ} {tag key : String} (h : key ∈ fields.keys)
    (before behind : Node.Members) (value : Node) :
    fields.leftover tag (before ++ (.ok key, value) :: behind) =
      fields.leftover tag (before ++ behind) := by
  simp [leftover, knows_iff.mpr h]

theorem leftover_of_unknown {fields : Fields ρ σ} {tag key : String} (h : key ∉ fields.keys)
    (hne : key ≠ tag) (before behind : Node.Members) (value : Node) :
    fields.leftover tag (before ++ (.ok key, value) :: behind) =
      fields.leftover tag before ++ (.ok key, value) :: fields.leftover tag behind := by
  have hknows : fields.knows key = false := by
    rw [← Bool.not_eq_true, knows_iff]
    exact h
  simp [leftover, hknows, hne]

theorem leftover_append (fields : Fields ρ σ) (tag : String) (before behind : Node.Members) :
    fields.leftover tag (before ++ behind) =
      fields.leftover tag before ++ fields.leftover tag behind :=
  List.filter_append ..

/-- The tag of a record as a field that is read by what the tag chooses. -/
def tagField {τ : Type} (tag : String) (choose : Node → Except ReadError τ) : Field τ :=
  ⟨tag, fun _ => choose, none⟩

section Tag

variable {τ : Type} {tag : String} {choose : Node → Except ReadError τ}

theorem takeTag_same {chosen : Option τ} {value : Node} {kept : List (String × Node)} :
    Reader.takeTag tag choose chosen ((tag, value) :: kept) =
      if chosen.isSome then .error (.duplicateField tag)
      else choose value >>= fun kind => Reader.takeTag tag choose (some kind) kept :=
  if_pos rfl

theorem takeTag_other {chosen : Option τ} {key : String} {value : Node}
    {kept : List (String × Node)} (h : key ≠ tag) :
    Reader.takeTag tag choose chosen ((key, value) :: kept) =
      Reader.takeTag tag choose chosen kept >>= fun taken =>
        .ok (taken.1, (.ok key, value) :: taken.2) :=
  if_neg h

variable (origin) in
/-- The tag is taken out of the members that were kept like a field, and the others are left. -/
theorem takeTag_eq_ok_iff {fields : Fields ρ σ} {chosen : Option τ} {kind : τ}
    {others : Node.Members} (htag : tag ∉ fields.keys) :
    Reader.takeTag tag choose chosen (fields.unknown members) = .ok (kind, others) ↔
      (tagField tag choose).Fills origin chosen (Node.valuesAt tag members) (some kind) ∧
        others = fields.leftover tag members := by
  induction members generalizing chosen others with
  | nil =>
    cases chosen with
    | none => exact ⟨nofun, fun h => nomatch h.1⟩
    | some found =>
      constructor
      · intro h
        cases h
        exact ⟨rfl, rfl⟩
      · rintro ⟨hfound, rfl⟩
        cases hfound
        rfl
  | cons member rest ih =>
    obtain ⟨name, value⟩ := member
    cases name with
    | error fault =>
      rw [Node.valuesAt_cons_error]
      exact ih
    | ok key =>
      by_cases hknown : fields.knows key = true
      · have hne : key ≠ tag := by
          rintro rfl
          exact htag (knows_iff.mp hknown)
        have hleft : fields.leftover tag ((.ok key, value) :: rest) = fields.leftover tag rest := by
          simp [leftover, hknown]
        rw [unknown, if_pos hknown, Node.valuesAt_cons_of_ne hne, hleft]
        exact ih
      rw [unknown, if_neg hknown]
      by_cases hkey : key = tag
      · subst hkey
        have hleft : fields.leftover key ((.ok key, value) :: rest) = fields.leftover key rest := by
          simp [leftover]
        rw [takeTag_same, Node.valuesAt_cons_same, hleft, Field.fills_cons_iff]
        cases chosen with
        | some found => exact iff_of_false nofun fun h => nomatch h.1.1
        | none =>
          rw [if_neg (by simp), Except.bind_eq_ok]
          simp only [ih, true_and]
          constructor
          · rintro ⟨found, hchoose, hfills, hothers⟩
            exact ⟨⟨found, hchoose, hfills⟩, hothers⟩
          · rintro ⟨⟨found, hchoose, hfills⟩, hothers⟩
            exact ⟨found, hchoose, hfills, hothers⟩
      · have hleft : fields.leftover tag ((.ok key, value) :: rest) =
            (.ok key, value) :: fields.leftover tag rest := by
          simp [leftover, hknown, hkey]
        rw [takeTag_other hkey, Node.valuesAt_cons_of_ne hkey, hleft, Except.bind_eq_ok]
        constructor
        · rintro ⟨⟨found, left⟩, htaken, heq⟩
          cases heq
          obtain ⟨hfills, rfl⟩ := ih.mp htaken
          exact ⟨hfills, rfl⟩
        · rintro ⟨hfills, rfl⟩
          exact ⟨(kind, fields.leftover tag rest), ih.mpr ⟨hfills, rfl⟩, rfl⟩

/-- A tag that chooses something stands in the record once. -/
theorem takes_tag_iff {values : List Node} {kind : τ} :
    (tagField tag choose).Takes origin values kind ↔
      ∃ value, values = [value] ∧ choose value = .ok kind := by
  match values with
  | [] => exact ⟨nofun, fun ⟨_, hvalues, _⟩ => nomatch hvalues⟩
  | [value] =>
    constructor
    · intro hchoose
      exact ⟨value, rfl, hchoose⟩
    · rintro ⟨_, ⟨⟩, hchoose⟩
      exact hchoose
  | _ :: _ :: _ => exact ⟨nofun, fun ⟨_, hvalues, _⟩ => nomatch hvalues⟩

end Tag

end Fields

/-! ### Records -/

namespace Reader

variable {ρ σ τ : Type} {origin : Origin} {members : Node.Members} {record : ρ}

/-- An object reads as a record when its members pass and make the record. -/
theorem record_object_eq_ok_iff {fields : Fields ρ σ} {make : σ} (hnodup : fields.keys.Nodup) :
    Reader.record fields make origin (.object members none) = .ok record ↔
      ∃ inside, origin.enter = .ok inside ∧ (∀ member ∈ members, fields.Passes member) ∧
        fields.Builds inside members make record := by
  have hunfold : Reader.record fields make origin (.object members none) =
      origin.enter >>= fun inside => fields.fillAll inside fields.vacant members >>= fun slots =>
        fields.build make slots := rfl
  simp only [hunfold, Except.bind_eq_ok, Fields.fillAll_eq_ok_iff hnodup, Fields.builds_iff]
  constructor
  · rintro ⟨inside, henter, slots, ⟨hpass, hfilled⟩, hbuild⟩
    exact ⟨inside, henter, hpass, slots, hfilled, hbuild⟩
  · rintro ⟨inside, henter, hpass, slots, hfilled, hbuild⟩
    exact ⟨inside, henter, slots, ⟨hpass, hfilled⟩, hbuild⟩

/-- The members that are kept for a kind read as its record when they pass and make it. -/
theorem ofKept_eq_ok_iff {fields : Fields ρ σ} {make : σ} (hnodup : fields.keys.Nodup) :
    ofKept fields make members = .ok record ↔
      (∀ member ∈ members, fields.Passes member) ∧ fields.Builds .value members make record := by
  have hunfold : ofKept fields make members =
      fields.fillAll .value fields.vacant members >>= fun slots => fields.build make slots := rfl
  simp only [hunfold, Except.bind_eq_ok, Fields.fillAll_eq_ok_iff hnodup, Fields.builds_iff]
  constructor
  · rintro ⟨slots, ⟨hpass, hfilled⟩, hbuild⟩
    exact ⟨hpass, slots, hfilled, hbuild⟩
  · rintro ⟨hpass, slots, hfilled, hbuild⟩
    exact ⟨slots, ⟨hpass, hfilled⟩, hbuild⟩

/-- What a tag chooses from a list of kinds, by its name or by its place. -/
def choose (kinds : List (String × KindReader τ)) : Node → Except ReadError (KindReader τ)
  | .string (.ok name) =>
    match kinds.lookup name with
    | some kind => .ok kind
    | none => .error (.unknownKind name)
  | .number (.ok (.int i)) =>
    if i < 0 then .error .invalidType
    else match kinds[i.toNat]? with
      | some (_, kind) => .ok kind
      | none => .error .invalidValue
  | node => .error node.unexpected

theorem tagged_object {fields : Fields (τ → ρ) σ} {make : σ} {tag : String}
    {kinds : List (String × KindReader τ)} :
    tagged fields make tag kinds origin (.object members none) =
      origin.enter >>= fun inside =>
        fillKeeping fields inside fields.vacant members >>= fun read =>
          fields.build make read.1 >>= fun common =>
            takeTag tag (choose kinds) none read.2 >>= fun taken =>
              (taken.1 taken.2).map common :=
  rfl

/-- An object reads as a tagged record when its members pass, its tag chooses a kind, and the
    members that are left make what the kind adds to the common fields. -/
theorem tagged_object_eq_ok_iff {fields : Fields (τ → ρ) σ} {make : σ} {tag : String}
    {kinds : List (String × KindReader τ)} (hnodup : fields.keys.Nodup)
    (htag : tag ∉ fields.keys) :
    tagged fields make tag kinds origin (.object members none) = .ok record ↔
      ∃ inside, origin.enter = .ok inside ∧
        (∀ member ∈ members, fields.Keeps inside member) ∧
        ∃ common value kind own, fields.Builds inside members make common ∧
          Node.valuesAt tag members = [value] ∧ choose kinds value = .ok kind ∧
          kind (fields.leftover tag members) = .ok own ∧ common own = record := by
  have htake : ∀ (kind : KindReader τ) (others : Node.Members),
      takeTag tag (choose kinds) none (fields.unknown members) = .ok (kind, others) ↔
        (∃ value, Node.valuesAt tag members = [value] ∧ choose kinds value = .ok kind) ∧
          others = fields.leftover tag members := by
    intro kind others
    rw [Fields.takeTag_eq_ok_iff .value htag, ← Fields.takes_tag_iff, Field.takes_iff]
    refine and_congr_left fun _ => ⟨fun hfills => ⟨some kind, hfills, rfl⟩, ?_⟩
    rintro ⟨_ | found, hfills, hfound⟩
    · cases hfound
    · cases hfound
      exact hfills
  simp only [tagged_object, Except.bind_eq_ok, Fields.builds_iff]
  constructor
  · rintro ⟨inside, henter, ⟨slots, kept⟩, hread, common, hbuild, ⟨kind, others⟩, htaken, hown⟩
    obtain ⟨hkeeps, hfilled, rfl⟩ := (Fields.fillKeeping_eq_ok_iff hnodup).mp hread
    obtain ⟨⟨value, hvalue, hchoose⟩, rfl⟩ := (htake kind others).mp htaken
    obtain ⟨own, hown, hrecord⟩ := Except.map_eq_ok.mp hown
    exact ⟨inside, henter, hkeeps, common, value, kind, own, ⟨slots, hfilled, hbuild⟩, hvalue,
      hchoose, hown, hrecord⟩
  · rintro ⟨inside, henter, hkeeps, common, value, kind, own, ⟨slots, hfilled, hbuild⟩, hvalue,
      hchoose, hown, hrecord⟩
    exact ⟨inside, henter, (slots, fields.unknown members),
      (Fields.fillKeeping_eq_ok_iff hnodup).mpr ⟨hkeeps, hfilled, rfl⟩, common, hbuild,
      (kind, fields.leftover tag members), (htake kind _).mpr ⟨⟨value, hvalue, hchoose⟩, rfl⟩,
      Except.map_eq_ok.mpr ⟨own, hown, hrecord⟩⟩

end Reader

end ProgramImage
