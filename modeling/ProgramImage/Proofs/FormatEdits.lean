import Mathlib.Data.List.Forall2
import ProgramImage.Proofs.JsonValues
import ProgramImage.Proofs.RecordFields

/-!
# Edits that a reader does not see

A format says which keys the records of a text know, and where further records stand in them. Some
edits leave all of that as it is: the members of a record are put in another order, or a record gets
a member with a key that it does not know. `Format.Edit` is one such edit, anywhere in a tree, and a
reader that follows a format reads the same before and after it.

## Main definitions

* `Format` says what is known of a value, and `Format.Knows` which keys a record knows.
* `Format.Ignores` says which values may stand under the keys that it does not know.
* `Format.Edit` is one edit of a tree.
* `Reader.Respects` says of a reader that it reads the same after every edit of a format.

## Main statements

* `Reader.list_respects`, `Reader.record_respects` and `Reader.tagged_respects` give what a reader
  respects from what its parts respect.
-/

namespace ProgramImage

/-! ### Formats -/

/-- What a reader knows of a value: nothing that an edit may touch, a list of values of one format,
    or a record with the keys of its fields and the formats of what they hold. A tagged record goes
    on with the fields of one of several kinds, of which the keys are listed under the names that
    the tag may have. -/
inductive Format where
  | value
  | list (item : Format)
  | record (fields : List (String × Format))
  | tagged (tag : String) (fields : List (String × Format)) (kinds : List (String × List String))

namespace Format

/-- The fields that a record has whatever its kind. -/
def fields : Format → List (String × Format)
  | value | list _ => []
  | record fields | tagged _ fields _ => fields

def IsRecord : Format → Prop
  | value | list _ => False
  | record _ | tagged _ _ _ => True

/-- The keys of the kind that a tag chooses, by its name or by its place. -/
def ownKeys? (kinds : List (String × List String)) : Node → Option (List String)
  | .string (.ok name) => kinds.lookup name
  | .number (.ok (.int i)) => if i < 0 then none else (kinds[i.toNat]?).map Prod.snd
  | _ => none

/-- Whether a record with the given members knows a key. The keys of a kind are known to the records
    of this kind only. -/
def Knows (members : Node.Members) (key : String) : Format → Prop
  | value | list _ => False
  | record fields => key ∈ fields.map Prod.fst
  | tagged tag fields kinds => key ∈ fields.map Prod.fst ∨ key = tag ∨
      ∃ value ∈ Node.valuesAt tag members, ∃ own, ownKeys? kinds value = some own ∧ key ∈ own

/-- The values that may stand under a key which a record does not know. A record passes over every
    value. A tagged record keeps the value for its kind, so that it has to be proper and must not
    nest too deep. -/
def Ignores (origin : Origin) (value : Node) : Format → Prop
  | .value | list _ => False
  | record _ => value.IsValue
  | tagged _ _ _ => value.IsProper ∧ origin.Admits value.depth

/-- One edit of a tree of a format. The members of a record are put in another order, or the record
    gets a member with a key that it does not know and with a value that may stand there; or such an
    edit is made further inside, in a field of a record, which may also be given as an array of its
    fields, or in an item of a list. -/
inductive Edit : Origin → Format → Node → Node → Prop
  | reorder {origin : Origin} {format : Format} {members members' : Node.Members}
      (hrecord : format.IsRecord) (hperm : members.Perm members') :
      Edit origin format (.object members none) (.object members' none)
  | add {origin : Origin} {format : Format} {before behind : Node.Members} {key : String}
      {value : Node} (hkey : ¬format.Knows (before ++ behind) key)
      (hvalue : format.Ignores origin.inside value) :
      Edit origin format (.object (before ++ behind) none)
        (.object (before ++ (.ok key, value) :: behind) none)
  | field {origin : Origin} {format inner : Format} {before behind : Node.Members} {key : String}
      {value value' : Node} (hfield : (key, inner) ∈ format.fields)
      (hedit : Edit origin.inside inner value value') :
      Edit origin format (.object (before ++ (.ok key, value) :: behind) none)
        (.object (before ++ (.ok key, value') :: behind) none)
  | place {origin : Origin} {fields : List (String × Format)} {inner : Format}
      {before behind : List Node} {key : String} {value value' : Node}
      (hfield : fields[before.length]? = some (key, inner))
      (hedit : Edit origin.inside inner value value') :
      Edit origin (.record fields) (.array (before ++ value :: behind) none)
        (.array (before ++ value' :: behind) none)
  | item {origin : Origin} {inner : Format} {before behind : List Node} {value value' : Node}
      (hedit : Edit origin.inside inner value value') :
      Edit origin (.list inner) (.array (before ++ value :: behind) none)
        (.array (before ++ value' :: behind) none)

theorem not_edit_value {origin : Origin} {tree tree' : Node} : ¬Edit origin .value tree tree' := by
  intro h
  cases h with
  | reorder hrecord => exact hrecord
  | add _ hvalue => exact hvalue
  | field hfield => cases hfield

end Format

/-! ### Readers -/

/-- A reader that reads the same value before and after every edit of a format. -/
def Reader.Respects {α : Type} (reader : Reader α) (format : Format) : Prop :=
  ∀ ⦃origin tree tree' a⦄, format.Edit origin tree tree' → reader origin tree = .ok a →
    reader origin tree' = .ok a

/-- The fields of a record have the keys of a format, and their readers respect the formats of what
    they hold. -/
inductive Fields.Follow {ρ : Type} :
    {σ : Type} → Fields ρ σ → List (String × Format) → Prop
  | done : Follow .done []
  | field {α σ : Type} {first : Field α} {rest : Fields ρ σ} {inner : Format}
      {formats : List (String × Format)} (hread : first.read.Respects inner)
      (hrest : rest.Follow formats) :
      Follow (.field first rest) ((first.key, inner) :: formats)

/-- A reader of the fields of a kind that reads nothing but the values under some keys. -/
def Reader.KindReader.DependsOn {τ : Type} (kind : Reader.KindReader τ) (keys : List String) :
    Prop :=
  ∀ ⦃members members' : Node.Members⦄ ⦃own : τ⦄,
    (∀ key ∈ keys, (Node.valuesAt key members).Perm (Node.valuesAt key members')) →
    (∀ member ∈ members', ∃ key, member.1 = .ok key ∧ member.2.skip = .ok ()) →
    kind members = .ok own → kind members' = .ok own

namespace Field

variable {α : Type} {field : Field α} {origin : Origin} {a : α}

/-- A field that takes a value has no other one. -/
theorem Takes.eq_of_append {before behind : List Node} {value : Node}
    (h : field.Takes origin (before ++ value :: behind) a) :
    before = [] ∧ behind = [] ∧ field.read origin value = .ok a := by
  match before, behind with
  | [], [] => exact ⟨rfl, rfl, h⟩
  | [], _ :: _ => exact h.elim
  | [_], _ => exact h.elim
  | _ :: _ :: _, _ => exact h.elim

end Field

namespace Fields

variable {ρ σ : Type} {origin : Origin} {record : ρ}
  {formats : List (String × Format)}

theorem Follow.keys_eq {fields : Fields ρ σ} (h : fields.Follow formats) :
    fields.keys = formats.map Prod.fst := by
  induction h with
  | done => rfl
  | field _ _ ih => rw [keys, ih, List.map_cons]

/-- An entry under the first key is the first entry, when no later one has this key. -/
theorem eq_of_mem_cons_of_fresh {β : Type} {key : String} {x y : β} {entries : List (String × β)}
    (hfresh : key ∉ entries.map Prod.fst) (h : (key, x) ∈ (key, y) :: entries) : x = y := by
  rcases List.mem_cons.mp h with heq | hmem
  · exact (Prod.mk.inj heq).2
  · exact absurd (List.mem_map_of_mem (f := Prod.fst) hmem) hfresh

theorem mem_of_mem_cons_of_ne {β : Type} {key name : String} {x y : β}
    {entries : List (String × β)} (hne : key ≠ name) (h : (key, x) ∈ (name, y) :: entries) :
    (key, x) ∈ entries := by
  rcases List.mem_cons.mp h with heq | hmem
  · exact absurd (Prod.mk.inj heq).1 hne
  · exact hmem

/-- An edit in the value of a field leaves the record as it is. -/
theorem Builds.edit {fields : Fields ρ σ} {make : σ} {before behind : Node.Members}
    {key : String} {inner : Format} {value value' : Node} (hfollow : fields.Follow formats)
    (hnodup : (formats.map Prod.fst).Nodup) (hfield : (key, inner) ∈ formats)
    (hedit : inner.Edit origin value value')
    (h : fields.Builds origin (before ++ (.ok key, value) :: behind) make record) :
    fields.Builds origin (before ++ (.ok key, value') :: behind) make record := by
  induction hfollow with
  | done => cases hfield
  | @field α σ first rest format formats hread hrest ih =>
    obtain ⟨hfresh, hnodup⟩ := List.nodup_cons.mp hnodup
    obtain ⟨a, htakes, hbuilds⟩ := h
    by_cases hkey : key = first.key
    · subst hkey
      -- the field is the only one with its key, and its value the only one under the key
      obtain rfl := eq_of_mem_cons_of_fresh hfresh hfield
      rw [Node.valuesAt_append, Node.valuesAt_cons_same] at htakes
      obtain ⟨hbefore, hbehind, hvalue⟩ := htakes.eq_of_append
      refine ⟨a, ?_, hbuilds.perm fun other hother => ?_⟩
      · rw [Node.valuesAt_append, Node.valuesAt_cons_same, hbefore, hbehind]
        exact hread hedit hvalue
      · have hne : first.key ≠ other := by
          rintro rfl
          rw [← hrest.keys_eq] at hfresh
          exact hfresh hother
        rw [Node.valuesAt_middle hne, Node.valuesAt_middle hne]
    · have hmem : (key, inner) ∈ formats := mem_of_mem_cons_of_ne hkey hfield
      refine ⟨a, ?_, ih hnodup hmem hbuilds⟩
      rwa [Node.valuesAt_middle hkey] at htakes ⊢

/-- An edit in a field that is given by its place leaves the record as it is. -/
theorem ofItems_edit {fields : Fields ρ σ} {make : σ} {count : Nat} {before behind rest : List Node}
    {key : String} {inner : Format} {value value' : Node} (hfollow : fields.Follow formats)
    (hfield : formats[before.length]? = some (key, inner))
    (hedit : inner.Edit origin value value')
    (h : fields.ofItems origin none make count (before ++ value :: behind) = .ok (record, rest)) :
    fields.ofItems origin none make count (before ++ value' :: behind) = .ok (record, rest) := by
  induction hfollow generalizing before count with
  | done => cases hfield
  | @field α σ first later format formats hread hlater ih =>
    have hunfold : ∀ (item : Node) (items : List Node),
        (Fields.field first later).ofItems origin none make count (item :: items) =
          first.read origin item >>= fun a =>
            later.ofItems origin none (make a) (count + 1) items := fun _ _ => rfl
    cases before with
    | nil =>
      rw [List.nil_append, hunfold] at h ⊢
      obtain ⟨a, hvalue, hlater⟩ := Except.bind_eq_ok.mp h
      cases hfield
      exact Except.bind_eq_ok.mpr ⟨a, hread hedit hvalue, hlater⟩
    | cons item before =>
      rw [List.cons_append, hunfold] at h ⊢
      obtain ⟨a, hitem, hlater⟩ := Except.bind_eq_ok.mp h
      exact Except.bind_eq_ok.mpr ⟨a, hitem, ih hfield hlater⟩

end Fields

namespace Reader

variable {α ρ σ τ : Type}

theorem respects_value (reader : Reader α) : reader.Respects .value := by
  intro origin tree tree' a hedit
  exact absurd hedit Format.not_edit_value

theorem forall_mem_middle {P : α → Prop} {before behind : List α} {x : α} :
    (∀ y ∈ before ++ x :: behind, P y) ↔ P x ∧ ∀ y ∈ before ++ behind, P y := by
  simp only [List.forall_mem_append, List.forall_mem_cons]
  exact and_left_comm

theorem items_edit {reader : Reader α} {origin : Origin} {before behind : List Node}
    {value value' : Node} {values : List α}
    (hvalue : ∀ a, reader origin value = .ok a → reader origin value' = .ok a)
    (h : items reader origin (before ++ value :: behind) = .ok values) :
    items reader origin (before ++ value' :: behind) = .ok values := by
  have hunfold : ∀ (item : Node) (rest : List Node),
      items reader origin (item :: rest) =
        reader origin item >>= fun first => items reader origin rest >>= fun others =>
          .ok (first :: others) := fun _ _ => rfl
  induction before generalizing values with
  | nil =>
    rw [List.nil_append, hunfold] at h ⊢
    obtain ⟨first, hfirst, hrest⟩ := Except.bind_eq_ok.mp h
    exact Except.bind_eq_ok.mpr ⟨first, hvalue first hfirst, hrest⟩
  | cons item before ih =>
    rw [List.cons_append, hunfold] at h ⊢
    obtain ⟨first, hfirst, hrest⟩ := Except.bind_eq_ok.mp h
    obtain ⟨others, hothers, hvalues⟩ := Except.bind_eq_ok.mp hrest
    refine Except.bind_eq_ok.mpr ⟨first, hfirst, ?_⟩
    exact Except.bind_eq_ok.mpr ⟨others, ih hothers, hvalues⟩

theorem list_respects {reader : Reader α} {inner : Format} (hreader : reader.Respects inner) :
    (list reader).Respects (.list inner) := by
  intro origin tree tree' values hedit hread
  have hunfold : ∀ nodes : List Node, list reader origin (.array nodes none) =
      origin.enter >>= fun inside => items reader inside nodes >>= fun values => .ok values :=
    fun _ => rfl
  cases hedit with
  | reorder hrecord => exact hrecord.elim
  | add _ hvalue => exact hvalue.elim
  | field hfield => cases hfield
  | item hedit =>
    rw [hunfold] at hread ⊢
    obtain ⟨inside, henter, hinside⟩ := Except.bind_eq_ok.mp hread
    obtain rfl := Origin.inside_of_enter henter
    obtain ⟨read, hitems, hvalues⟩ := Except.bind_eq_ok.mp hinside
    refine Except.bind_eq_ok.mpr ⟨_, henter, Except.bind_eq_ok.mpr ⟨read, ?_, hvalues⟩⟩
    exact items_edit (fun _ hvalue => hreader hedit hvalue) hitems

/-- Edits make arrays of arrays and objects of objects, so that nothing becomes null. -/
theorem orDefault_respects {default : α} {reader : Reader α} {format : Format}
    (hreader : reader.Respects format) : (orDefault default reader).Respects format := by
  intro origin tree tree' a hedit hread
  cases hedit with
  | reorder hrecord hperm => exact hreader (.reorder hrecord hperm) hread
  | add hkey hvalue => exact hreader (.add hkey hvalue) hread
  | field hfield hedit => exact hreader (.field hfield hedit) hread
  | place hfield hedit => exact hreader (.place hfield hedit) hread
  | item hedit => exact hreader (.item hedit) hread

theorem record_respects {fields : Fields ρ σ} {make : σ} {formats : List (String × Format)}
    (hfollow : fields.Follow formats) (hnodup : (formats.map Prod.fst).Nodup) :
    (Reader.record fields make).Respects (.record formats) := by
  have hkeys := hfollow.keys_eq
  have hdistinct : fields.keys.Nodup := hkeys ▸ hnodup
  intro origin tree tree' record hedit hread
  cases hedit with
  | reorder hrecord hperm =>
    rw [record_object_eq_ok_iff hdistinct] at hread ⊢
    obtain ⟨inside, henter, hpass, hbuilds⟩ := hread
    refine ⟨inside, henter, fun member hmember => hpass member (hperm.mem_iff.mpr hmember), ?_⟩
    exact hbuilds.perm fun key _ => Node.valuesAt_perm key hperm
  | @add _ _ before behind key value hkey hvalue =>
    rw [record_object_eq_ok_iff hdistinct] at hread ⊢
    obtain ⟨inside, henter, hpass, hbuilds⟩ := hread
    have hunknown : key ∉ fields.keys := hkeys ▸ hkey
    refine ⟨inside, henter, forall_mem_middle.mpr ⟨?_, hpass⟩, hbuilds.perm fun other hother => ?_⟩
    · exact ⟨key, rfl, fun _ => Node.skip_of_isValue hvalue⟩
    · have hne : key ≠ other := by
        rintro rfl
        exact hunknown hother
      rw [Node.valuesAt_middle hne]
  | @field _ _ inner before behind key value value' hfield hedit =>
    rw [record_object_eq_ok_iff hdistinct] at hread ⊢
    obtain ⟨inside, henter, hpass, hbuilds⟩ := hread
    obtain rfl := Origin.inside_of_enter henter
    have hknown : key ∈ fields.keys := hkeys ▸ List.mem_map_of_mem (f := Prod.fst) hfield
    refine ⟨_, henter, forall_mem_middle.mpr ⟨?_, (forall_mem_middle.mp hpass).2⟩,
      hbuilds.edit hfollow hnodup hfield hedit⟩
    exact ⟨key, rfl, fun hunknown => absurd hknown hunknown⟩
  | @place _ _ inner before behind key value value' hfield hedit =>
    have hunfold : ∀ items : List Node, Reader.record fields make origin (.array items none) =
        origin.enter >>= fun inside => fields.ofItems inside none make 0 items >>= fun read =>
          noFurther origin items.length none read.2 >>= fun _ => .ok read.1 := fun _ => rfl
    rw [hunfold] at hread ⊢
    obtain ⟨inside, henter, hinside⟩ := Except.bind_eq_ok.mp hread
    obtain rfl := Origin.inside_of_enter henter
    obtain ⟨⟨read, rest⟩, hitems, hrest⟩ := Except.bind_eq_ok.mp hinside
    refine Except.bind_eq_ok.mpr ⟨_, henter, Except.bind_eq_ok.mpr ⟨(read, rest), ?_, ?_⟩⟩
    · exact Fields.ofItems_edit hfollow hfield hedit hitems
    · rw [List.length_append] at hrest ⊢
      exact hrest

/-! ### Tagged records -/

namespace KindReader

theorem dependsOn_const {own : τ} {keys : List String} :
    KindReader.DependsOn (fun _ => .ok own) keys :=
  fun _ _ _ _ _ h => h

theorem DependsOn.map {kind : KindReader τ} {keys : List String} (h : kind.DependsOn keys)
    (f : τ → ρ) : KindReader.DependsOn (fun members => (kind members).map f) keys := by
  intro members members' own hperm hskip hread
  obtain ⟨made, hmade, rfl⟩ := Except.map_eq_ok.mp hread
  exact Except.map_eq_ok.mpr ⟨made, h hperm hskip hmade, rfl⟩

end KindReader

theorem ofKept_dependsOn {fields : Fields ρ σ} {make : σ} (hnodup : fields.keys.Nodup) :
    (ofKept fields make).DependsOn fields.keys := by
  intro members members' record hperm hskip hread
  obtain ⟨-, hbuilds⟩ := (ofKept_eq_ok_iff hnodup).mp hread
  refine (ofKept_eq_ok_iff hnodup).mpr ⟨fun member hmember => ?_, hbuilds.perm hperm⟩
  obtain ⟨key, hkey, hpass⟩ := hskip member hmember
  exact ⟨key, hkey, fun _ => hpass⟩

/-- The kinds of a tagged record are read by the names and keys of its format. -/
def KindsFollow (kinds : List (String × KindReader τ)) (formats : List (String × List String)) :
    Prop :=
  List.Forall₂ (fun kind format => kind.1 = format.1 ∧ kind.2.DependsOn format.2) kinds formats

theorem lookup_of_kindsFollow {kinds : List (String × KindReader τ)}
    {formats : List (String × List String)} (hfollow : KindsFollow kinds formats) {name : String}
    {kind : KindReader τ} (h : kinds.lookup name = some kind) :
    ∃ own, formats.lookup name = some own ∧ kind.DependsOn own := by
  induction hfollow with
  | nil => cases h
  | @cons first format kinds formats hfirst _ ih =>
    obtain ⟨firstName, reader⟩ := first
    obtain ⟨formatName, own⟩ := format
    obtain ⟨rfl, hreader⟩ := hfirst
    rw [List.lookup_cons] at h ⊢
    split at h
    · next hname =>
      rw [hname]
      exact ⟨own, rfl, Option.some.inj h ▸ hreader⟩
    · next hname =>
      rw [hname]
      exact ih h

theorem getElem?_of_kindsFollow {kinds : List (String × KindReader τ)}
    {formats : List (String × List String)} (hfollow : KindsFollow kinds formats) {i : Nat}
    {name : String} {kind : KindReader τ} (h : kinds[i]? = some (name, kind)) :
    ∃ own, (formats[i]?).map Prod.snd = some own ∧ kind.DependsOn own := by
  induction hfollow generalizing i with
  | nil => cases h
  | @cons first format kinds formats hfirst _ ih =>
    cases i with
    | zero =>
      cases h
      exact ⟨format.2, rfl, hfirst.2⟩
    | succ i => exact ih h

/-- A tag chooses the keys of a kind wherever it chooses its reader. -/
theorem ownKeys?_of_choose {kinds : List (String × KindReader τ)}
    {formats : List (String × List String)} (hfollow : KindsFollow kinds formats) {value : Node}
    {kind : KindReader τ} (h : choose kinds value = .ok kind) :
    ∃ own, Format.ownKeys? formats value = some own ∧ kind.DependsOn own := by
  unfold choose at h
  split at h
  · next name =>
    split at h
    · next found hfound =>
      obtain rfl := Except.ok.inj h
      exact lookup_of_kindsFollow hfollow hfound
    · cases h
  · next i =>
    split at h
    · cases h
    · next hpos =>
      split at h
      · next name found hfound =>
        obtain rfl := Except.ok.inj h
        rw [Format.ownKeys?, if_neg hpos]
        exact getElem?_of_kindsFollow hfollow hfound
      · cases h
  · cases h

theorem skip_of_keeps {fields : Fields ρ σ} {origin : Origin} {members : Node.Members}
    {tag : String} (hkeeps : ∀ member ∈ members, fields.Keeps origin member) :
    ∀ member ∈ fields.leftover tag members,
      ∃ key, member.1 = .ok key ∧ member.2.skip = .ok () := by
  rintro ⟨name, value⟩ hmember
  obtain ⟨hmem, hleft⟩ := List.mem_filter.mp hmember
  obtain ⟨key, rfl, hkeep⟩ := hkeeps _ hmem
  have hunknown : key ∉ fields.keys := by
    intro hknown
    simp [Fields.knows_iff.mpr hknown] at hleft
  obtain ⟨json, hjson⟩ := hkeep hunknown
  exact ⟨key, rfl, Node.skip_of_toJson hjson⟩

theorem tagged_respects {fields : Fields (τ → ρ) σ} {make : σ} {tag : String}
    {kinds : List (String × KindReader τ)} {formats : List (String × Format)}
    {owns : List (String × List String)} (hfollow : fields.Follow formats)
    (hkinds : KindsFollow kinds owns) (hnodup : (formats.map Prod.fst).Nodup)
    (htag : tag ∉ formats.map Prod.fst) :
    (tagged fields make tag kinds).Respects (.tagged tag formats owns) := by
  have hkeys := hfollow.keys_eq
  have hdistinct : fields.keys.Nodup := hkeys ▸ hnodup
  have hfree : tag ∉ fields.keys := hkeys ▸ htag
  intro origin tree tree' record hedit hread
  cases hedit with
  | reorder hrecord hperm =>
    rw [tagged_object_eq_ok_iff hdistinct hfree] at hread ⊢
    obtain ⟨inside, henter, hkeeps, common, value, kind, own, hbuilds, hvalue, hchoose, hkind,
      hrecord⟩ := hread
    obtain ⟨keys, -, hdepends⟩ := ownKeys?_of_choose hkinds hchoose
    have hkeeps' := fun member hmember => hkeeps member (hperm.mem_iff.mpr hmember)
    refine ⟨inside, henter, hkeeps', common, value, kind, own, ?_, ?_, hchoose, ?_, hrecord⟩
    · exact hbuilds.perm fun key _ => Node.valuesAt_perm key hperm
    · have hvalues := Node.valuesAt_perm tag hperm
      rw [hvalue] at hvalues
      exact (List.singleton_perm.mp hvalues).symm
    · refine hdepends (fun key _ => Node.valuesAt_perm key (hperm.filter _)) ?_ hkind
      exact skip_of_keeps hkeeps'
  | @add _ _ before behind key added hkey hadded =>
    rw [tagged_object_eq_ok_iff hdistinct hfree] at hread ⊢
    obtain ⟨inside, henter, hkeeps, common, value, kind, own, hbuilds, hvalue, hchoose, hkind,
      hrecord⟩ := hread
    obtain ⟨hproper, hdepth⟩ := hadded
    obtain rfl := Origin.inside_of_enter henter
    obtain ⟨keys, hkeysOf, hdepends⟩ := ownKeys?_of_choose hkinds hchoose
    -- the new key is unknown to the common fields, to the tag, and to the kind that it chooses
    have hunknown : key ∉ fields.keys := fun hmem => hkey (.inl (hkeys ▸ hmem))
    have hne : key ≠ tag := fun heq => hkey (.inr (.inl heq))
    have hnotOwn : key ∉ keys := by
      intro hmem
      have htagged : value ∈ Node.valuesAt tag (before ++ behind) := hvalue ▸ List.mem_cons_self
      exact hkey (.inr (.inr ⟨value, htagged, keys, hkeysOf, hmem⟩))
    have hkeeps' : ∀ member ∈ before ++ (.ok key, added) :: behind,
        fields.Keeps origin.inside member :=
      forall_mem_middle.mpr ⟨⟨key, rfl, fun _ => Node.toJson_of_isProper hproper hdepth⟩, hkeeps⟩
    refine ⟨_, henter, hkeeps', common, value, kind, own, ?_, ?_, hchoose, ?_, hrecord⟩
    · refine hbuilds.perm fun other hother => ?_
      have hother : key ≠ other := by
        rintro rfl
        exact hunknown hother
      rw [Node.valuesAt_middle hother]
    · rw [Node.valuesAt_middle hne, hvalue]
    · refine hdepends (fun other hother => ?_) (skip_of_keeps hkeeps') hkind
      have hother : key ≠ other := by
        rintro rfl
        exact hnotOwn hother
      rw [Fields.leftover_of_unknown hunknown hne, Node.valuesAt_middle hother,
        Fields.leftover_append]
  | @field _ _ inner before behind key value value' hfield hedit =>
    rw [tagged_object_eq_ok_iff hdistinct hfree] at hread ⊢
    obtain ⟨inside, henter, hkeeps, common, tagValue, kind, own, hbuilds, hvalue, hchoose, hkind,
      hrecord⟩ := hread
    obtain rfl := Origin.inside_of_enter henter
    have hknown : key ∈ fields.keys := hkeys ▸ List.mem_map_of_mem (f := Prod.fst) hfield
    have hne : key ≠ tag := by
      rintro rfl
      exact hfree hknown
    have hkeeps' : ∀ member ∈ before ++ (.ok key, value') :: behind,
        fields.Keeps origin.inside member :=
      forall_mem_middle.mpr ⟨⟨key, rfl, fun hunknown => absurd hknown hunknown⟩,
        (forall_mem_middle.mp hkeeps).2⟩
    rw [Node.valuesAt_middle hne] at hvalue
    rw [Fields.leftover_of_known hknown] at hkind
    refine ⟨_, henter, hkeeps', common, tagValue, kind, own,
      hbuilds.edit hfollow hnodup hfield hedit, ?_, hchoose, ?_, hrecord⟩
    · rw [Node.valuesAt_middle hne, hvalue]
    · rw [Fields.leftover_of_known hknown, hkind]

end Reader

end ProgramImage
