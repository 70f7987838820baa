import ProgramImage.Document.Writer
import ProgramImage.Proofs.JsonValues
import ProgramImage.Proofs.KeyedOrder
import ProgramImage.Proofs.RecordFields

/-!
# Values that are read back

What a document holds is written as a value, and read back from it. A record is written with all of
its fields under their keys; the members of an object are put in the order of their keys, which does
not matter to the readers of records. What is written of each field has to be read back as the
field, and then the record is.

## Main definitions

* `Json.IsCanonical` says that all objects in a value have their members in order.
* `Reader.Reads` says that a reader takes a value to what was written.
* `Fields.Reads` says the same of the fields of a record, one after the other.

## Main statements

* `Reader.json_reads_iff` says which values that nothing looks into are read back.
* `Reader.list_reads` and `Reader.mapping_reads` read back lists and mappings.
* `Reader.record_reads` and `Reader.tagged_reads` read back records.
-/

namespace ProgramImage

/-! ### Values in their order -/

/-- The objects in a value have their members in the order of the keys, each key once. -/
inductive Json.IsCanonical : Json → Prop
  | null : IsCanonical .null
  | bool (b : Bool) : IsCanonical (.bool b)
  | number (n : Number) : IsCanonical (.number n)
  | string (s : String) : IsCanonical (.string s)
  | array {items : List Json} (hitems : ∀ item ∈ items, IsCanonical item) :
      IsCanonical (.array items)
  | object {members : List (String × Json)} (hsorted : Keyed.IsSorted members)
      (hmembers : ∀ member ∈ members, IsCanonical member.2) : IsCanonical (.object members)

namespace Node

theorem toJsonItems_ofItems_self {origin : Origin} {items : List Json}
    (h : ∀ item ∈ items, (ofJson item).toJson origin = .ok item) :
    toJsonItems origin (ofItems items) = .ok items := by
  induction items with
  | nil => rfl
  | cons item rest ih =>
    obtain ⟨hitem, hrest⟩ := List.forall_mem_cons.mp h
    rw [ofItems, toJsonItems, hitem, Except.ok_bind, ih hrest]
    rfl

theorem toJsonMembers_ofMembers_self {origin : Origin} {members : List (String × Json)}
    (h : ∀ member ∈ members, (ofJson member.2).toJson origin = .ok member.2) :
    toJsonMembers origin (ofMembers members) = .ok members := by
  induction members with
  | nil => rfl
  | cons member rest ih =>
    obtain ⟨hmember, hrest⟩ := List.forall_mem_cons.mp h
    rw [ofMembers, toJsonMembers, wanted, Except.ok_bind, hmember, Except.ok_bind, ih hrest]
    rfl

mutual

/-- What is read of a text or a value has the members of its objects in order. -/
theorem isCanonical_of_toJson {origin : Origin} : ∀ {node : Node} {json : Json},
    node.toJson origin = .ok json → json.IsCanonical
  | .null, _, h => by
    cases h
    exact .null
  | .bool b, _, h => by
    cases h
    exact .bool b
  | .number _, _, h => by
    obtain ⟨n, -, rfl⟩ := Except.map_eq_ok.mp h
    exact .number n
  | .string _, _, h => by
    obtain ⟨s, -, rfl⟩ := Except.map_eq_ok.mp h
    exact .string s
  | .array items stop, _, h => by
    rw [toJson] at h
    obtain ⟨inside, -, h⟩ := Except.bind_eq_ok.mp h
    obtain ⟨values, hvalues, h⟩ := Except.bind_eq_ok.mp h
    obtain ⟨_, -, h⟩ := Except.bind_eq_ok.mp h
    cases h
    exact .array (forall_isCanonical_of_toJsonItems hvalues)
  | .object members stop, _, h => by
    rw [toJson] at h
    obtain ⟨inside, -, h⟩ := Except.bind_eq_ok.mp h
    obtain ⟨values, hvalues, h⟩ := Except.bind_eq_ok.mp h
    obtain ⟨_, -, h⟩ := Except.bind_eq_ok.mp h
    cases h
    refine .object (Keyed.isSorted_ofList values) fun member hmember => ?_
    exact forall_isCanonical_of_toJsonMembers hvalues member (Keyed.mem_of_mem_ofList hmember)
  | .broken _, _, h => nomatch h

theorem forall_isCanonical_of_toJsonItems {origin : Origin} : ∀ {items : List Node}
    {values : List Json}, toJsonItems origin items = .ok values →
    ∀ value ∈ values, value.IsCanonical
  | [], _, h => by
    cases h
    nofun
  | item :: rest, _, h => by
    rw [toJsonItems] at h
    obtain ⟨first, hfirst, h⟩ := Except.bind_eq_ok.mp h
    obtain ⟨others, hothers, h⟩ := Except.bind_eq_ok.mp h
    cases h
    exact List.forall_mem_cons.mpr
      ⟨isCanonical_of_toJson hfirst, forall_isCanonical_of_toJsonItems hothers⟩

theorem forall_isCanonical_of_toJsonMembers {origin : Origin} : ∀ {members : Members}
    {values : List (String × Json)}, toJsonMembers origin members = .ok values →
    ∀ value ∈ values, value.2.IsCanonical
  | [], _, h => by
    cases h
    nofun
  | (name, value) :: rest, _, h => by
    rw [toJsonMembers] at h
    obtain ⟨key, -, h⟩ := Except.bind_eq_ok.mp h
    obtain ⟨first, hfirst, h⟩ := Except.bind_eq_ok.mp h
    obtain ⟨others, hothers, h⟩ := Except.bind_eq_ok.mp h
    cases h
    exact List.forall_mem_cons.mpr
      ⟨isCanonical_of_toJson hfirst, forall_isCanonical_of_toJsonMembers hothers⟩

end

/-- A value is read back as itself when its objects have their members in order, and only then. -/
theorem toJson_ofJson_self_iff {json : Json} :
    (ofJson json).toJson .value = .ok json ↔ json.IsCanonical := by
  refine ⟨isCanonical_of_toJson, fun h => ?_⟩
  induction h with
  | null | bool | number | string => rfl
  | array _ ih =>
    rw [ofJson, toJson, Origin.enter, Except.ok_bind, toJsonItems_ofItems_self ih]
    rfl
  | @object members hsorted _ ih =>
    have hread : (ofJson (.object members)).toJson .value = .ok (.ofMembers members) := by
      rw [ofJson, toJson, Origin.enter, Except.ok_bind, toJsonMembers_ofMembers_self ih]
      rfl
    rw [hread, Json.ofMembers, Keyed.ofList_of_isSorted hsorted]

end Node

/-! ### Single values, lists and mappings -/

namespace Reader

variable {α : Type}

/-- A reader takes a value to what was written. -/
def Reads (reader : Reader α) (json : Json) (a : α) : Prop :=
  reader .value (.ofJson json) = .ok a

theorem string_reads (s : String) : string.Reads (.string s) s :=
  rfl

theorem bool_reads (b : Bool) : bool.Reads (.bool b) b :=
  rfl

theorem upTo_reads {max n : Nat} (h : n ≤ max) : (upTo max).Reads (.ofNat n) n := by
  have hrange : (decide (0 ≤ (n : Int)) && decide ((n : Int) ≤ max)) = true := by
    simp only [Bool.and_eq_true, decide_eq_true_eq]
    omega
  exact if_pos hrange

theorem word_reads (n : UInt64) : word.Reads (.ofWord n) n := by
  have hmax : n.toNat ≤ max64 := Nat.le_pred_of_lt n.toNat_lt
  have hread : upTo max64 .value (.ofJson (.ofWord n)) = .ok n.toNat := upTo_reads hmax
  rw [Reads, word, hread]
  exact congrArg _ UInt64.ofNat_toNat

theorem halfWord_reads (n : UInt32) : halfWord.Reads (.ofHalfWord n) n := by
  have hmax : n.toNat ≤ max32 := Nat.le_pred_of_lt n.toNat_lt
  have hread : upTo max32 .value (.ofJson (.ofHalfWord n)) = .ok n.toNat := upTo_reads hmax
  rw [Reads, halfWord, hread]
  exact congrArg _ UInt32.ofNat_toNat

theorem text?_reads : ∀ text? : Option String, (optional string).Reads (.ofText? text?) text?
  | none => rfl
  | some _ => rfl

/-- A value that nothing looks into is read back when its objects have their members in order, and
    only then. -/
theorem json_reads_iff {json : Json} : Reader.json.Reads json json ↔ json.IsCanonical :=
  Node.toJson_ofJson_self_iff

theorem list_reads {reader : Reader α} {f : α → Json} {items : List α}
    (h : ∀ item ∈ items, reader.Reads (f item) item) :
    (list reader).Reads (.array (items.map f)) items := by
  have hitems : Reader.items reader .value (Node.ofItems (items.map f)) = .ok items := by
    induction items with
    | nil => rfl
    | cons item rest ih =>
      obtain ⟨hitem, hrest⟩ := List.forall_mem_cons.mp h
      have hfirst : reader .value (.ofJson (f item)) = .ok item := hitem
      rw [List.map_cons, Node.ofItems, Reader.items, hfirst, Except.ok_bind, ih hrest]
      rfl
  rw [Reads, Node.ofJson, list, Origin.enter, Except.ok_bind, hitems]
  rfl

theorem mapping_reads {reader : Reader α} {f : α → Json} {entries : List (String × α)}
    (hsorted : Keyed.IsSorted entries) (h : ∀ entry ∈ entries, reader.Reads (f entry.2) entry.2) :
    (mapping reader).Reads (.ofMembers (entries.map fun entry => (entry.1, f entry.2)))
      entries := by
  have hwritten : Keyed.IsSorted (entries.map fun entry => (entry.1, f entry.2)) :=
    List.pairwise_map.mpr hsorted
  have hmembers : members reader .value
      (Node.ofMembers (entries.map fun entry => (entry.1, f entry.2))) = .ok entries := by
    clear hsorted hwritten
    induction entries with
    | nil => rfl
    | cons entry rest ih =>
      obtain ⟨hentry, hrest⟩ := List.forall_mem_cons.mp h
      have hfirst : reader .value (.ofJson (f entry.2)) = .ok entry.2 := hentry
      rw [List.map_cons, Node.ofMembers, members, wanted, Except.ok_bind, hfirst, Except.ok_bind,
        ih hrest]
      rfl
  have hread : mapping reader .value
      (.object (Node.ofMembers (entries.map fun entry => (entry.1, f entry.2))) none) =
        .ok (Keyed.ofList entries) := by
    rw [mapping, Origin.enter, Except.ok_bind, hmembers]
    rfl
  rw [Reads, Json.ofMembers, Keyed.ofList_of_isSorted hwritten, Node.ofJson, hread,
    Keyed.ofList_of_isSorted hsorted]

end Reader

/-! ### Records -/

namespace Node

/-- The members of an object are put in the order of their keys, and none is lost. -/
theorem ofMembers_ofList_perm {members : List (String × Json)}
    (hnodup : (members.map Prod.fst).Nodup) :
    (ofMembers members).Perm (ofMembers (Keyed.ofList members)) := by
  rw [ofMembers_eq_map, ofMembers_eq_map]
  exact (Keyed.ofList_perm hnodup).symm.map _

theorem valuesAt_ofMembers_of_not_mem {key : String} {members : List (String × Json)}
    (h : key ∉ members.map Prod.fst) : valuesAt key (ofMembers members) = [] := by
  induction members with
  | nil => rfl
  | cons member rest ih =>
    obtain ⟨hne, hrest⟩ := List.ne_and_not_mem_of_not_mem_cons h
    rw [ofMembers, valuesAt_cons_of_ne (Ne.symm hne), ih hrest]

theorem ofMembers_append (members others : List (String × Json)) :
    ofMembers (members ++ others) = ofMembers members ++ ofMembers others := by
  rw [ofMembers_eq_map, ofMembers_eq_map, ofMembers_eq_map, List.map_append]

theorem valuesAt_ofMembers_middle {key : String} {before behind : List (String × Json)}
    (hbefore : key ∉ before.map Prod.fst) (hbehind : key ∉ behind.map Prod.fst) (value : Json) :
    valuesAt key (ofMembers (before ++ (key, value) :: behind)) = [ofJson value] := by
  rw [ofMembers_append, valuesAt_append, valuesAt_ofMembers_of_not_mem hbefore, List.nil_append,
    ofMembers, valuesAt_cons_same, valuesAt_ofMembers_of_not_mem hbehind]

end Node

variable {ρ σ τ : Type}

/-- The fields of a record are written under their keys in the order of their declaration, and each
    is read back. -/
inductive Fields.Reads : {σ : Type} → Fields ρ σ → List (String × Json) → σ → ρ → Prop
  | done {record : ρ} : Reads .done [] record record
  | field {α σ : Type} {first : Field α} {rest : Fields ρ σ} {json : Json}
      {members : List (String × Json)} {make : α → σ} {a : α} {record : ρ}
      (hfirst : first.read.Reads json a) (hrest : rest.Reads members (make a) record) :
      Reads (.field first rest) ((first.key, json) :: members) make record

namespace Fields.Reads

variable {fields : Fields ρ σ} {members : List (String × Json)} {make : σ} {record : ρ}

theorem keys_eq (h : fields.Reads members make record) : members.map Prod.fst = fields.keys := by
  induction h with
  | done => rfl
  | field _ _ ih => rw [List.map_cons, ih, keys]

theorem builds (h : fields.Reads members make record) (hnodup : fields.keys.Nodup) :
    fields.Builds .value (Node.ofMembers members) make record := by
  induction h with
  | done => rfl
  | @field α σ first rest json members make a record hfirst hrest ih =>
    obtain ⟨hfresh, hnodup⟩ := List.nodup_cons.mp hnodup
    rw [← hrest.keys_eq] at hfresh
    refine ⟨a, ?_, (ih hnodup).perm fun key hkey => ?_⟩
    · rw [Node.ofMembers, Node.valuesAt_cons_same, Node.valuesAt_ofMembers_of_not_mem hfresh]
      exact hfirst
    · have hne : first.key ≠ key := by
        rintro rfl
        exact hfresh (hrest.keys_eq ▸ hkey)
      rw [Node.ofMembers, Node.valuesAt_cons_of_ne hne]

/-- Members with other keys behind the fields do not matter. -/
theorem builds_append {others : List (String × Json)} (h : fields.Reads members make record)
    (hnodup : fields.keys.Nodup) (hothers : ∀ key ∈ fields.keys, key ∉ others.map Prod.fst) :
    fields.Builds .value (Node.ofMembers (members ++ others)) make record := by
  refine (h.builds hnodup).perm fun key hkey => ?_
  rw [Node.ofMembers_append, Node.valuesAt_append,
    Node.valuesAt_ofMembers_of_not_mem (hothers key hkey), List.append_nil]

end Fields.Reads

namespace Reader

theorem record_reads {fields : Fields ρ σ} {make : σ} {members : List (String × Json)} {record : ρ}
    (h : fields.Reads members make record) (hnodup : fields.keys.Nodup) :
    (Reader.record fields make).Reads (.ofMembers members) record := by
  have hperm := Node.ofMembers_ofList_perm (h.keys_eq ▸ hnodup)
  have hread : Reader.record fields make .value
      (.object (Node.ofMembers (Keyed.ofList members)) none) = .ok record := by
    rw [record_object_eq_ok_iff hnodup]
    refine ⟨.value, rfl, fun member hmember => ?_,
      (h.builds hnodup).perm fun key _ => Node.valuesAt_perm key hperm⟩
    obtain ⟨entry, -, rfl⟩ := Node.eq_of_mem_ofMembers hmember
    exact ⟨entry.1, rfl, fun _ => Node.skip_of_isValue (Node.isProper_ofJson entry.2).isValue⟩
  rw [Reads, Json.ofMembers, Node.ofJson, hread]

/-- The fields of a kind are written under the given keys, and read back in any order. -/
structure KindReader.Reads (kind : KindReader τ) (keys : List String)
    (members : List (String × Json)) (own : τ) : Prop where
  keys_eq : members.map Prod.fst = keys
  read : ∀ ⦃nodes : Node.Members⦄, (Node.ofMembers members).Perm nodes → kind nodes = .ok own

namespace KindReader

theorem const_reads {own : τ} : KindReader.Reads (fun _ => .ok own) [] [] own :=
  ⟨rfl, fun _ _ => rfl⟩

theorem Reads.map {kind : KindReader τ} {keys : List String} {members : List (String × Json)}
    {own : τ} (h : kind.Reads keys members own) (f : τ → ρ) :
    KindReader.Reads (fun nodes => (kind nodes).map f) keys members (f own) :=
  ⟨h.keys_eq, fun _ hperm => Except.map_eq_ok.mpr ⟨own, h.read hperm, rfl⟩⟩

theorem ofKept_reads {fields : Fields ρ σ} {make : σ} {members : List (String × Json)} {record : ρ}
    (h : fields.Reads members make record) (hnodup : fields.keys.Nodup) :
    KindReader.Reads (ofKept fields make) fields.keys members record := by
  refine ⟨h.keys_eq, fun nodes hperm => (ofKept_eq_ok_iff hnodup).mpr ⟨fun member hmember => ?_,
    (h.builds hnodup).perm fun key _ => Node.valuesAt_perm key hperm⟩⟩
  obtain ⟨entry, -, rfl⟩ := Node.eq_of_mem_ofMembers (hperm.mem_iff.mpr hmember)
  exact ⟨entry.1, rfl, fun _ => Node.skip_of_isValue (Node.isProper_ofJson entry.2).isValue⟩

end KindReader

/-- Among the members of a tagged record those of its kind are left when the common fields and the
    tag are taken. -/
theorem leftover_ofMembers {fields : Fields ρ σ} {tag : String} {value : Json}
    {common own : List (String × Json)} (hcommon : common.map Prod.fst = fields.keys)
    (hown : ∀ key ∈ own.map Prod.fst, key ∉ fields.keys ∧ key ≠ tag) :
    fields.leftover tag (Node.ofMembers (common ++ (tag, value) :: own)) = Node.ofMembers own := by
  have htaken : fields.leftover tag (Node.ofMembers common) = [] := by
    refine List.filter_eq_nil_iff.mpr fun member hmember => ?_
    obtain ⟨entry, hentry, rfl⟩ := Node.eq_of_mem_ofMembers hmember
    have hknown : entry.1 ∈ fields.keys := hcommon ▸ List.mem_map_of_mem hentry
    simp [Fields.knows_iff.mpr hknown]
  have hkept : fields.leftover tag (Node.ofMembers own) = Node.ofMembers own := by
    refine List.filter_eq_self.mpr fun member hmember => ?_
    obtain ⟨entry, hentry, rfl⟩ := Node.eq_of_mem_ofMembers hmember
    obtain ⟨hunknown, hne⟩ := hown entry.1 (List.mem_map_of_mem hentry)
    have hknows : fields.knows entry.1 = false := by
      rw [← Bool.not_eq_true, Fields.knows_iff]
      exact hunknown
    simp [hknows, hne]
  have htag : fields.leftover tag ((.ok tag, .ofJson value) :: Node.ofMembers own) =
      fields.leftover tag (Node.ofMembers own) := by
    simp [Fields.leftover]
  rw [Node.ofMembers_append, Fields.leftover_append, htaken, List.nil_append, Node.ofMembers, htag,
    hkept]

theorem tagged_reads {fields : Fields (τ → ρ) σ} {make : σ} {tag name : String}
    {kinds : List (String × KindReader τ)} {kind : KindReader τ} {keys : List String}
    {common own : List (String × Json)} {finish : τ → ρ} {made : τ}
    (hcommon : fields.Reads common make finish) (hname : kinds.lookup name = some kind)
    (hown : kind.Reads keys own made) (hnodup : (fields.keys ++ tag :: keys).Nodup) :
    (tagged fields make tag kinds).Reads (.ofMembers (common ++ (tag, .string name) :: own))
      (finish made) := by
  have hkeys : (common ++ (tag, .string name) :: own).map Prod.fst =
      fields.keys ++ tag :: keys := by
    rw [List.map_append, List.map_cons, hcommon.keys_eq, hown.keys_eq]
  have hperm := Node.ofMembers_ofList_perm (hkeys.symm ▸ hnodup)
  obtain ⟨hdistinct, htail, hdisjoint⟩ := List.nodup_append.mp hnodup
  obtain ⟨hfresh, -⟩ := List.nodup_cons.mp htail
  have htag : tag ∉ fields.keys := fun hmem => hdisjoint _ hmem _ List.mem_cons_self rfl
  have hother : ∀ key ∈ fields.keys, key ∉ ((tag, Json.string name) :: own).map Prod.fst := by
    intro key hkey hmem
    rw [List.map_cons, hown.keys_eq] at hmem
    exact hdisjoint key hkey key hmem rfl
  -- in the order of the declaration the fields of the kind stand behind the tag
  have hbuilds := hcommon.builds_append hdistinct hother
  have hvalue : Node.valuesAt tag (Node.ofMembers (common ++ (tag, .string name) :: own)) =
      [.ofJson (.string name)] :=
    Node.valuesAt_ofMembers_middle (hcommon.keys_eq ▸ htag) (hown.keys_eq ▸ hfresh) _
  have hleft : fields.leftover tag (Node.ofMembers (common ++ (tag, .string name) :: own)) =
      Node.ofMembers own := by
    refine leftover_ofMembers hcommon.keys_eq fun key hkey => ?_
    rw [hown.keys_eq] at hkey
    refine ⟨fun hmem => hdisjoint key hmem key (List.mem_cons_of_mem _ hkey) rfl, ?_⟩
    rintro rfl
    exact hfresh hkey
  have hread : tagged fields make tag kinds .value
      (.object (Node.ofMembers (Keyed.ofList (common ++ (tag, .string name) :: own))) none) =
        .ok (finish made) := by
    rw [tagged_object_eq_ok_iff hdistinct htag]
    refine ⟨.value, rfl, fun member hmember => ?_, finish, .string (.ok name), kind, made,
      hbuilds.perm fun key _ => Node.valuesAt_perm key hperm, ?_, ?_, ?_, rfl⟩
    · obtain ⟨entry, -, rfl⟩ := Node.eq_of_mem_ofMembers hmember
      exact ⟨entry.1, rfl, fun _ => Node.toJson_of_isProper (Node.isProper_ofJson entry.2) trivial⟩
    · have hvalues := Node.valuesAt_perm tag hperm
      rw [hvalue] at hvalues
      exact (List.singleton_perm.mp hvalues).symm
    · simp only [choose, hname]
    · refine hown.read ?_
      rw [← hleft]
      exact hperm.filter _
  rw [Reads, Json.ofMembers, Node.ofJson, hread]

end Reader

end ProgramImage
