import ProgramImage.Proofs.KeyedOrder
import ProgramImage.Proofs.RecordFields

/-!
# What can be read

Whatever a text says, a record that is read is made of what the readers of its fields give. What
holds of everything that these readers give can so be said of every record, without looking at the
text or at the form of the record in it.

## Main definitions

* `Reader.Gives` says that a reader gives a value for some tree.
* `Fields.Makes` says that fields make a record of what their readers give.

## Main statements

* `Reader.makes_of_record` and `Reader.makes_of_tagged` are about records.
* `Reader.gives_of_list`, `Reader.gives_of_orDefault` and `Reader.isSorted_of_mapping` are about
  what fields hold.
* `Document.ofBytes_eq_ok_iff` says when a text reads as a document.
-/

namespace ProgramImage

variable {α ρ σ τ : Type}

/-- A reader gives a value for some tree. -/
def Reader.Gives (reader : Reader α) (a : α) : Prop :=
  ∃ origin node, reader origin node = .ok a

/-- A field holds its default or what its reader gives. -/
def Field.Gives (field : Field α) (a : α) : Prop :=
  field.absent = some a ∨ field.read.Gives a

/-- Fields make a record of what their readers give. -/
def Fields.Makes : {σ : Type} → Fields ρ σ → σ → ρ → Prop
  | _, done, made, record => made = record
  | _, @field _ α _ first rest, make, record => ∃ a : α, first.Gives a ∧ rest.Makes (make a) record

namespace Fields

variable {origin : Origin} {fields : Fields ρ σ} {make : σ} {record : ρ}

theorem Builds.makes {members : Node.Members} (h : fields.Builds origin members make record) :
    fields.Makes make record := by
  induction fields with
  | done => exact h
  | field first rest ih =>
    obtain ⟨a, htakes, hrest⟩ := h
    refine ⟨a, ?_, ih hrest⟩
    match hvalues : Node.valuesAt first.key members with
    | [] =>
      rw [hvalues] at htakes
      exact .inl htakes
    | [value] =>
      rw [hvalues] at htakes
      exact .inr ⟨origin, value, htakes⟩
    | _ :: _ :: _ =>
      rw [hvalues] at htakes
      exact htakes.elim

theorem makes_of_ofItems {stop : Option Break} {count : Nat} {items rest : List Node}
    (h : fields.ofItems origin stop make count items = .ok (record, rest)) :
    fields.Makes make record := by
  induction fields generalizing count items with
  | done =>
    cases h
    exact rfl
  | field first later ih =>
    cases items with
    | nil =>
      rw [ofItems] at h
      obtain ⟨_, -, h⟩ := Except.bind_eq_ok.mp h
      split at h
      · next a habsent => exact ⟨a, .inl habsent, ih h⟩
      · cases h
    | cons item items =>
      rw [ofItems] at h
      obtain ⟨a, hitem, hlater⟩ := Except.bind_eq_ok.mp h
      exact ⟨a, .inr ⟨origin, item, hitem⟩, ih hlater⟩

end Fields

namespace Reader

theorem makes_of_record {fields : Fields ρ σ} {make : σ} {record : ρ}
    (hnodup : fields.keys.Nodup) (h : (Reader.record fields make).Gives record) :
    fields.Makes make record := by
  obtain ⟨origin, node, hread⟩ := h
  cases node with
  | object members stop =>
    obtain ⟨inside, -, hinside⟩ := Except.bind_eq_ok.mp hread
    obtain ⟨slots, hslots, hclosed⟩ := Except.bind_eq_ok.mp hinside
    obtain ⟨_, -, hbuild⟩ := Except.bind_eq_ok.mp hclosed
    obtain ⟨-, hfilled⟩ := (Fields.fillAll_eq_ok_iff hnodup).mp hslots
    exact (Fields.builds_iff.mpr ⟨slots, hfilled, hbuild⟩).makes
  | array items stop =>
    obtain ⟨inside, -, hinside⟩ := Except.bind_eq_ok.mp hread
    obtain ⟨⟨made, rest⟩, hitems, hrest⟩ := Except.bind_eq_ok.mp hinside
    obtain ⟨_, -, hmade⟩ := Except.bind_eq_ok.mp hrest
    cases hmade
    exact Fields.makes_of_ofItems hitems
  | null | bool | number | string | broken => cases hread

theorem mem_of_choose {kinds : List (String × KindReader τ)} {value : Node} {kind : KindReader τ}
    (h : choose kinds value = .ok kind) : ∃ name, (name, kind) ∈ kinds := by
  unfold choose at h
  split at h
  · next name =>
    split at h
    · next found hfound =>
      cases h
      obtain ⟨before, behind, rfl, -⟩ := List.lookup_eq_some_iff.mp hfound
      exact ⟨name, List.mem_append_right _ List.mem_cons_self⟩
    · cases h
  · split at h
    · cases h
    · split at h
      · next name found hfound =>
        cases h
        exact ⟨name, List.mem_of_getElem? hfound⟩
      · cases h
  · cases h

theorem mem_of_takeTag {kinds : List (String × KindReader τ)} {tag : String}
    {chosen : Option (KindReader τ)} {kept : List (String × Node)} {kind : KindReader τ}
    {others : Node.Members} (hchosen : ∀ found ∈ chosen, ∃ name, (name, found) ∈ kinds)
    (h : takeTag tag (choose kinds) chosen kept = .ok (kind, others)) :
    ∃ name, (name, kind) ∈ kinds := by
  induction kept generalizing chosen others with
  | nil =>
    cases chosen with
    | none => cases h
    | some found =>
      cases h
      exact hchosen kind rfl
  | cons member rest ih =>
    obtain ⟨key, value⟩ := member
    by_cases hkey : key = tag
    · subst hkey
      rw [Fields.takeTag_same] at h
      split at h
      · cases h
      · obtain ⟨found, hfound, hrest⟩ := Except.bind_eq_ok.mp h
        refine ih ?_ hrest
        rintro _ ⟨⟩
        exact mem_of_choose hfound
    · rw [Fields.takeTag_other hkey] at h
      obtain ⟨⟨found, left⟩, hrest, hfound⟩ := Except.bind_eq_ok.mp h
      cases hfound
      exact ih hchosen hrest

/-- A tagged record is made of common fields and of what one of its kinds gives. -/
theorem makes_of_tagged {fields : Fields (τ → ρ) σ} {make : σ} {tag : String}
    {kinds : List (String × KindReader τ)} {record : ρ} (hnodup : fields.keys.Nodup)
    (h : (tagged fields make tag kinds).Gives record) :
    ∃ common name kind members own, fields.Makes make common ∧ (name, kind) ∈ kinds ∧
      kind members = .ok own ∧ common own = record := by
  obtain ⟨origin, node, hread⟩ := h
  cases node with
  | object members stop =>
    obtain ⟨inside, -, hinside⟩ := Except.bind_eq_ok.mp hread
    obtain ⟨⟨slots, kept⟩, hkeeping, hclosed⟩ := Except.bind_eq_ok.mp hinside
    obtain ⟨_, -, hbuild⟩ := Except.bind_eq_ok.mp hclosed
    obtain ⟨common, hcommon, htake⟩ := Except.bind_eq_ok.mp hbuild
    obtain ⟨⟨kind, others⟩, htaken, hown⟩ := Except.bind_eq_ok.mp htake
    obtain ⟨own, hown, hrecord⟩ := Except.map_eq_ok.mp hown
    obtain ⟨-, hfilled, -⟩ := (Fields.fillKeeping_eq_ok_iff hnodup).mp hkeeping
    have hnone : ∀ found ∈ (none : Option (KindReader τ)), ∃ name, (name, found) ∈ kinds := nofun
    obtain ⟨name, hname⟩ := mem_of_takeTag hnone htaken
    exact ⟨common, name, kind, others, own,
      (Fields.builds_iff.mpr ⟨slots, hfilled, hcommon⟩).makes, hname, hown, hrecord⟩
  | array | null | bool | number | string | broken => cases hread

theorem makes_of_ofKept {fields : Fields ρ σ} {make : σ} {members : Node.Members} {record : ρ}
    (hnodup : fields.keys.Nodup) (h : ofKept fields make members = .ok record) :
    fields.Makes make record :=
  ((ofKept_eq_ok_iff hnodup).mp h).2.makes

/-! ### What fields hold -/

theorem gives_of_orDefault {default a : α} {reader : Reader α}
    (h : (orDefault default reader).Gives a) : a = default ∨ reader.Gives a := by
  obtain ⟨origin, node, hread⟩ := h
  unfold orDefault at hread
  split at hread
  · exact .inl (Except.ok.inj hread).symm
  · exact .inr ⟨origin, node, hread⟩

theorem gives_of_items {reader : Reader α} {origin : Origin} {nodes : List Node} {values : List α}
    (h : items reader origin nodes = .ok values) : ∀ value ∈ values, reader.Gives value := by
  induction nodes generalizing values with
  | nil =>
    cases h
    nofun
  | cons node rest ih =>
    obtain ⟨first, hfirst, h⟩ := Except.bind_eq_ok.mp h
    obtain ⟨others, hothers, h⟩ := Except.bind_eq_ok.mp h
    cases h
    exact List.forall_mem_cons.mpr ⟨⟨origin, node, hfirst⟩, ih hothers⟩

/-- Each item of a list is what the reader of the items gives. -/
theorem gives_of_list {reader : Reader α} {values : List α} (h : (list reader).Gives values) :
    ∀ value ∈ values, reader.Gives value := by
  obtain ⟨origin, node, hread⟩ := h
  cases node with
  | array nodes stop =>
    obtain ⟨inside, -, hinside⟩ := Except.bind_eq_ok.mp hread
    obtain ⟨read, hitems, hclosed⟩ := Except.bind_eq_ok.mp hinside
    obtain ⟨_, -, hvalues⟩ := Except.bind_eq_ok.mp hclosed
    cases hvalues
    exact gives_of_items hitems
  | object | null | bool | number | string | broken => cases hread

/-- A map that is read has its keys in order. -/
theorem isSorted_of_mapping {reader : Reader α} {entries : List (String × α)}
    (h : (mapping reader).Gives entries) : Keyed.IsSorted entries := by
  obtain ⟨origin, node, hread⟩ := h
  cases node with
  | object members stop =>
    obtain ⟨inside, -, hinside⟩ := Except.bind_eq_ok.mp hread
    obtain ⟨read, -, hclosed⟩ := Except.bind_eq_ok.mp hinside
    obtain ⟨_, -, hentries⟩ := Except.bind_eq_ok.mp hclosed
    cases hentries
    exact Keyed.isSorted_ofList read
  | array | null | bool | number | string | broken => cases hread

end Reader

/-! ### Texts -/

/-- A text reads as a document when its tree does and nothing but blanks follows. -/
theorem Document.ofBytes_eq_ok_iff {bytes : List UInt8} {doc : Document} :
    ofBytes bytes = .ok doc ↔
      reader .wholeText (Node.parse bytes).1 = .ok doc ∧
        ∀ rest ∈ (Node.parse bytes).2, (Node.skipBlanks rest).isEmpty := by
  have hunfold : ofBytes bytes = reader .wholeText (Node.parse bytes).1 >>= fun doc =>
      (Node.parse bytes).2.elim (.ok doc) fun rest =>
        if (Node.skipBlanks rest).isEmpty then .ok doc else .error (.text .malformed) := by
    rw [ofBytes]
    obtain ⟨tree, rest?⟩ := Node.parse bytes
    cases rest? <;> rfl
  rw [hunfold, Except.bind_eq_ok]
  cases (Node.parse bytes).2 with
  | none =>
    constructor
    · rintro ⟨read, hread, hdoc⟩
      cases hdoc
      exact ⟨hread, nofun⟩
    · rintro ⟨hread, -⟩
      exact ⟨doc, hread, rfl⟩
  | some rest =>
    constructor
    · rintro ⟨read, hread, hdoc⟩
      by_cases hblank : (Node.skipBlanks rest).isEmpty
      · obtain rfl := Except.ok.inj ((if_pos hblank).symm.trans hdoc)
        refine ⟨hread, ?_⟩
        rintro _ ⟨⟩
        exact hblank
      · cases (if_neg hblank).symm.trans hdoc
    · rintro ⟨hread, hblank⟩
      exact ⟨doc, hread, if_pos (hblank rest rfl)⟩

end ProgramImage
