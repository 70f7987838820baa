import Mathlib
import ProgramImage.Proofs.FormatEdits
import ProgramImage.Proofs.ReadRecords

/-!
# The format of documents

The formats below list the keys that the records of a document know, and say which fields hold
further records. The maps of bindings and lambdas and the values that nothing looks into hold no
records that an edit may touch. At the top level a field may also be left out, be null, or hold its
empty default, and means the same in all three forms.

## Main definitions

* `Document.format` is the format of a whole document.
* `Document.Edit` is one edit of a document.

## Main statements

* `Document.reader_of_edits` reads the same document after any number of edits.
* `Document.ofBytes_of_edits` says the same of texts.
-/

namespace ProgramImage

open Reader Fields

/-! ### Formats -/

/-- Fields that hold nothing an edit may touch. -/
def Format.plain (keys : List String) : List (String × Format) :=
  keys.map fun key => (key, .value)

def SourceRecord.format : Format := .record (Format.plain ["fname", "contents"])

def FieldRecord.format : Format :=
  .record (Format.plain ["fkey", "fname", "declaredType", "isOptional"])

def SizeRecord.format : Format :=
  .record (Format.plain ["heapsize", "inlinedatasize", "assigndatasize", "heapmask", "inlinedmask"])

def TypeRecord.format : Format :=
  .tagged "tkind"
    [("tkey", .value), ("name", .value), ("sizeinfo", SizeRecord.format)]
    [("Register", []),
     ("Struct", ["fields", "fieldoffsets"]),
     ("Ref", ["fields", "fieldoffsets"]),
     ("BigNum", []),
     ("PartialVector", ["entrytype", "capacity"]),
     ("ListTree", ["entrytype"]),
     ("MapTree", ["keytype", "valuetype"]),
     ("UnionRef", ["subtypes"]),
     ("UnionInline", ["subtypes"]),
     ("UnionUniversal", ["subtypes"])]

def BoxedRecord.format : Format := .record (Format.plain ["tkey", "name", "oftype"])

def ListFlavorRecord.format : Format :=
  .record (Format.plain ["ltype", "reprtype", "entrytype", "pv4type", "pv8type", "treetype"])

def MapFlavorRecord.format : Format :=
  .record (Format.plain ["ltype", "reprtype", "keytype", "valuetype", "tupletype", "treetype"])

def SourceSpan.format : Format := .record (Format.plain ["line", "column", "pos", "span"])

def ParamRecord.format : Format := .record (Format.plain ["name", "ptype"])

def InvokeRecord.format : Format :=
  .tagged "ikind"
    [("ikey", .value), ("name", .value), ("srcFile", .value), ("sinfoStart", SourceSpan.format),
     ("sinfoEnd", SourceSpan.format), ("recursive", .value),
     ("params", .list ParamRecord.format), ("resultType", .value)]
    [("Body", ["isUserCode", "scalarstackBytes", "mixedstackBytes", "mixedMask", "maskSlots",
       "argmaskSize", "paraminfo", "resultArg", "body"]),
     ("Primitive", ["enclosingtype", "implkeyname", "binds", "pcodes"])]

def LiteralRecord.format : Format := .record (Format.plain ["offset", "type", "value"])

def ConstantRecord.format : Format := .record (Format.plain ["offset", "invoke", "type"])

def RegexRecord.format : Format := .record (Format.plain ["restr", "pattern"])

def ValidatorRecord.format : Format :=
  .record [("vtype", .value), ("regex", RegexRecord.format)]

def Document.format : Format :=
  .record
    [("src", .list SourceRecord.format),
     ("cmask", .value),
     ("cbuffsize", .value),
     ("typenames", .value),
     ("propertynames", .value),
     ("fieldnames", .value),
     ("invokenames", .value),
     ("vinvokenames", .value),
     ("fielddecls", .list FieldRecord.format),
     ("typedecls", .list TypeRecord.format),
     ("boxeddecls", .list BoxedRecord.format),
     ("listflavors", .list ListFlavorRecord.format),
     ("mapflavors", .list MapFlavorRecord.format),
     ("invdecls", .list InvokeRecord.format),
     ("litdecls", .list LiteralRecord.format),
     ("validators", .list ValidatorRecord.format),
     ("regexes", .list RegexRecord.format),
     ("constdecls", .list ConstantRecord.format)]

/-! ### The readers of records -/

theorem Fields.follow_plain {ρ σ : Type} (fields : Fields ρ σ) :
    fields.Follow (Format.plain fields.keys) := by
  induction fields with
  | done => exact .done
  | field first rest ih => exact .field (respects_value _) ih

theorem SourceRecord.reader_respects : SourceRecord.reader.Respects SourceRecord.format :=
  record_respects (follow_plain _) (by decide)

theorem FieldRecord.reader_respects : FieldRecord.reader.Respects FieldRecord.format :=
  record_respects (follow_plain _) (by decide)

theorem SizeRecord.reader_respects : SizeRecord.reader.Respects SizeRecord.format :=
  record_respects (follow_plain _) (by decide)

theorem BoxedRecord.reader_respects : BoxedRecord.reader.Respects BoxedRecord.format :=
  record_respects (follow_plain _) (by decide)

theorem ListFlavorRecord.reader_respects :
    ListFlavorRecord.reader.Respects ListFlavorRecord.format :=
  record_respects (follow_plain _) (by decide)

theorem MapFlavorRecord.reader_respects :
    MapFlavorRecord.reader.Respects MapFlavorRecord.format :=
  record_respects (follow_plain _) (by decide)

theorem SourceSpan.reader_respects : SourceSpan.reader.Respects SourceSpan.format :=
  record_respects (follow_plain _) (by decide)

theorem ParamRecord.reader_respects : ParamRecord.reader.Respects ParamRecord.format :=
  record_respects (follow_plain _) (by decide)

theorem LiteralRecord.reader_respects : LiteralRecord.reader.Respects LiteralRecord.format :=
  record_respects (follow_plain _) (by decide)

theorem ConstantRecord.reader_respects : ConstantRecord.reader.Respects ConstantRecord.format :=
  record_respects (follow_plain _) (by decide)

theorem RegexRecord.reader_respects : RegexRecord.reader.Respects RegexRecord.format :=
  record_respects (follow_plain _) (by decide)

theorem ValidatorRecord.reader_respects :
    ValidatorRecord.reader.Respects ValidatorRecord.format :=
  record_respects (.field (respects_value _) (.field RegexRecord.reader_respects .done))
    (by decide)

theorem TypeRecord.reader_respects : TypeRecord.reader.Respects TypeRecord.format := by
  refine tagged_respects (.field (respects_value _) <| .field (respects_value _) <|
    .field SizeRecord.reader_respects .done) ?_ (by decide) (by decide)
  exact .cons ⟨rfl, KindReader.dependsOn_const⟩ <|
    .cons ⟨rfl, ofKept_dependsOn (by decide)⟩ <|
    .cons ⟨rfl, ofKept_dependsOn (by decide)⟩ <|
    .cons ⟨rfl, KindReader.dependsOn_const⟩ <|
    .cons ⟨rfl, ofKept_dependsOn (by decide)⟩ <|
    .cons ⟨rfl, ofKept_dependsOn (by decide)⟩ <|
    .cons ⟨rfl, ofKept_dependsOn (by decide)⟩ <|
    .cons ⟨rfl, ofKept_dependsOn (by decide)⟩ <|
    .cons ⟨rfl, ofKept_dependsOn (by decide)⟩ <|
    .cons ⟨rfl, ofKept_dependsOn (by decide)⟩ .nil

theorem InvokeRecord.reader_respects : InvokeRecord.reader.Respects InvokeRecord.format := by
  refine tagged_respects (.field (respects_value _) <| .field (respects_value _) <|
    .field (respects_value _) <| .field SourceSpan.reader_respects <|
    .field SourceSpan.reader_respects <| .field (respects_value _) <|
    .field (list_respects ParamRecord.reader_respects) <| .field (respects_value _) .done)
    ?_ (by decide) (by decide)
  exact .cons ⟨rfl, (ofKept_dependsOn (by decide)).map _⟩ <|
    .cons ⟨rfl, (ofKept_dependsOn (by decide)).map _⟩ .nil

/-- The readers of the fields of a document respect the formats of what the fields hold. -/
theorem Document.reader_respects : Document.reader.Respects Document.format := by
  have hvalue {α : Type} (reader : Reader α) := respects_value reader
  have hlist {α : Type} {reader : Reader α} {format : Format} (h : reader.Respects format) :
      (orDefault [] (list reader)).Respects (.list format) :=
    orDefault_respects (list_respects h)
  refine record_respects ?_ (by decide)
  exact .field (hlist SourceRecord.reader_respects) <|
    .field (hvalue _) <|
    .field (hvalue _) <|
    .field (hvalue _) <|
    .field (hvalue _) <|
    .field (hvalue _) <|
    .field (hvalue _) <|
    .field (hvalue _) <|
    .field (hlist FieldRecord.reader_respects) <|
    .field (hlist TypeRecord.reader_respects) <|
    .field (hlist BoxedRecord.reader_respects) <|
    .field (hlist ListFlavorRecord.reader_respects) <|
    .field (hlist MapFlavorRecord.reader_respects) <|
    .field (hlist InvokeRecord.reader_respects) <|
    .field (hlist LiteralRecord.reader_respects) <|
    .field (hlist ValidatorRecord.reader_respects) <|
    .field (hlist RegexRecord.reader_respects) <|
    .field (hlist ConstantRecord.reader_respects) .done

/-! ### Empty fields -/

/-- The ways to leave a field empty: without its key, with null, or with a value that is blank. -/
def Node.emptyForms (key : String) (blank : Json) : List Node.Members :=
  [[], [(.ok key, .null)], [(.ok key, .ofJson blank)]]

/-- A field that means the same in all of its empty forms. -/
def Field.MayBeEmpty {α : Type} (field : Field α) (origin : Origin) (blank : Json) : Prop :=
  ∃ a, field.absent = some a ∧ field.read origin .null = .ok a ∧
    field.read origin (.ofJson blank) = .ok a

/-- All fields of a record mean the same in all of their empty forms. -/
inductive Fields.MayBeEmpty {ρ : Type} (origin : Origin) :
    {σ : Type} → Fields ρ σ → List (String × Json) → Prop
  | done : MayBeEmpty origin .done []
  | field {α σ : Type} {first : Field α} {rest : Fields ρ σ} {blank : Json}
      {blanks : List (String × Json)} (hfirst : first.MayBeEmpty origin blank)
      (hrest : rest.MayBeEmpty origin blanks) :
      MayBeEmpty origin (.field first rest) ((first.key, blank) :: blanks)

namespace Node

variable {key : String} {blank : Json} {form : Members}

theorem key_of_mem_emptyForm (hform : form ∈ emptyForms key blank)
    {member : Except Fault String × Node} (hmember : member ∈ form) : member.1 = .ok key := by
  simp only [emptyForms, List.mem_cons, List.not_mem_nil, or_false] at hform
  rcases hform with rfl | rfl | rfl
  · cases hmember
  · rw [List.mem_singleton.mp hmember]
  · rw [List.mem_singleton.mp hmember]

theorem valuesAt_emptyForm_of_ne {other : String} (hform : form ∈ emptyForms key blank)
    (hne : key ≠ other) : valuesAt other form = [] := by
  simp only [emptyForms, List.mem_cons, List.not_mem_nil, or_false] at hform
  rcases hform with rfl | rfl | rfl
  · rfl
  · rw [valuesAt_cons_of_ne hne, valuesAt_nil]
  · rw [valuesAt_cons_of_ne hne, valuesAt_nil]

end Node

/-- A field that may be empty takes the same in each of its empty forms. -/
theorem Field.MayBeEmpty.takes {α : Type} {field : Field α} {origin : Origin} {blank : Json}
    {form form' : Node.Members} {a : α} (h : field.MayBeEmpty origin blank)
    (hform : form ∈ Node.emptyForms field.key blank)
    (hform' : form' ∈ Node.emptyForms field.key blank)
    (htakes : field.Takes origin (Node.valuesAt field.key form) a) :
    field.Takes origin (Node.valuesAt field.key form') a := by
  obtain ⟨d, habsent, hnull, hblank⟩ := h
  -- every form gives the default, and no other value
  have hiff : ∀ form ∈ Node.emptyForms field.key blank,
      (field.Takes origin (Node.valuesAt field.key form) a ↔ d = a) := by
    intro form hform
    simp only [Node.emptyForms, List.mem_cons, List.not_mem_nil, or_false] at hform
    rcases hform with rfl | rfl | rfl
    · rw [Node.valuesAt_nil, Field.Takes, habsent, Option.some.injEq]
    · rw [Node.valuesAt_cons_same, Node.valuesAt_nil, Field.Takes, hnull, Except.ok.injEq]
    · rw [Node.valuesAt_cons_same, Node.valuesAt_nil, Field.Takes, hblank, Except.ok.injEq]
  exact (hiff form' hform').mpr ((hiff form hform).mp htakes)

namespace Fields

variable {ρ σ : Type} {origin : Origin} {blanks : List (String × Json)}

theorem MayBeEmpty.keys_eq {fields : Fields ρ σ} (h : fields.MayBeEmpty origin blanks) :
    fields.keys = blanks.map Prod.fst := by
  induction h with
  | done => rfl
  | field _ _ ih => rw [keys, ih, List.map_cons]

/-- A field in another of its empty forms leaves the record as it is. -/
theorem Builds.exchange {fields : Fields ρ σ} {make : σ} {record : ρ}
    {before behind form form' : Node.Members} {key : String} {blank : Json}
    (hblanks : fields.MayBeEmpty origin blanks) (hnodup : (blanks.map Prod.fst).Nodup)
    (hblank : (key, blank) ∈ blanks) (habsent : Node.valuesAt key (before ++ behind) = [])
    (hform : form ∈ Node.emptyForms key blank) (hform' : form' ∈ Node.emptyForms key blank)
    (h : fields.Builds origin (before ++ form ++ behind) make record) :
    fields.Builds origin (before ++ form' ++ behind) make record := by
  have hother : ∀ other, key ≠ other →
      Node.valuesAt other (before ++ form ++ behind) =
        Node.valuesAt other (before ++ form' ++ behind) := by
    intro other hne
    simp only [Node.valuesAt_append, Node.valuesAt_emptyForm_of_ne hform hne,
      Node.valuesAt_emptyForm_of_ne hform' hne]
  have hsame : ∀ form : Node.Members,
      Node.valuesAt key (before ++ form ++ behind) = Node.valuesAt key form := by
    intro form
    rw [Node.valuesAt_append, List.append_eq_nil_iff] at habsent
    rw [Node.valuesAt_append, Node.valuesAt_append, habsent.1, habsent.2, List.nil_append,
      List.append_nil]
  induction hblanks with
  | done => cases hblank
  | @field α σ first rest firstBlank blanks hfirst hrest ih =>
    obtain ⟨hfresh, hnodup⟩ := List.nodup_cons.mp hnodup
    obtain ⟨a, htakes, hbuilds⟩ := h
    by_cases hkey : key = first.key
    · subst hkey
      obtain rfl := eq_of_mem_cons_of_fresh hfresh hblank
      rw [hsame] at htakes
      refine ⟨a, ?_, hbuilds.perm fun other hmem => ?_⟩
      · rw [hsame]
        exact hfirst.takes hform hform' htakes
      · have hne : first.key ≠ other := by
          rintro rfl
          rw [← hrest.keys_eq] at hfresh
          exact hfresh hmem
        rw [hother other hne]
    · have hmem : (key, blank) ∈ blanks := mem_of_mem_cons_of_ne hkey hblank
      refine ⟨a, ?_, ih hnodup hmem hbuilds⟩
      rwa [← hother first.key hkey]

end Fields

theorem Reader.record_exchange {ρ σ : Type} {fields : Fields ρ σ} {make : σ} {record : ρ}
    {origin : Origin} {blanks : List (String × Json)} {before behind form form' : Node.Members}
    {key : String} {blank : Json} (hblanks : fields.MayBeEmpty origin.inside blanks)
    (hnodup : (blanks.map Prod.fst).Nodup) (hblank : (key, blank) ∈ blanks)
    (habsent : Node.valuesAt key (before ++ behind) = [])
    (hform : form ∈ Node.emptyForms key blank) (hform' : form' ∈ Node.emptyForms key blank)
    (hread : Reader.record fields make origin (.object (before ++ form ++ behind) none) =
      .ok record) :
    Reader.record fields make origin (.object (before ++ form' ++ behind) none) = .ok record := by
  have hdistinct : fields.keys.Nodup := hblanks.keys_eq ▸ hnodup
  rw [record_object_eq_ok_iff hdistinct] at hread ⊢
  obtain ⟨inside, henter, hpass, hbuilds⟩ := hread
  obtain rfl := Origin.inside_of_enter henter
  refine ⟨_, henter, fun member hmember => ?_,
    hbuilds.exchange hblanks hnodup hblank habsent hform hform'⟩
  simp only [List.mem_append] at hpass hmember
  rcases hmember with (hbefore | hform) | hbehind
  · exact hpass member (.inl (.inl hbefore))
  · have hknown : key ∈ fields.keys :=
      hblanks.keys_eq ▸ List.mem_map_of_mem (f := Prod.fst) hblank
    exact ⟨key, Node.key_of_mem_emptyForm hform' hform, fun hunknown => absurd hknown hunknown⟩
  · exact hpass member (.inr hbehind)

/-! ### Edits of documents -/

namespace Document

/-- The fields of a document and the empty default of each. -/
def blanks : List (String × Json) :=
  [("src", .array []),
   ("cmask", .string ""),
   ("cbuffsize", .number (.int 0)),
   ("typenames", .array []),
   ("propertynames", .array []),
   ("fieldnames", .array []),
   ("invokenames", .array []),
   ("vinvokenames", .array []),
   ("fielddecls", .array []),
   ("typedecls", .array []),
   ("boxeddecls", .array []),
   ("listflavors", .array []),
   ("mapflavors", .array []),
   ("invdecls", .array []),
   ("litdecls", .array []),
   ("validators", .array []),
   ("regexes", .array []),
   ("constdecls", .array [])]

/-- One edit of a document: an edit of the document as a record, or of any record in it, or another
    empty form of a field of the document. -/
inductive Edit (origin : Origin) : Node → Node → Prop
  | record {tree tree' : Node} (hedit : format.Edit origin tree tree') : Edit origin tree tree'
  | exchange {before behind form form' : Node.Members} {key : String} {blank : Json}
      (hblank : (key, blank) ∈ blanks) (habsent : Node.valuesAt key (before ++ behind) = [])
      (hform : form ∈ Node.emptyForms key blank) (hform' : form' ∈ Node.emptyForms key blank) :
      Edit origin (.object (before ++ form ++ behind) none)
        (.object (before ++ form' ++ behind) none)

variable {origin : Origin} {tree tree' : Node} {doc : Document}

/-- A document is read the same after an edit. -/
theorem reader_of_edit (hlevels : origin.Admits 2) (hedit : Edit origin tree tree')
    (hread : reader origin tree = .ok doc) : reader origin tree' = .ok doc := by
  cases hedit with
  | record hedit => exact reader_respects hedit hread
  | exchange hblank habsent hform hform' =>
    have hinside : origin.inside.enter = .ok origin.inside.inside :=
      (Origin.enter_of_admits (Origin.enter_of_admits hlevels).2).1
    have hlist {α : Type} (key : String) (item : Reader α) :
        (Field.nullable key [] (list item)).MayBeEmpty origin.inside (.array []) := by
      refine ⟨[], rfl, rfl, ?_⟩
      change (origin.inside.enter >>= fun inside => _) = _
      rw [hinside]
      rfl
    refine record_exchange ?_ (by decide) hblank habsent hform hform' hread
    exact .field (hlist _ _) <|
      .field ⟨"", rfl, rfl, rfl⟩ <|
      .field ⟨0, rfl, rfl, rfl⟩ <|
      .field (hlist _ _) <|
      .field (hlist _ _) <|
      .field (hlist _ _) <|
      .field (hlist _ _) <|
      .field (hlist _ _) <|
      .field (hlist _ _) <|
      .field (hlist _ _) <|
      .field (hlist _ _) <|
      .field (hlist _ _) <|
      .field (hlist _ _) <|
      .field (hlist _ _) <|
      .field (hlist _ _) <|
      .field (hlist _ _) <|
      .field (hlist _ _) <|
      .field (hlist _ _) .done

/-- A document is read the same after any number of edits. -/
theorem reader_of_edits (hlevels : origin.Admits 2)
    (hedits : Relation.ReflTransGen (Edit origin) tree tree')
    (hread : reader origin tree = .ok doc) : reader origin tree' = .ok doc := by
  induction hedits with
  | refl => exact hread
  | tail _ hedit ih => exact reader_of_edit hlevels hedit ih

/-- A text reads as the same document as another one when edits lead from one to the other. -/
theorem ofBytes_of_edits {bytes edited : List UInt8} (hread : ofBytes bytes = .ok doc)
    (hedits : Relation.ReflTransGen (Edit .wholeText) (Node.parse bytes).1 (Node.parse edited).1)
    (hrest : ∀ rest ∈ (Node.parse edited).2, (Node.skipBlanks rest).isEmpty) :
    ofBytes edited = .ok doc := by
  obtain ⟨htree, -⟩ := ofBytes_eq_ok_iff.mp hread
  have hlevels : Origin.wholeText.Admits 2 := by
    change 2 < 128
    decide
  exact ofBytes_eq_ok_iff.mpr ⟨reader_of_edits hlevels hedits htree, hrest⟩

/-- A text that declares one type. -/
def oneTypeText : List UInt8 :=
  Utf8.encode ("\x7b\"typedecls\":[\x7b\"tkind\":\"Register\",\"tkey\":\"Int\",\"sizeinfo\":" ++
    "\x7b\"inlinedatasize\":8,\"assigndatasize\":8,\"inlinedmask\":\"1\"\x7d\x7d]," ++
    "\"cmask\":null\x7d").toList

/-- The document of the text. -/
def oneType : Document :=
  { empty with types := [⟨"Int", none, ⟨0, 8, 8, none, "1"⟩, .register⟩] }

/-- The sizes of the type as they stand in the text. -/
def oneTypeSize : Node :=
  .object
    [(.ok "inlinedatasize", .number (.ok (.int 8))),
     (.ok "assigndatasize", .number (.ok (.int 8))),
     (.ok "inlinedmask", .string (.ok "1"))] none

/-- The type as it stands in the text. -/
def oneTypeMembers : Node.Members :=
  [(.ok "tkind", .string (.ok "Register")), (.ok "tkey", .string (.ok "Int")),
   (.ok "sizeinfo", oneTypeSize)]

theorem parse_oneTypeText :
    Node.parse oneTypeText =
      (.object [(.ok "typedecls", .array [.object oneTypeMembers none] none),
        (.ok "cmask", .null)] none, some []) := by
  unfold oneTypeMembers oneTypeSize
  cbv

theorem ofBytes_oneTypeText : ofBytes oneTypeText = .ok oneType := by
  rw [ofBytes_eq_ok_iff, parse_oneTypeText]
  refine ⟨rfl, ?_⟩
  rintro _ ⟨⟩
  rfl

theorem oneTypeMembers_not_knows : ¬TypeRecord.format.Knows oneTypeMembers "note" := by
  rintro (hcommon | htag | ⟨value, hvalue, own, hown, hmem⟩)
  · revert hcommon
    decide
  · exact absurd htag (by decide)
  · obtain rfl : value = .string (.ok "Register") := List.mem_singleton.mp hvalue
    obtain rfl : [] = own := Option.some.inj hown
    cases hmem

/-- The tag of the type may stand behind a note. -/
theorem oneTypeMembers_edits :
    Relation.ReflTransGen (TypeRecord.format.Edit (.text 126)) (.object oneTypeMembers none)
      (.object [(.ok "tkey", .string (.ok "Int")), (.ok "sizeinfo", oneTypeSize),
        (.ok "note", .array [.null] none), (.ok "tkind", .string (.ok "Register"))] none) := by
  have hproper : (Node.array [.null] none).IsProper :=
    .array (List.forall_mem_singleton.mpr .null)
  have hadd : TypeRecord.format.Edit (.text 126) (.object oneTypeMembers none)
      (.object (oneTypeMembers ++ [(.ok "note", .array [.null] none)]) none) :=
    @Format.Edit.add _ _ oneTypeMembers [] "note" _ oneTypeMembers_not_knows
      ⟨hproper, (by decide : 1 < 125)⟩
  have hmove : TypeRecord.format.Edit (.text 126)
      (.object (oneTypeMembers ++ [(.ok "note", .array [.null] none)]) none)
      (.object [(.ok "tkey", .string (.ok "Int")), (.ok "sizeinfo", oneTypeSize),
        (.ok "note", .array [.null] none), (.ok "tkind", .string (.ok "Register"))] none) :=
    .reorder trivial (@List.perm_append_comm _ [_] [_, _, _])
  exact .head hadd (.single hmove)

/-- The same text with its tag moved to the end of the declaration, a note added to it, a surrogate
    that stands alone added to the document, the null field left out and another one given. -/
def oneTypeTextEdited : List UInt8 :=
  Utf8.encode ("\x7b\"cbuffsize\":0,\"mark\":\"\\ud800\",\"typedecls\":[\x7b\"tkey\":\"Int\"," ++
    "\"sizeinfo\":\x7b\"inlinedatasize\":8,\"assigndatasize\":8,\"inlinedmask\":\"1\"\x7d," ++
    "\"note\":[null],\"tkind\":\"Register\"\x7d]\x7d").toList

theorem ofBytes_of_edits_of_oneType :
    ofBytes oneTypeText = .ok oneType ∧ ofBytes oneTypeTextEdited = .ok oneType := by
  have hedited : Node.parse oneTypeTextEdited =
      (.object
        [(.ok "cbuffsize", .number (.ok (.int 0))),
         (.ok "mark", .string (.error .malformed)),
         (.ok "typedecls", .array
          [.object [(.ok "tkey", .string (.ok "Int")), (.ok "sizeinfo", oneTypeSize),
            (.ok "note", .array [.null] none), (.ok "tkind", .string (.ok "Register"))]
            none] none)] none, some []) := by
    unfold oneTypeSize
    cbv
  refine ⟨ofBytes_oneTypeText, ofBytes_of_edits ofBytes_oneTypeText ?_ ?_⟩
  · rw [parse_oneTypeText, hedited]
    have hmask (decls : Node) : Edit .wholeText
        (.object [(.ok "typedecls", decls), (.ok "cmask", .null)] none)
        (.object [(.ok "typedecls", decls)] none) :=
      @Edit.exchange _ [(.ok "typedecls", decls)] [] [(.ok "cmask", .null)] [] "cmask" (.string "")
        (List.mem_of_getElem? (i := 1) rfl) rfl (.tail _ (.head _)) (.head _)
    have hcount (decls : Node) : Edit .wholeText
        (.object [(.ok "typedecls", decls)] none)
        (.object [(.ok "cbuffsize", .number (.ok (.int 0))), (.ok "typedecls", decls)] none) :=
      @Edit.exchange _ [] [(.ok "typedecls", decls)] [] [(.ok "cbuffsize", .number (.ok (.int 0)))]
        "cbuffsize" (.number (.int 0)) (List.mem_of_getElem? (i := 2) rfl) rfl (.head _)
        (.tail _ (.tail _ (.head _)))
    have hmark (decls : Node) : Edit .wholeText
        (.object [(.ok "cbuffsize", .number (.ok (.int 0))), (.ok "typedecls", decls)] none)
        (.object [(.ok "cbuffsize", .number (.ok (.int 0))),
          (.ok "mark", .string (.error .malformed)), (.ok "typedecls", decls)] none) :=
      .record (@Format.Edit.add _ _ [_] [_] "mark" _ (by simp [Document.format, Format.Knows])
        (.string _))
    have htype : Relation.ReflTransGen (TypeRecord.format.Edit (.text 126)) ≤
        Function.onFun (Relation.ReflTransGen (Edit .wholeText)) fun decl =>
          .object [(.ok "cbuffsize", .number (.ok (.int 0))),
            (.ok "mark", .string (.error .malformed)),
            (.ok "typedecls", .array [decl] none)] none :=
      Relation.ReflTransGen.lift _ fun _ _ hedit =>
        .record (@Format.Edit.field _ _ _ [_, _] [] _ _ _ (List.mem_of_getElem? (i := 9) rfl)
          (@Format.Edit.item _ _ [] [] _ _ hedit))
    exact .head (hmask _) <| .head (hcount _) <| .head (hmark _) <|
      htype _ _ oneTypeMembers_edits
  · rw [hedited]
    rintro _ ⟨⟩
    rfl

/-- The same text with a surrogate that stands alone added to the declaration of the type. -/
def oneTypeTextMarked : List UInt8 :=
  Utf8.encode ("\x7b\"typedecls\":[\x7b\"tkind\":\"Register\",\"tkey\":\"Int\",\"sizeinfo\":" ++
    "\x7b\"inlinedatasize\":8,\"assigndatasize\":8,\"inlinedmask\":\"1\"\x7d," ++
    "\"note\":\"\\ud800\"\x7d],\"cmask\":null\x7d").toList

/-- An empty document with such a surrogate as a key. -/
def markedKeyText : List UInt8 :=
  Utf8.encode "\x7b\"\\ud800\":0\x7d".toList

theorem parse_markedKeyText :
    Node.parse markedKeyText =
      (.object [(.error .malformed, .number (.ok (.int 0)))] none, some []) := by
  cbv

/-- A tagged record keeps the values of keys that it does not know, and reads them for that: a value
    that other records pass over makes the document unreadable. No record passes over a key that is
    no text. -/
theorem ofBytes_of_markedType :
    ofBytes oneTypeText = .ok oneType ∧
      Node.parse oneTypeText =
        (.object [(.ok "typedecls", .array [.object oneTypeMembers none] none),
          (.ok "cmask", .null)] none, some []) ∧
      (∃ value : Node, value.IsValue ∧ value.depth = 0 ∧
        ¬TypeRecord.format.Knows oneTypeMembers "note" ∧
        Node.parse oneTypeTextMarked =
          (.object [(.ok "typedecls",
              .array [.object (oneTypeMembers ++ [(.ok "note", value)]) none] none),
            (.ok "cmask", .null)] none, some []) ∧
        ∀ doc, ofBytes oneTypeTextMarked ≠ .ok doc) ∧
      reader .wholeText (.object [] none) = .ok empty ∧
      ∃ fault, Node.parse markedKeyText = (.object [(.error fault, .number (.ok (.int 0)))] none,
          some []) ∧
        ∀ doc, ofBytes markedKeyText ≠ .ok doc := by
  have hvalue : Node.parse oneTypeTextMarked =
      (.object [(.ok "typedecls",
          .array [.object (oneTypeMembers ++ [(.ok "note", .string (.error .malformed))]) none]
            none),
        (.ok "cmask", .null)] none, some []) := by
    unfold oneTypeMembers oneTypeSize
    cbv
  refine ⟨ofBytes_oneTypeText, parse_oneTypeText,
    ⟨_, .string (.error .malformed), rfl, oneTypeMembers_not_knows, hvalue, ?_⟩, rfl, _,
    parse_markedKeyText, ?_⟩
  · intro doc hread
    rw [ofBytes_eq_ok_iff, hvalue] at hread
    cases hread.1
  · intro doc hread
    rw [ofBytes_eq_ok_iff, parse_markedKeyText] at hread
    cases hread.1

end Document

end ProgramImage
