import ProgramImage.Load.Basic
import ProgramImage.Pattern.Language
import ProgramImage.Proofs.ReadRecords
import ProgramImage.Proofs.WrittenValues

/-!
# Documents that are read back

A document that is written and read back is the same document, whatever its declarations are. The
maps in a document, and the objects in the values that nothing looks into, have one form each, with
their keys in order; `Document.IsCanonical` says so, and every document that is read is in this
form. So nothing but this form is asked of a document.

## Main definitions

* `Document.IsCanonical` says that all maps and objects in a document have their keys in order.

## Main statements

* `Document.reader_reads` reads back a document that is written.
* `Document.isCanonical_of_gives` says that every document that is read has its keys in order.
* `Document.reads_back_and_loads_alike` says what becomes of a document that is written, read back
  and loaded.
-/

namespace ProgramImage

open Reader Fields

/-! ### The readers of records -/

theorem SourceRecord.reader_reads (source : SourceRecord) :
    SourceRecord.reader.Reads source.toJson source :=
  record_reads (.field (string_reads _) <| .field (string_reads _) .done) (by decide)

theorem FieldRecord.reader_reads (field : FieldRecord) :
    FieldRecord.reader.Reads field.toJson field :=
  record_reads (.field (string_reads _) <| .field (string_reads _) <| .field (string_reads _) <|
    .field (bool_reads _) .done) (by decide)

theorem SizeRecord.reader_reads (size : SizeRecord) : SizeRecord.reader.Reads size.toJson size :=
  record_reads (.field (word_reads _) <| .field (word_reads _) <| .field (word_reads _) <|
    .field (text?_reads _) <| .field (string_reads _) .done) (by decide)

theorem BoxedRecord.reader_reads (boxed : BoxedRecord) :
    BoxedRecord.reader.Reads boxed.toJson boxed :=
  record_reads (.field (string_reads _) <| .field (string_reads _) <|
    .field (string_reads _) .done) (by decide)

theorem ListFlavorRecord.reader_reads (flavor : ListFlavorRecord) :
    ListFlavorRecord.reader.Reads flavor.toJson flavor :=
  record_reads (.field (string_reads _) <| .field (string_reads _) <| .field (string_reads _) <|
    .field (string_reads _) <| .field (string_reads _) <| .field (string_reads _) .done) (by decide)

theorem MapFlavorRecord.reader_reads (flavor : MapFlavorRecord) :
    MapFlavorRecord.reader.Reads flavor.toJson flavor :=
  record_reads (.field (string_reads _) <| .field (string_reads _) <| .field (string_reads _) <|
    .field (string_reads _) <| .field (string_reads _) <| .field (string_reads _) .done) (by decide)

theorem SourceSpan.reader_reads (span : SourceSpan) : SourceSpan.reader.Reads span.toJson span :=
  record_reads (.field (halfWord_reads _) <| .field (halfWord_reads _) <|
    .field (halfWord_reads _) <| .field (halfWord_reads _) .done) (by decide)

theorem ParamRecord.reader_reads (param : ParamRecord) :
    ParamRecord.reader.Reads param.toJson param :=
  record_reads (.field (string_reads _) <| .field (string_reads _) .done) (by decide)

theorem LambdaRecord.reader_reads (lambda : LambdaRecord) :
    LambdaRecord.reader.Reads lambda.toJson lambda :=
  record_reads (.field (string_reads _) <|
    .field (list_reads fun _ _ => halfWord_reads _) .done) (by decide)

theorem LiteralRecord.reader_reads (literal : LiteralRecord) :
    LiteralRecord.reader.Reads literal.toJson literal :=
  record_reads (.field (word_reads _) <| .field (string_reads _) <|
    .field (string_reads _) .done) (by decide)

theorem ConstantRecord.reader_reads (constant : ConstantRecord) :
    ConstantRecord.reader.Reads constant.toJson constant :=
  record_reads (.field (word_reads _) <| .field (string_reads _) <|
    .field (string_reads _) .done) (by decide)

theorem RegexRecord.reader_reads (regex : RegexRecord) :
    RegexRecord.reader.Reads regex.toJson regex :=
  record_reads (.field (string_reads _) <| .field (string_reads _) .done) (by decide)

theorem ValidatorRecord.reader_reads (validator : ValidatorRecord) :
    ValidatorRecord.reader.Reads validator.toJson validator :=
  record_reads (.field (string_reads _) <|
    .field (RegexRecord.reader_reads _) .done) (by decide)

/-! ### Declarations with kinds -/

theorem strings_reads (texts : List String) : (list string).Reads (.ofStrings texts) texts :=
  list_reads fun _ _ => string_reads _

theorem words_reads (words : List UInt64) : (list word).Reads (.ofList .ofWord words) words :=
  list_reads fun _ _ => word_reads _

/-- A type is read back when the fields of its kind are. -/
theorem TypeRecord.reads_of_kind {tag : String} {reader : KindReader TypeKindRecord}
    {keys : List String} {own : List (String × Json)} {type : TypeRecord}
    (hmembers : type.kind.members = ("tkind", .string tag) :: own)
    (htag : TypeKindRecord.kinds.lookup tag = some reader) (hown : reader.Reads keys own type.kind)
    (hnodup : (["tkey", "name", "sizeinfo", "tkind"] ++ keys).Nodup) :
    TypeRecord.reader.Reads type.toJson type := by
  rw [toJson, hmembers]
  exact tagged_reads (.field (string_reads _) <| .field (text?_reads _) <|
    .field (SizeRecord.reader_reads _) .done) htag hown hnodup

theorem TypeRecord.reader_reads (type : TypeRecord) : TypeRecord.reader.Reads type.toJson type := by
  obtain ⟨key, name, size, kind⟩ := type
  cases kind with
  | register | bigNum => exact reads_of_kind rfl rfl KindReader.const_reads (by decide)
  | struct fields offsets | ref fields offsets =>
    refine reads_of_kind rfl rfl (KindReader.ofKept_reads ?_ (by decide)) (by decide)
    exact .field (strings_reads _) <| .field (words_reads _) .done
  | partialVector entry capacity =>
    refine reads_of_kind rfl rfl (KindReader.ofKept_reads ?_ (by decide)) (by decide)
    exact .field (string_reads _) <| .field (halfWord_reads _) .done
  | listTree entry =>
    refine reads_of_kind rfl rfl (KindReader.ofKept_reads ?_ (by decide)) (by decide)
    exact .field (string_reads _) .done
  | mapTree key value =>
    refine reads_of_kind rfl rfl (KindReader.ofKept_reads ?_ (by decide)) (by decide)
    exact .field (string_reads _) <| .field (string_reads _) .done
  | union form members =>
    cases form with
    | reference | inline | universal =>
      refine reads_of_kind rfl rfl (KindReader.ofKept_reads ?_ (by decide)) (by decide)
      exact .field (strings_reads _) .done

/-- The values in a body that nothing looks into have the members of their objects in order. -/
structure BodyRecord.IsCanonical (body : BodyRecord) : Prop where
  paramInfo : ∀ info ∈ body.paramInfo, info.IsCanonical
  resultInfo : body.resultInfo.IsCanonical
  instructions : ∀ instruction ∈ body.instructions, instruction.IsCanonical

/-- The maps of a primitive have their keys in order. -/
structure PrimitiveRecord.IsCanonical (primitive : PrimitiveRecord) : Prop where
  bindings : Keyed.IsSorted primitive.bindings
  lambdas : Keyed.IsSorted primitive.lambdas

def InvokeKindRecord.IsCanonical : InvokeKindRecord → Prop
  | .body record => record.IsCanonical
  | .primitive record => record.IsCanonical

/-- All maps in a document, and all objects in the values that nothing looks into, have their keys
    in order. -/
def Document.IsCanonical (doc : Document) : Prop :=
  ∀ invoke ∈ doc.invokes, invoke.kind.IsCanonical

theorem jsons_reads {values : List Json} (h : ∀ value ∈ values, value.IsCanonical) :
    (list json).Reads (.array values) values := by
  have hread := list_reads (f := fun value => value) fun value hvalue =>
    json_reads_iff.mpr (h value hvalue)
  rwa [List.map_id'] at hread

/-- A callable is read back when the fields of its kind are. -/
theorem InvokeRecord.reads_of_kind {tag : String} {reader : KindReader InvokeKindRecord}
    {keys : List String} {own : List (String × Json)} {invoke : InvokeRecord}
    (hmembers : invoke.kind.members = ("ikind", .string tag) :: own)
    (htag : InvokeKindRecord.kinds.lookup tag = some reader)
    (hown : reader.Reads keys own invoke.kind)
    (hnodup : (["ikey", "name", "srcFile", "sinfoStart", "sinfoEnd", "recursive", "params",
      "resultType", "ikind"] ++ keys).Nodup) :
    InvokeRecord.reader.Reads invoke.toJson invoke := by
  rw [toJson, hmembers]
  exact tagged_reads (.field (string_reads _) <| .field (string_reads _) <|
    .field (string_reads _) <| .field (SourceSpan.reader_reads _) <|
    .field (SourceSpan.reader_reads _) <| .field (bool_reads _) <|
    .field (list_reads fun _ _ => ParamRecord.reader_reads _) <|
    .field (string_reads _) .done) htag hown hnodup

theorem InvokeRecord.reader_reads {invoke : InvokeRecord} (h : invoke.kind.IsCanonical) :
    InvokeRecord.reader.Reads invoke.toJson invoke := by
  obtain ⟨key, name, file, start, stop, isRecursive, params, result, kind⟩ := invoke
  cases kind with
  | body body =>
    refine reads_of_kind rfl rfl ((KindReader.ofKept_reads ?_ (by decide)).map _) (by decide)
    exact .field (bool_reads _) <| .field (word_reads _) <| .field (word_reads _) <|
      .field (string_reads _) <| .field (halfWord_reads _) <| .field (halfWord_reads _) <|
      .field (jsons_reads h.paramInfo) <| .field (json_reads_iff.mpr h.resultInfo) <|
      .field (jsons_reads h.instructions) .done
  | primitive primitive =>
    refine reads_of_kind rfl rfl ((KindReader.ofKept_reads ?_ (by decide)).map _) (by decide)
    exact .field (text?_reads _) <| .field (string_reads _) <|
      .field (mapping_reads h.bindings fun _ _ => string_reads _) <|
      .field (mapping_reads h.lambdas fun _ _ => LambdaRecord.reader_reads _) .done

/-! ### Documents -/

namespace Document

theorem reader_reads {doc : Document} (h : doc.IsCanonical) : reader.Reads doc.toJson doc :=
  record_reads
    (.field (list_reads fun _ _ => SourceRecord.reader_reads _) <|
     .field (string_reads _) <|
     .field (word_reads _) <|
     .field (strings_reads _) <|
     .field (strings_reads _) <|
     .field (strings_reads _) <|
     .field (strings_reads _) <|
     .field (strings_reads _) <|
     .field (list_reads fun _ _ => FieldRecord.reader_reads _) <|
     .field (list_reads fun _ _ => TypeRecord.reader_reads _) <|
     .field (list_reads fun _ _ => BoxedRecord.reader_reads _) <|
     .field (list_reads fun _ _ => ListFlavorRecord.reader_reads _) <|
     .field (list_reads fun _ _ => MapFlavorRecord.reader_reads _) <|
     .field (list_reads fun invoke hinvoke => InvokeRecord.reader_reads (h invoke hinvoke)) <|
     .field (list_reads fun _ _ => LiteralRecord.reader_reads _) <|
     .field (list_reads fun _ _ => ValidatorRecord.reader_reads _) <|
     .field (list_reads fun _ _ => RegexRecord.reader_reads _) <|
     .field (list_reads fun _ _ => ConstantRecord.reader_reads _)
     .done)
    (by decide)

end Document

/-! ### What is read has its keys in order -/

theorem isCanonical_of_field {key : String} {default value : Json}
    (hdefault : default.IsCanonical)
    (h : (Field.withDefault key default json).Gives value) : value.IsCanonical := by
  rcases h with habsent | ⟨origin, node, hread⟩
  · exact Option.some.inj habsent ▸ hdefault
  · exact Node.isCanonical_of_toJson hread

theorem forall_isCanonical_of_field {key : String} {values : List Json}
    (h : (Field.withDefault key [] (list json)).Gives values) :
    ∀ value ∈ values, value.IsCanonical := by
  rcases h with habsent | hread
  · cases habsent
    exact List.forall_mem_nil _
  · intro value hvalue
    obtain ⟨origin, node, hnode⟩ := gives_of_list hread value hvalue
    exact Node.isCanonical_of_toJson hnode

theorem isSorted_of_field {α : Type} {key : String} {reader : Reader α}
    {entries : List (String × α)} (h : (Field.withDefault key [] (mapping reader)).Gives entries) :
    Keyed.IsSorted entries := by
  rcases h with habsent | hread
  · cases habsent
    exact .nil
  · exact isSorted_of_mapping hread

theorem InvokeKindRecord.isCanonical_of_kind {name : String} {kind : KindReader InvokeKindRecord}
    {members : Node.Members} {own : InvokeKindRecord} (hkind : (name, kind) ∈ kinds)
    (h : kind members = .ok own) : own.IsCanonical := by
  simp only [kinds, List.mem_cons, List.not_mem_nil, or_false, Prod.mk.injEq] at hkind
  rcases hkind with ⟨-, rfl⟩ | ⟨-, rfl⟩
  · obtain ⟨body, hbody, rfl⟩ := Except.map_eq_ok.mp h
    obtain ⟨_, -, _, -, _, -, _, -, _, -, _, -, info, hinfo, result, hresult, code, hcode, rfl⟩ :=
      makes_of_ofKept (by decide) hbody
    exact ⟨forall_isCanonical_of_field hinfo, isCanonical_of_field .null hresult,
      forall_isCanonical_of_field hcode⟩
  · obtain ⟨primitive, hprimitive, rfl⟩ := Except.map_eq_ok.mp h
    obtain ⟨_, -, _, -, bindings, hbindings, lambdas, hlambdas, rfl⟩ :=
      makes_of_ofKept (by decide) hprimitive
    exact ⟨isSorted_of_field hbindings, isSorted_of_field hlambdas⟩

theorem InvokeRecord.isCanonical_of_gives {invoke : InvokeRecord}
    (h : InvokeRecord.reader.Gives invoke) : invoke.kind.IsCanonical := by
  obtain ⟨common, name, kind, members, own, hcommon, hkind, hown, rfl⟩ :=
    makes_of_tagged (by decide) h
  obtain ⟨_, -, _, -, _, -, _, -, _, -, _, -, _, -, _, -, rfl⟩ := hcommon
  exact InvokeKindRecord.isCanonical_of_kind hkind hown

namespace Document

/-- Every document that is read, of a text or of a value, has its keys in order. -/
theorem isCanonical_of_gives {doc : Document} (h : reader.Gives doc) : doc.IsCanonical := by
  obtain ⟨_, -, _, -, _, -, _, -, _, -, _, -, _, -, _, -, _, -, _, -, _, -, _, -, _, -,
    invokes, hinvokes, _, -, _, -, _, -, _, -, rfl⟩ := makes_of_record (by decide) h
  intro invoke hinvoke
  rcases hinvokes with habsent | hread
  · cases habsent
    cases hinvoke
  · rcases gives_of_orDefault hread with rfl | hlist
    · cases hinvoke
    · exact InvokeRecord.isCanonical_of_gives (gives_of_list hlist invoke hinvoke)

/-- A document is read back from what is written of it when its keys are in order, and only then. -/
theorem ofJson_toJson_iff {doc : Document} : ofJson doc.toJson = .ok doc ↔ doc.IsCanonical :=
  ⟨fun h => isCanonical_of_gives ⟨.value, _, h⟩, reader_reads⟩

/-- A document is read back from what is written of it, and so the load of what is read back is the
    load of the document. Its maps have their keys in order, as all maps do that are read. -/
theorem reads_back_and_loads_alike {σ : Type} {patterns : PatternLanguage} {config : LoadConfig}
    {initializer : Initializer σ} {state : σ} {doc : Document} (h : doc.IsCanonical) :
    ofJson doc.toJson = .ok doc ∧
      (ofJson doc.toJson).map (Load.load patterns config initializer state) =
        .ok (Load.load patterns config initializer state doc) := by
  have hread : ofJson doc.toJson = .ok doc := reader_reads h
  rw [hread]
  exact ⟨rfl, rfl⟩

/-- A document with one type and with a callable of each kind. The instructions of the one are an
    object, and the other has bound types and a lambda. -/
def oneOfEach : Document :=
  { empty with
    typeNames := ["Main::Pair"]
    types := [⟨"Main::Pair", none, ⟨0, 16, 16, none, "11"⟩, .struct [] []⟩]
    invokeNames := ["Main::less", "List::sort"]
    invokes :=
      [⟨"Main::less", "less", "", .unknown, .unknown, false, [⟨"x", "Int"⟩, ⟨"y", "Int"⟩], "Bool",
        .body ⟨true, 8, 0, "", 0, 0, [], .null,
          [.object [("args", .array [.number (.int 0)]), ("op", .string "less")]]⟩⟩,
       ⟨"List::sort", "sort", "", .unknown, .unknown, false, [⟨"l", "Main::Pair"⟩], "Main::Pair",
        .primitive ⟨some "Main::Pair", "list_sort", [("T", "Int"), ("U", "Bool")],
          [("cmp", ⟨"Main::less", [0]⟩)]⟩⟩] }

theorem reads_back_and_loads_alike_of_oneOfEach :
    oneOfEach.IsCanonical ∧ ofJson oneOfEach.toJson = .ok oneOfEach ∧
      ∃ report, (ofJson oneOfEach.toJson).map (Load.load .basic .standard .absent ()) = .ok report ∧
        report.outcome.isOk = true := by
  have hcanonical : oneOfEach.IsCanonical := by
    have hcode : Json.IsCanonical
        (.object [("args", .array [.number (.int 0)]), ("op", .string "less")]) := by
      refine .object (List.pairwise_pair.mpr rfl) (List.forall_mem_cons.mpr ⟨?_, ?_⟩)
      · exact .array (List.forall_mem_singleton.mpr (.number _))
      · exact List.forall_mem_singleton.mpr (.string _)
    have hbody : BodyRecord.IsCanonical ⟨true, 8, 0, "", 0, 0, [], .null,
        [.object [("args", .array [.number (.int 0)]), ("op", .string "less")]]⟩ :=
      ⟨nofun, .null, List.forall_mem_singleton.mpr hcode⟩
    have hprimitive : PrimitiveRecord.IsCanonical ⟨some "Main::Pair", "list_sort",
        [("T", "Int"), ("U", "Bool")], [("cmp", ⟨"Main::less", [0]⟩)]⟩ :=
      ⟨List.pairwise_pair.mpr rfl, List.pairwise_singleton _ _⟩
    exact List.forall_mem_cons.mpr ⟨hbody, List.forall_mem_singleton.mpr hprimitive⟩
  have hok : (Load.load .basic .standard .absent () oneOfEach).outcome.isOk = true := by
    decide +kernel
  obtain ⟨hread, hload⟩ := @reads_back_and_loads_alike _ .basic .standard .absent () _ hcanonical
  exact ⟨hcanonical, hread, _, hload, hok⟩

/-- Whatever text a document is read of, it is read again from what is written of it. -/
theorem ofJson_toJson_of_ofBytes {bytes : List UInt8} {doc : Document}
    (h : ofBytes bytes = .ok doc) : ofJson doc.toJson = .ok doc := by
  obtain ⟨hread, -⟩ := ofBytes_eq_ok_iff.mp h
  exact reader_reads (isCanonical_of_gives ⟨_, _, hread⟩)

end Document

end ProgramImage
