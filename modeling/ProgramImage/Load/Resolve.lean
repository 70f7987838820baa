import ProgramImage.Document.Basic
import ProgramImage.Load.Error

/-!
# Resolving declarations

A declaration of a document refers to others by name and writes its masks as text. The
functions here turn it into its resolved form: names become identifiers, masks are
read and, when asked for, compared with the sizes they are declared with. Of several
errors in a declaration the first is reported, in the order of these functions.
-/

namespace ProgramImage

namespace Load

/-- The identifier of a name. -/
def resolve (names : NameRegistry) (space : Namespace) (name context : String) :
    Except LoadError (Index space) :=
  match names.lookup space name with
  | some index => .ok index
  | none => .error (.unknownName space name context)

/-- The identifier of a type. -/
def resolveType (names : NameRegistry) (name context : String) : Except LoadError TypeId :=
  resolve names .type name context

/-- The identifiers of types. -/
def resolveTypes (names : NameRegistry) (list : List String) (context : String) :
    Except LoadError (List TypeId) :=
  list.mapM fun name => resolveType names name context

/-- The descriptor of a type that is loaded. -/
def loadedType (names : NameRegistry) (types : TypeTable) (name context : String) :
    Except LoadError TypeDescriptor := do
  let tid ← resolveType names name context
  match types.type? tid with
  | some desc => return desc
  | none => throw (.missingDescriptor name context)

/-- The error of a type that is of another kind than expected. -/
def wrongKind (name context expected : String) (found : TypeDescriptor) : LoadError :=
  .wrongKind name context expected found.kind.name

/-- Reads a mask. -/
def parseMask (text context : String) : Except LoadError Mask :=
  match Mask.parse text with
  | .ok mask => .ok mask
  | .error error => .error (.invalidMask context error)

/-- Refuses a mask that does not describe as many bytes as it should, when masks are
    verified. -/
def checkCoverage (verify : Bool) (context : String) (mask : Mask) (expected : Coverage) :
    Except LoadError Unit :=
  if verify && !expected.admits mask then
    .error (.maskCoverage context mask.covered expected)
  else .ok ()

/-- Resolves declared sizes. The inline mask has to describe the whole inline form, and
    the heap mask no more than the heap form. -/
def sizeInfo (verify : Bool) (context : String) (record : SizeRecord) :
    Except LoadError SizeInfo := do
  let inlineMask ← parseMask record.inlineMask context
  let heapMask ← record.heapMask.mapM fun text => parseMask text context
  checkCoverage verify (context ++ " inlinedmask") inlineMask
    (.exactly (roundUpToWord record.inlineSize.toNat))
  if let some mask := heapMask then
    checkCoverage verify (context ++ " heapmask") mask
      (.atMost (roundUpToWord record.heapSize.toNat))
  return {
    heapSize := record.heapSize.toNat
    inlineSize := record.inlineSize.toNat
    assignSize := record.assignSize.toNat
    heapMask
    inlineMask }

/-- Resolves the fields of a layout. -/
def fieldLayout (names : NameRegistry) (key : String) (fields : List String)
    (offsets : List UInt64) : Except LoadError FieldLayout := do
  if fields.length ≠ offsets.length then
    throw (.invalidDeclaration key (.offsetCount fields.length offsets.length))
  let fields ← fields.mapM fun name => resolve names .field name key
  return ⟨fields, offsets.map UInt64.toNat⟩

/-- Resolves what is particular to a kind of type. -/
def typeKind (names : NameRegistry) (key : String) : TypeKindRecord → Except LoadError TypeKind
  | .register => return .register
  | .struct fields offsets => return .struct (← fieldLayout names key fields offsets)
  | .ref fields offsets => return .ref (← fieldLayout names key fields offsets)
  | .bigNum => return .bigNum
  | .partialVector entry capacity => do
    if capacity ≠ 4 ∧ capacity ≠ 8 then
      throw (.invalidDeclaration key (.chunkCapacity capacity.toNat))
    return .partialVector (← resolveType names entry key) capacity.toNat
  | .listTree entry => return .listTree (← resolveType names entry key)
  | .mapTree key' value => do
    let keyType ← resolveType names key' key
    return .mapTree keyType (← resolveType names value key)
  | .union form members => return .union form (← resolveTypes names members key)

/-- Resolves the declaration of a type. -/
def typeDescriptor (names : NameRegistry) (verify : Bool) (record : TypeRecord) :
    Except LoadError TypeDescriptor := do
  let tid ← resolveType names record.key "typedecls"
  let size ← sizeInfo verify record.key record.size
  let kind ← typeKind names record.key record.kind
  return ⟨tid, record.name.getD record.key, size, kind⟩

/-- The descriptor of a struct behind a pointer. The heap form is the inline form of the
    struct, with its mask when it has a traced slot. -/
def boxedDescriptor (tid : TypeId) (name : String) (wrapped : TypeDescriptor) :
    TypeDescriptor where
  tid := tid
  name := name
  size := .reference wrapped.size.inlineSize
    (if wrapped.inlineHasPointers then some wrapped.size.inlineMask else none)
  kind := .boxedStruct wrapped.tid

/-- Resolves the declaration of a struct behind a pointer. -/
def boxedType (names : NameRegistry) (types : TypeTable) (record : BoxedRecord) :
    Except LoadError TypeDescriptor := do
  let tid ← resolveType names record.key "boxeddecls"
  let wrapped ← loadedType names types record.wrapped record.key
  match wrapped.kind with
  | .struct _ => return boxedDescriptor tid record.name wrapped
  | _ => throw (wrongKind record.wrapped record.key "Struct" wrapped)

/-- Resolves a chunk of a list flavor, which has to have a given capacity. -/
def chunk (names : NameRegistry) (types : TypeTable) (name : String) (capacity : Nat)
    (context : String) : Except LoadError TypeId := do
  let desc ← loadedType names types name context
  match desc.kind with
  | .partialVector _ found =>
    if found = capacity then return desc.tid
    else throw (.invalidDeclaration context (.flavorCapacity name found capacity))
  | _ => throw (wrongKind name context "PartialVector" desc)

/-- Resolves the types that represent a list type. -/
def listFlavor (names : NameRegistry) (types : TypeTable) (record : ListFlavorRecord) :
    Except LoadError ListFlavor := do
  let context := record.list
  let list ← resolveType names record.list "listflavors"
  let repr ← resolveType names record.repr context
  let entry ← loadedType names types record.entry context
  let vector4 ← chunk names types record.vector4 4 context
  let vector8 ← chunk names types record.vector8 8 context
  let tree ← loadedType names types record.tree context
  match tree.kind with
  | .listTree _ => return { list, repr, entry := entry.tid, vector4, vector8, tree := tree.tid }
  | _ => throw (wrongKind record.tree context "ListTree" tree)

/-- Resolves the types that represent a map type. -/
def mapFlavor (names : NameRegistry) (types : TypeTable) (record : MapFlavorRecord) :
    Except LoadError MapFlavor := do
  let context := record.map
  let map ← resolveType names record.map "mapflavors"
  let repr ← resolveType names record.repr context
  let key ← loadedType names types record.key context
  let value ← loadedType names types record.value context
  let tuple ← loadedType names types record.tuple context
  let tree ← loadedType names types record.tree context
  match tree.kind with
  | .mapTree .. =>
    return { map, repr, key := key.tid, value := value.tid, tuple := tuple.tid, tree := tree.tid }
  | _ => throw (wrongKind record.tree context "MapTree" tree)

/-- Resolves a callable with instructions. The mask has to describe no more than the
    part of the frame that may be traced. -/
def body (verify : Bool) (context : String) (record : BodyRecord) : Except LoadError Body := do
  let mixedMask ← parseMask record.mixedMask context
  checkCoverage verify (context ++ " mixedMask") mixedMask
    (.atMost (roundUpToWord record.mixedBytes.toNat))
  return {
    isUserCode := record.isUserCode
    scalarBytes := record.scalarBytes.toNat
    mixedBytes := record.mixedBytes.toNat
    mixedMask
    maskSlots := record.maskSlots
    argMaskSize := record.argMaskSize
    paramInfo := record.paramInfo
    resultInfo := record.resultInfo
    instructions := record.instructions }

/-- Resolves a callable of the runtime. -/
def primitive (names : NameRegistry) (context : String) (record : PrimitiveRecord) :
    Except LoadError Primitive := do
  let enclosingType ← record.enclosingType.mapM fun name => resolveType names name context
  let bindings ← record.bindings.mapM fun (name, type) => do
    return (name, ← resolveType names type context)
  let lambdas ← record.lambdas.mapM fun (name, lambda) => do
    let code ← resolve names .invoke lambda.code context
    return (name, (⟨code, lambda.captures⟩ : Lambda))
  return { enclosingType, implementation := record.implementation, bindings, lambdas }

/-- Resolves a parameter. -/
def param (names : NameRegistry) (context : String) (record : ParamRecord) :
    Except LoadError Param :=
  return ⟨record.name, ← resolveType names record.type context⟩

/-- Resolves the declaration of a callable. -/
def invoke (names : NameRegistry) (verify : Bool) (record : InvokeRecord) :
    Except LoadError Invoke := do
  let id ← resolve names .invoke record.key "invdecls"
  let params ← record.params.mapM (param names record.key)
  let result ← resolveType names record.result record.key
  let kind ← match record.kind with
    | .body b => InvokeKind.body <$> body verify record.key b
    | .primitive p => InvokeKind.primitive <$> primitive names record.key p
  return {
    id
    name := record.name
    file := record.file
    start := record.start
    stop := record.stop
    isRecursive := record.isRecursive
    params
    result
    kind }

/-- Resolves the declaration of a field. -/
def field (names : NameRegistry) (record : FieldRecord) : Except LoadError FieldDescriptor := do
  let id ← resolve names .field record.key "fielddecls"
  let declaredType ← resolveType names record.declaredType record.key
  return ⟨id, record.name, declaredType, record.isOptional⟩

end Load

end ProgramImage
