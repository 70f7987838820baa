import Mathlib.Data.List.Forall2
import ProgramImage.Pattern.Language
import ProgramImage.Proofs.References

/-!
# Constants that are taken down

A constant passes a number of checks before it is computed: its callable and its type have to
be named, the callable has to be a body without parameters, the type has to be loaded, and the
value has to fit the global buffer. When constants are only taken down, a load succeeds if all
of them pass these checks, and takes down one after the other. Without an interpreter a load
succeeds only if there are no constants.

## Main definitions

* `Program.Requests` says that a constant passes the checks in a program.
* `ConstantRecord.IsComputable` says the same in terms of a document.

## Main statements

* `Load.requests_iff` and `Load.constant_of_requests` are a constant that passes the checks,
  whatever computes it.
* `Load.constants_deferring_iff` and `Load.constants_deferring_state` are a list of constants
  that are taken down.
* `Load.deferred_constants_exact` compares a load with that of the same document without its
  constants.
-/

namespace ProgramImage

/-! ### Checks -/

/-- A constant passes the checks of a program, for a callable and a type. -/
structure Program.Requests (program : Program) (record : ConstantRecord) (id : InvokeId)
    (tid : TypeId) (request : ConstantRequest) : Prop where
  invoke_ok : Load.resolve program.names .invoke record.invoke "constdecls" = .ok id
  type_ok : Load.resolveType program.names record.type "constdecls" = .ok tid
  request_ok :
    Constant.request program.invokes program.types record.offset.toNat id tid = .ok request
  slot_ok : Constant.checkSlot program.memory request = .ok ()

/-- A constant can be computed in the program of a document: its callable is declared with a
    body and without parameters, and stands for the last place of its name, its type has a
    descriptor, and its value fits the global buffer. -/
structure ConstantRecord.IsComputable (record : ConstantRecord) (doc : Document)
    (program : Program) (id : InvokeId) (tid : TypeId) : Prop where
  invoke_last : IsLastPlace doc.invokeNames record.invoke id.value
  type_named : program.names.resolve tid = some record.type
  is_body : ∃ declared ∈ doc.invokes, declared.key = record.invoke ∧ declared.params = [] ∧
    ∃ source, declared.kind = .body source
  fits : ∃ desc, program.types.type? tid = some desc ∧
    record.offset.toNat + desc.size.inlineSize ≤ doc.globalSize.toNat

theorem Constant.checkSlot_eq_ok_iff {memory : Memory} {request : ConstantRequest} :
    Constant.checkSlot memory request = .ok () ↔
      request.offset + request.type.size.inlineSize ≤ memory.globals.size := by
  rw [← GlobalStore.checkRange_eq_ok]
  unfold Constant.checkSlot
  cases memory.globals.checkRange request.offset request.type.size.inlineSize <;> simp

namespace Load

variable {patterns : PatternLanguage} {config : LoadConfig} {doc : Document} {program : Program}
  {record : ConstantRecord}

/-- A callable has a body when it is declared with one, and parameters when it is declared with
    some. -/
theorem invoke_shape {registry : NameRegistry} {verify : Bool} {record : InvokeRecord}
    {found : Invoke} (h : invoke registry verify record = .ok found) :
    (found.params = [] ↔ record.params = []) ∧
      ((∃ content, found.kind = .body content) ↔ ∃ source, record.kind = .body source) := by
  unfold invoke at h
  obtain ⟨id, -, h⟩ := Except.bind_eq_ok.mp h
  obtain ⟨params, hparams, h⟩ := Except.bind_eq_ok.mp h
  obtain ⟨result, -, h⟩ := Except.bind_eq_ok.mp h
  have hlength : params.length = record.params.length := (Except.mapM_eq_ok hparams).1
  have hnone : params = [] ↔ record.params = [] := by
    simp only [← List.length_eq_zero_iff, hlength]
  cases hkind : record.kind with
  | body source =>
    rw [hkind] at h
    obtain ⟨kind, hbody, h⟩ := Except.bind_eq_ok.mp h
    obtain ⟨content, -, rfl⟩ := Except.map_eq_ok.mp hbody
    cases h
    exact ⟨hnone, by simp⟩
  | primitive source =>
    rw [hkind] at h
    obtain ⟨kind, hprimitive, h⟩ := Except.bind_eq_ok.mp h
    obtain ⟨content, -, rfl⟩ := Except.map_eq_ok.mp hprimitive
    cases h
    exact ⟨hnone, by simp⟩

/-- The checks of a constant are those of its document. -/
theorem requests_iff (run : Run patterns config doc program) {id : InvokeId} {tid : TypeId} :
    (∃ request, program.Requests record id tid request) ↔
      record.IsComputable doc program id tid := by
  have hholds := holds_of_run run
  have hsize := globals_size_of_run run
  have hlast {name : String} {found : InvokeId} : program.names.lookup .invoke name = some found ↔
      IsLastPlace doc.invokeNames name found.value :=
    NameRegistry.lookup_iff_isLastPlace hholds.invokeNames_eq
  have hnamed : program.names.lookup .type record.type = some tid ↔
      program.names.resolve tid = some record.type :=
    hholds.typesNumbered.lookup_eq_some_iff
  constructor
  · rintro ⟨request, hinvoke, htype, hrequest, hslot⟩
    obtain ⟨invoke, desc, hfound, hbody, hparams, hdesc, rfl⟩ :=
      Constant.request_eq_ok_iff.mp hrequest
    have hplace := hlast.mp (resolve_eq_ok_iff.mp hinvoke)
    have hfits := Constant.checkSlot_eq_ok_iff.mp hslot
    rw [hsize] at hfits
    -- the callable at the number of the name is the one that is declared under it
    obtain ⟨declared, hdeclared, hkey, hresolved⟩ := hholds.invokes.origin _ _ hfound
    have hsame : declared.key = record.invoke :=
      Option.some.inj (hkey.getElem?_eq.symm.trans hplace.getElem?_eq)
    obtain ⟨hnone, hkind⟩ := invoke_shape hresolved
    exact ⟨hplace, hnamed.mp (resolve_eq_ok_iff.mp htype),
      ⟨declared, hdeclared, hsame, hnone.mp hparams, hkind.mp hbody⟩, ⟨desc, hdesc, hfits⟩⟩
  · rintro ⟨hplace, htype, ⟨declared, hdeclared, hkey, hparams, hbody⟩, ⟨desc, hdesc, hfits⟩⟩
    -- and the one that is declared under the name has its number
    obtain ⟨invoke, hresolved, hstored⟩ := hholds.invokes.stored declared hdeclared
    have hlookup := (invoke_refers hresolved).1
    rw [hkey, hlast.mpr hplace] at hlookup
    obtain rfl : id = invoke.id := Option.some.inj hlookup
    obtain ⟨hnone, hkind⟩ := invoke_shape hresolved
    rw [← hsize] at hfits
    exact ⟨⟨record.offset.toNat, desc, invoke⟩, resolve_eq_ok_iff.mpr (hlast.mpr hplace),
      resolve_eq_ok_iff.mpr (hnamed.mpr htype),
      Constant.request_eq_ok_iff.mpr
        ⟨invoke, desc, hstored, hkind.mpr hbody, hnone.mpr hparams, hdesc, rfl⟩,
      Constant.checkSlot_eq_ok_iff.mpr hfits⟩

/-! ### One constant -/

section Constants

variable {σ : Type} {initializer : Initializer σ} {state : σ}

/-- A constant that passes the checks is left to the initializer. -/
theorem constant_of_requests (initializer : Initializer σ) (state : σ) {id : InvokeId}
    {tid : TypeId} {request : ConstantRequest} (h : program.Requests record id tid request) :
    (constant initializer program state record).outcome =
        (match (initializer.run request state program.memory).1 with
        | .ok () =>
          .ok { program with memory := (initializer.run request state program.memory).2.2 }
        | .error trap =>
          .error (.constant record.offset.toNat (.trapped request.invoke.name trap))) ∧
      (constant initializer program state record).state =
        (initializer.run request state program.memory).2.1 := by
  unfold constant Constant.run
  simp only [bind, Except.bind, h.invoke_ok, h.type_ok, h.request_ok, pure, Except.pure, h.slot_ok]
  cases initializer.run request state program.memory with
  | mk result rest => cases result <;> exact ⟨rfl, rfl⟩

theorem constant_absent_ne_ok {later : Program} :
    (constant .absent program () record).outcome ≠ .ok later := by
  intro h
  obtain ⟨-, -, request, -, -, -, -, htrapped, -⟩ := constant_eq_ok h
  cases htrapped

theorem constant_absent {id : InvokeId} {tid : TypeId} {request : ConstantRequest}
    (h : program.Requests record id tid request) :
    ∃ trap, trap.kind = .fault ∧ (constant .absent program () record).outcome =
      .error (.constant record.offset.toNat (.trapped request.invoke.name trap)) := by
  have houtcome := (constant_of_requests .absent () h).1
  exact ⟨_, rfl, houtcome⟩

theorem constant_deferring (pending : List PendingConstant) {id : InvokeId} {tid : TypeId}
    {request : ConstantRequest} (h : program.Requests record id tid request) :
    (constant .deferring program pending record).outcome = .ok program ∧
      (constant .deferring program pending record).state =
        pending ++ [⟨request.offset, request.invoke.id, request.type.tid⟩] :=
  constant_of_requests .deferring pending h

/-! ### Lists of constants -/

theorem constants_cons (records : List ConstantRecord) :
    (constants initializer program state (record :: records)).outcome =
        ((constant initializer program state record).outcome >>= fun later =>
          (constants initializer later (constant initializer program state record).state
            records).outcome) := by
  rw [constants]
  dsimp only
  cases (constant initializer program state record).outcome <;> rfl

theorem constants_state_cons {records : List ConstantRecord} {later : Program}
    (h : (constant initializer program state record).outcome = .ok later) :
    (constants initializer program state (record :: records)).state =
      (constants initializer later (constant initializer program state record).state
        records).state := by
  rw [constants]
  dsimp only
  rw [h]

/-- Constants are taken down when all of them pass the checks. -/
theorem constants_deferring_iff {records : List ConstantRecord} {later : Program}
    {pending : List PendingConstant} :
    (constants .deferring program pending records).outcome = .ok later ↔
      program = later ∧
        ∀ record ∈ records, ∃ id tid request, program.Requests record id tid request := by
  induction records generalizing pending with
  | nil => simp [constants]
  | cons record records ih =>
    rw [constants_cons, Except.bind_eq_ok, List.forall_mem_cons]
    constructor
    · rintro ⟨next, hfirst, hrest⟩
      obtain ⟨id, tid, request, hid, htid, hrequest, hslot, -, -, rfl⟩ := constant_eq_ok hfirst
      obtain ⟨rfl, hothers⟩ := ih.mp hrest
      exact ⟨rfl, ⟨id, tid, request, hid, htid, hrequest, hslot⟩, hothers⟩
    · rintro ⟨rfl, ⟨id, tid, request, hrequests⟩, hothers⟩
      exact ⟨program, (constant_deferring pending hrequests).1, ih.mpr ⟨rfl, hothers⟩⟩

/-- Every constant that is taken down is one of the document, in their order. -/
theorem constants_deferring_state {records : List ConstantRecord} {later : Program}
    {pending : List PendingConstant}
    (h : (constants .deferring program pending records).outcome = .ok later) :
    ∃ taken, (constants .deferring program pending records).state = pending ++ taken ∧
      List.Forall₂ (fun record constant => ∃ id tid request,
        program.Requests record id tid request ∧
          constant = ⟨request.offset, request.invoke.id, request.type.tid⟩) records taken := by
  induction records generalizing pending with
  | nil => exact ⟨[], (List.append_nil pending).symm, .nil⟩
  | cons record records ih =>
    obtain ⟨-, hall⟩ := constants_deferring_iff.mp h
    obtain ⟨id, tid, request, hrequests⟩ := hall record List.mem_cons_self
    obtain ⟨hfirst, hstate⟩ := constant_deferring pending hrequests
    rw [constants_cons, hfirst, hstate] at h
    obtain ⟨taken, htaken, hothers⟩ := ih h
    refine ⟨_ :: taken, ?_, .cons ⟨id, tid, request, hrequests, rfl⟩ hothers⟩
    rw [constants_state_cons hfirst, hstate, htaken, List.append_assoc]
    rfl

/-- Without an interpreter a load has no constants. -/
theorem constants_absent_iff {records : List ConstantRecord} {later : Program} :
    (constants .absent program () records).outcome = .ok later ↔
      program = later ∧ records = [] := by
  cases records with
  | nil => simp [constants]
  | cons record records =>
    rw [constants_cons, Except.bind_eq_ok]
    constructor
    · rintro ⟨next, hfirst, -⟩
      exact absurd hfirst constant_absent_ne_ok
    · rintro ⟨-, ⟨⟩⟩

/-! ### Loads -/

theorem load_without_constants :
    (load patterns config initializer state { doc with constants := [] }).outcome = .ok program ↔
      (static patterns config doc).outcome = .ok program := by
  have hsame : static patterns config { doc with constants := [] } = static patterns config doc :=
    rfl
  rw [load_eq_ok_iff, hsame]
  simp [constants]

/-- The constants of a document that loads are taken down when they can all be computed in the
    program that it is without them. -/
theorem load_deferring_iff :
    (load patterns config .deferring [] doc).outcome = .ok program ↔
      (load patterns config .deferring [] { doc with constants := [] }).outcome = .ok program ∧
        ∀ record ∈ doc.constants, ∃ id tid, record.IsComputable doc program id tid := by
  have hcomputable (run : Run patterns config doc program) (record : ConstantRecord) :
      (∃ id tid request, program.Requests record id tid request) ↔
        ∃ id tid, record.IsComputable doc program id tid := by
    simp only [requests_iff run]
  rw [load_without_constants, load_eq_ok_iff]
  simp only [constants_deferring_iff]
  constructor
  · rintro ⟨first, hstatic, rfl, hall⟩
    obtain ⟨run⟩ := static_eq_ok_iff.mp hstatic
    exact ⟨hstatic, fun record hrecord => (hcomputable run record).mp (hall record hrecord)⟩
  · rintro ⟨hstatic, hall⟩
    obtain ⟨run⟩ := static_eq_ok_iff.mp hstatic
    exact ⟨program, hstatic, rfl,
      fun record hrecord => (hcomputable run record).mpr (hall record hrecord)⟩

/-- What is taken down are the constants of the document, in their order. -/
theorem load_deferring_state (h : (load patterns config .deferring [] doc).outcome = .ok program) :
    List.Forall₂ (fun record pending => pending.offset = record.offset.toNat ∧
        record.IsComputable doc program pending.invoke pending.type)
      doc.constants (load patterns config .deferring [] doc).state := by
  obtain ⟨first, hstatic, hconstants⟩ := load_eq_ok_iff.mp h
  obtain rfl : program = first := constants_keep Initializer.keepsMemory_deferring hconstants
  obtain ⟨run⟩ := static_eq_ok_iff.mp hstatic
  obtain ⟨taken, htaken, hall⟩ := constants_deferring_state hconstants
  rw [load_state run, htaken, List.nil_append]
  refine hall.imp ?_
  rintro record pending ⟨id, tid, request, hrequests, rfl⟩
  have hholds := holds_of_run run
  obtain ⟨invoke, desc, hfound, -, -, hdesc, rfl⟩ :=
    Constant.request_eq_ok_iff.mp hrequests.request_ok
  -- the numbers that are taken down are those that the names stand for
  obtain rfl : desc.tid = tid := TypeTable.tid_eq hholds.types.isPlaced hdesc
  obtain rfl : invoke.id = id := by
    have hplace : invoke.id.value = id.value := hholds.invokes.isPlaced id.value invoke hfound
    cases hid : invoke.id
    cases id
    simpa [hid] using hplace
  exact ⟨rfl, (requests_iff run).mp ⟨_, hrequests⟩⟩

/-- Without an interpreter the first constant that can be computed is where a load stops. -/
theorem load_absent_of_computable {record : ConstantRecord} {rest : List ConstantRecord}
    {id : InvokeId} {tid : TypeId} (hstatic : (static patterns config doc).outcome = .ok program)
    (hconstants : doc.constants = record :: rest)
    (hcomputable : record.IsComputable doc program id tid) :
    ∃ invoke trap, program.invokes.get? id.value = some invoke ∧ trap.kind = .fault ∧
      (load patterns config .absent () doc).outcome =
        .error (.constant record.offset.toNat (.trapped invoke.name trap)) := by
  obtain ⟨run⟩ := static_eq_ok_iff.mp hstatic
  obtain ⟨request, hrequests⟩ := (requests_iff run).mpr hcomputable
  obtain ⟨invoke, desc, hinvoke, -, -, -, rfl⟩ :=
    Constant.request_eq_ok_iff.mp hrequests.request_ok
  obtain ⟨trap, hfault, hfirst⟩ := constant_absent hrequests
  refine ⟨invoke, trap, hinvoke, hfault, ?_⟩
  rw [load_outcome, hstatic, hconstants]
  show (constants _ _ _ _).outcome = _
  rw [constants_cons, hfirst]
  rfl

end Constants

/-- Constants are taken down exactly. A load that takes them down succeeds with the program that
    the document is without them, just when each of them can be computed in that program, and
    takes them down in their order. Without an interpreter a load succeeds just when there are no
    constants, and a first constant that could be computed traps. -/
theorem deferred_constants_exact (patterns : PatternLanguage) (config : LoadConfig)
    (doc : Document) :
    (∀ program, (load patterns config .deferring [] doc).outcome = .ok program ↔
      (load patterns config .deferring [] { doc with constants := [] }).outcome = .ok program ∧
        ∀ record ∈ doc.constants, ∃ id tid, record.IsComputable doc program id tid) ∧
    (∀ program, (load patterns config .deferring [] doc).outcome = .ok program →
      List.Forall₂ (fun record pending => pending.offset = record.offset.toNat ∧
          record.IsComputable doc program pending.invoke pending.type)
        doc.constants (load patterns config .deferring [] doc).state) ∧
    (∀ program, (load patterns config .absent () doc).outcome = .ok program ↔
      (load patterns config .absent () { doc with constants := [] }).outcome = .ok program ∧
        doc.constants = []) ∧
    ∀ program record rest id tid,
      (load patterns config .absent () { doc with constants := [] }).outcome = .ok program →
      doc.constants = record :: rest → record.IsComputable doc program id tid →
      ∃ invoke trap, program.invokes.get? id.value = some invoke ∧ trap.kind = .fault ∧
        (load patterns config .absent () doc).outcome =
          .error (.constant record.offset.toNat (.trapped invoke.name trap)) := by
  refine ⟨fun program => load_deferring_iff, fun program => load_deferring_state, ?_, ?_⟩
  · intro program
    rw [load_eq_ok_iff, load_without_constants]
    simp [constants_absent_iff, and_comm]
  · intro program record rest id tid hload hconstants hcomputable
    exact load_absent_of_computable (load_without_constants.mp hload) hconstants hcomputable

/-- A document whose constant names a callable by a repeated name, and so by its last place. -/
theorem deferred_constants_of_crossReferences :
    ∃ program, (load .basic .standard .deferring [] crossReferences).outcome = .ok program ∧
      (load .basic .standard .deferring [] { crossReferences with constants := [] }).outcome =
        .ok program ∧
      (load .basic .standard .deferring [] crossReferences).state = [⟨0, ⟨2⟩, .nat⟩] ∧
      ConstantRecord.IsComputable ⟨0, "run", "Nat"⟩ crossReferences program ⟨2⟩ .nat ∧
      ∃ invoke trap, program.invokes.get? 2 = some invoke ∧ trap.kind = .fault ∧
        (load .basic .standard .absent () crossReferences).outcome =
          .error (.constant 0 (.trapped invoke.name trap)) := by
  have hok : (load .basic .standard .deferring [] crossReferences).outcome.isOk = true := by
    decide +kernel
  have hstate : (load .basic .standard .deferring [] crossReferences).state = [⟨0, ⟨2⟩, .nat⟩] := by
    decide +kernel
  obtain ⟨program, hload⟩ := Except.exists_of_isOk hok
  obtain ⟨hdeferring, htaken, -, habsent⟩ :=
    deferred_constants_exact .basic .standard crossReferences
  obtain ⟨hbare, -⟩ := (hdeferring program).mp hload
  have hpending := htaken program hload
  rw [hstate] at hpending
  cases hpending with
  | cons hfirst _ =>
    refine ⟨program, hload, hbare, hstate, hfirst.2, ?_⟩
    have hstatic := load_without_constants.mp hbare
    exact habsent program _ [] ⟨2⟩ .nat (load_without_constants.mpr hstatic) rfl hfirst.2

end Load

end ProgramImage
