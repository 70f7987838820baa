import ProgramImage.Pattern.Language
import ProgramImage.Proofs.LoadedGlobals

/-!
# What the settings of a load decide

The settings of a load only filter. When masks are verified, a load gives what it gives
without, or it stops at a mask that does not fit; whether source texts are kept decides about
these texts alone; and a load that succeeds does so under a higher limit of the global buffer.

## Main definitions

* `Verifies` compares the outcome of a computation that verifies masks with that of one that
  does not.

## Main statements

* `Load.load_verifies`, `Load.load_keepSources` and `Load.load_of_le` are the three settings one
  by one.
* `Load.load_of_settings` says what each of them changes in a load.
-/

namespace ProgramImage

/-- A load stopped at a mask that does not fit. -/
def LoadError.IsCoverage (error : LoadError) : Prop :=
  ∃ context covered expected, error = .maskCoverage context covered expected

/-- The outcome of a computation that verifies masks is that of one that does not, unless it
    stopped at a mask that does not fit. -/
def Verifies {α : Type} (verified lenient : Except LoadError α) : Prop :=
  verified = lenient ∨ ∃ error, verified = .error error ∧ error.IsCoverage

namespace Verifies

variable {α β σ : Type}

theorem refl (x : Except LoadError α) : Verifies x x :=
  .inl rfl

/-- A computation in two parts may be verified part by part. -/
theorem bind {x y : Except LoadError α} {f g : α → Except LoadError β} (hfirst : Verifies x y)
    (hnext : ∀ a, Verifies (f a) (g a)) : Verifies (x >>= f) (y >>= g) := by
  rcases hfirst with rfl | ⟨error, rfl, hcoverage⟩
  · cases x with
    | error error => exact .inl rfl
    | ok a => exact hnext a
  · exact .inr ⟨error, rfl, hcoverage⟩

theorem map {x y : Except LoadError α} (h : Verifies x y) (f : α → β) :
    Verifies (f <$> x) (f <$> y) := by
  rcases h with rfl | ⟨error, rfl, hcoverage⟩
  · exact .inl rfl
  · exact .inr ⟨error, rfl, hcoverage⟩

theorem foldlM {f g : σ → α → Except LoadError σ} (hstep : ∀ s x, Verifies (f s x) (g s x))
    (xs : List α) (s : σ) : Verifies (xs.foldlM f s) (xs.foldlM g s) := by
  induction xs generalizing s with
  | nil => exact .refl _
  | cons x xs ih =>
    simp only [List.foldlM_cons]
    exact (hstep s x).bind ih

end Verifies

namespace Load

variable {registry : NameRegistry}

/-! ### Verified masks -/

theorem checkCoverage_verifies (context : String) (mask : Mask) (expected : Coverage) :
    Verifies (checkCoverage true context mask expected)
      (checkCoverage false context mask expected) := by
  unfold checkCoverage
  cases expected.admits mask with
  | true => exact .refl _
  | false => exact .inr ⟨_, rfl, context, mask.covered, expected, rfl⟩

theorem sizeInfo_verifies (context : String) (record : SizeRecord) :
    Verifies (sizeInfo true context record) (sizeInfo false context record) := by
  unfold sizeInfo
  refine .bind (.refl _) fun inlineMask => .bind (.refl _) fun heapMask => ?_
  refine (checkCoverage_verifies _ _ _).bind fun _ => ?_
  cases heapMask with
  | none => exact .refl _
  | some mask => exact (checkCoverage_verifies _ _ _).bind fun _ => .refl _

theorem typeDescriptor_verifies (record : TypeRecord) :
    Verifies (typeDescriptor registry true record) (typeDescriptor registry false record) := by
  unfold typeDescriptor
  refine .bind (.refl _) fun tid => ?_
  exact (sizeInfo_verifies _ _).bind fun size => .refl _

theorem body_verifies (context : String) (record : BodyRecord) :
    Verifies (body true context record) (body false context record) := by
  unfold body
  refine .bind (.refl _) fun mixedMask => ?_
  exact (checkCoverage_verifies _ _ _).bind fun _ => .refl _

theorem invoke_verifies (record : InvokeRecord) :
    Verifies (invoke registry true record) (invoke registry false record) := by
  unfold invoke
  refine .bind (.refl _) fun id => .bind (.refl _) fun params => .bind (.refl _) fun result => ?_
  cases record.kind with
  | body source => exact ((body_verifies _ _).map _).bind fun _ => .refl _
  | primitive source => exact .refl _

/-- A table is filled alike when its declarations are. -/
theorem fill_verifies {ρ α : Type} [Declared α] {make other : SlotTable α → ρ → Traced α}
    (hmake : ∀ table record,
      Verifies (make table record).outcome (other table record).outcome)
    (table : SlotTable α) (records : List ρ) :
    Verifies (fill make table records).outcome (fill other table records).outcome := by
  unfold fill
  simp only [Traced.outcome_foldlM, Traced.outcome_bind]
  exact .foldlM (fun table record => (hmake table record).bind fun _ => .refl _) _ _

section Phases

variable (patterns : PatternLanguage) (config : LoadConfig)

theorem memory_verifies (size : Nat) (maskText : String) :
    Verifies (memory { config with verifyMasks := true } size maskText).outcome
      (memory { config with verifyMasks := false } size maskText).outcome := by
  unfold memory
  simp only [Traced.outcome_bind]
  refine .bind (.refl _) fun _ => ?_
  split
  · exact .refl _
  · simp only [Traced.outcome_bind, Traced.outcome_lift_id]
    refine .bind (.refl _) fun mask => ?_
    exact (checkCoverage_verifies _ _ _).bind fun _ => .refl _

theorem types_verifies (records : List TypeRecord) :
    Verifies (types { config with verifyMasks := true } registry records).outcome
      (types { config with verifyMasks := false } registry records).outcome := by
  unfold types
  simp only [Traced.outcome_bind]
  refine .bind (.refl _) fun _ => fill_verifies ?_ _ _
  intro table record
  simp only [Traced.outcome_bind, Traced.outcome_lift_id]
  exact (typeDescriptor_verifies record).bind fun _ => .refl _

theorem invokes_verifies (records : List InvokeRecord) :
    Verifies (invokes { config with verifyMasks := true } registry records).outcome
      (invokes { config with verifyMasks := false } registry records).outcome := by
  unfold invokes
  simp only [Traced.outcome_bind]
  refine .bind (.refl _) fun _ => fill_verifies ?_ _ _
  intro table record
  simpa only [Traced.outcome_lift_id] using invoke_verifies record

/-- The phases before the constants give what they give without verified masks, or stop at a
    mask that does not fit. -/
theorem static_verifies (doc : Document) :
    Verifies (static patterns { config with verifyMasks := true } doc).outcome
      (static patterns { config with verifyMasks := false } doc).outcome := by
  unfold static
  simp only [Traced.outcome_bind]
  refine .bind (.refl _) fun sources => ?_
  refine (memory_verifies config _ _).bind fun memory => ?_
  refine .bind (.refl _) fun named => ?_
  refine (types_verifies config _).bind fun declared => ?_
  refine .bind (.refl _) fun types => .bind (.refl _) fun lists => .bind (.refl _) fun flavors => ?_
  exact (invokes_verifies config _).bind fun invokes => .refl _

end Phases

variable {σ : Type} (patterns : PatternLanguage) (config : LoadConfig)
  (initializer : Initializer σ) (state : σ) (doc : Document)

/-- A load that verifies masks gives what it gives without, or stops at a mask that does not
    fit. -/
theorem load_verifies :
    let verified := load patterns { config with verifyMasks := true } initializer state doc
    let lenient := load patterns { config with verifyMasks := false } initializer state doc
    (verified.outcome = lenient.outcome ∧ verified.state = lenient.state) ∨
      ∃ error, verified.outcome = .error error ∧ error.IsCoverage := by
  rcases static_verifies patterns config doc with hsame | ⟨error, herror, hcoverage⟩
  · exact .inl (load_congr_static initializer state hsame)
  · refine .inr ⟨error, ?_, hcoverage⟩
    rw [load_outcome, herror]
    rfl

/-! ### Source texts -/

theorem sources_outcome (records : List SourceRecord) :
    (sources config records).outcome = .ok (if config.keepSources then
      records.foldl (fun sources record => sources.insert record.file record.contents) .empty
      else .empty) := by
  unfold sources
  split <;> rfl

variable (program : Program) (texts : Sources)

/-- A constant neither looks at source texts nor changes them. -/
theorem constant_withSources (record : ConstantRecord) :
    (constant initializer { program with sources := texts } state record).outcome =
        (constant initializer program state record).outcome.map ({ · with sources := texts }) ∧
      (constant initializer { program with sources := texts } state record).state =
        (constant initializer program state record).state := by
  unfold constant
  dsimp only
  split
  · exact ⟨rfl, rfl⟩
  · split
    · exact ⟨rfl, rfl⟩
    · split <;> exact ⟨rfl, rfl⟩

/-- What no constant looks at or changes in a program, no list of constants does. -/
theorem constants_map {change : Program → Program}
    (hchange : ∀ program state record,
      (constant initializer (change program) state record).outcome =
          (constant initializer program state record).outcome.map change ∧
        (constant initializer (change program) state record).state =
          (constant initializer program state record).state)
    (records : List ConstantRecord) :
    (constants initializer (change program) state records).outcome =
        (constants initializer program state records).outcome.map change ∧
      (constants initializer (change program) state records).state =
        (constants initializer program state records).state := by
  induction records generalizing program state with
  | nil => exact ⟨rfl, rfl⟩
  | cons record records ih =>
    obtain ⟨houtcome, hstate⟩ := hchange program state record
    unfold constants
    dsimp only
    rw [houtcome, hstate]
    cases (constant initializer program state record).outcome with
    | error error => exact ⟨rfl, rfl⟩
    | ok next => exact ih _ next

theorem static_keepSources :
    (static patterns { config with keepSources := false } doc).outcome =
      (static patterns { config with keepSources := true } doc).outcome.map
        ({ · with sources := .empty }) := by
  unfold static
  simp only [Traced.outcome_bind, sources_outcome, Except.map_bind]
  rfl

/-- A load that does not keep source texts gives what it gives with them, less the texts. -/
theorem load_keepSources :
    let bare := load patterns { config with keepSources := false } initializer state doc
    let full := load patterns { config with keepSources := true } initializer state doc
    bare.outcome = full.outcome.map ({ · with sources := .empty }) ∧ bare.state = full.state := by
  have hstatic := static_keepSources patterns config doc
  cases hfirst : (static patterns { config with keepSources := true } doc).outcome with
  | error error =>
    rw [hfirst] at hstatic
    refine ⟨?_, by rw [load_state_of_error hfirst, load_state_of_error hstatic]⟩
    rw [load_outcome, load_outcome, hfirst, hstatic]
    rfl
  | ok first =>
    rw [hfirst] at hstatic
    obtain ⟨houtcome, hstate⟩ := constants_map initializer state first
      (fun program state record => constant_withSources initializer state program .empty record)
      doc.constants
    obtain ⟨run⟩ := static_eq_ok_iff.mp hfirst
    obtain ⟨bareRun⟩ := static_eq_ok_iff.mp hstatic
    refine ⟨?_, by rw [load_state run, load_state bareRun, hstate]⟩
    rw [load_outcome, load_outcome, hfirst, hstatic]
    exact houtcome

/-! ### The limit of the global buffer -/

variable {config doc program}

theorem memory_of_le {larger size : Nat} {maskText : String} {made : Memory}
    (hle : config.maxGlobalBytes ≤ larger)
    (h : (memory config size maskText).outcome = .ok made) :
    (memory { config with maxGlobalBytes := larger } size maskText).outcome = .ok made := by
  obtain ⟨hsize, hmade⟩ := memory_eq_ok_iff.mp h
  exact memory_eq_ok_iff.mpr ⟨Nat.le_trans hsize hle, hmade⟩

/-- A buffer that is not too large is not too large for a higher limit either. -/
theorem load_of_le {larger : Nat} (hle : config.maxGlobalBytes ≤ larger)
    (h : (load patterns config initializer state doc).outcome = .ok program) :
    (load patterns { config with maxGlobalBytes := larger } initializer state doc).outcome =
      .ok program ∧
      (load patterns { config with maxGlobalBytes := larger } initializer state doc).state =
        (load patterns config initializer state doc).state := by
  obtain ⟨first, hstatic, -⟩ := load_eq_ok_iff.mp h
  obtain ⟨run⟩ := static_eq_ok_iff.mp hstatic
  have hlarger : (static patterns { config with maxGlobalBytes := larger } doc).outcome =
      .ok first :=
    static_eq_ok_iff.mpr ⟨{ run with memory_ok := memory_of_le hle run.memory_ok }⟩
  obtain ⟨houtcome, hstate⟩ := load_congr_static initializer state (hlarger.trans hstatic.symm)
  exact ⟨houtcome.trans h, hstate⟩

/-! ### All settings -/

/-- The settings only filter. A load with verified masks that succeeds does so without, with the
    same program; when the lenient load succeeds or fails, the verified one does the same or stops
    at a mask that does not fit. Without source texts a load does the same and its program differs
    in these only. A load that succeeds gives the same under a higher limit of the buffer. -/
theorem load_of_settings (patterns : PatternLanguage) (config : LoadConfig)
    (initializer : Initializer σ) (state : σ) (doc : Document) :
    (let verified := load patterns { config with verifyMasks := true } initializer state doc
      let lenient := load patterns { config with verifyMasks := false } initializer state doc
      (∀ program, verified.outcome = .ok program →
        lenient.outcome = .ok program ∧ lenient.state = verified.state) ∧
      (∀ program, lenient.outcome = .ok program → verified.outcome = .ok program ∨
        ∃ error, verified.outcome = .error error ∧ error.IsCoverage) ∧
      ∀ error, lenient.outcome = .error error → verified.outcome = .error error ∨
        ∃ error, verified.outcome = .error error ∧ error.IsCoverage) ∧
    (let bare := load patterns { config with keepSources := false } initializer state doc
      let full := load patterns { config with keepSources := true } initializer state doc
      bare.outcome = full.outcome.map ({ · with sources := .empty }) ∧
        bare.state = full.state) ∧
    ∀ program larger, config.maxGlobalBytes ≤ larger →
      (load patterns config initializer state doc).outcome = .ok program →
      (load patterns { config with maxGlobalBytes := larger } initializer state doc).outcome =
          .ok program ∧
        (load patterns { config with maxGlobalBytes := larger } initializer state doc).state =
          (load patterns config initializer state doc).state := by
  refine ⟨?_, load_keepSources patterns config initializer state doc, ?_⟩
  · have hverifies := load_verifies patterns config initializer state doc
    dsimp only at hverifies ⊢
    refine ⟨?_, ?_, ?_⟩
    · intro program hverified
      rcases hverifies with ⟨houtcome, hstate⟩ | ⟨error, herror, -⟩
      · exact ⟨houtcome.symm.trans hverified, hstate.symm⟩
      · rw [herror] at hverified
        cases hverified
    · intro program hlenient
      exact hverifies.imp (fun hsame => hsame.1.trans hlenient) id
    · intro error hlenient
      exact hverifies.imp (fun hsame => hsame.1.trans hlenient) id
  · intro program larger hle h
    exact load_of_le patterns initializer state hle h

/-- A document with a source text and a struct whose mask is shorter than the struct. -/
def shortMask : Document :=
  { Document.empty with
    sources := [⟨"main.bsq", "entity Pair"⟩]
    globalSize := 8
    typeNames := ["Pair"]
    types := [⟨"Pair", none, ⟨0, 16, 16, none, "1"⟩, .struct [] []⟩] }

/-- The standard settings without verified masks. -/
def lenientSettings : LoadConfig :=
  { LoadConfig.standard with verifyMasks := false }

/-- The document with the short mask loads as long as masks are not verified, also less its
    source and with a higher limit. Without the struct both loads give the same. A mask that is
    too long for the buffer stops either load, with an error of its own. -/
theorem load_of_shortMask :
    (∃ program, (load .basic lenientSettings .absent () shortMask).outcome = .ok program ∧
      program.sources.size = 1 ∧
      (∃ error, (load .basic .standard .absent () shortMask).outcome = .error error ∧
        error.IsCoverage) ∧
      (load .basic { lenientSettings with keepSources := false } .absent () shortMask).outcome =
        .ok { program with sources := .empty } ∧
      (load .basic { lenientSettings with maxGlobalBytes := 128 * 1024 * 1024 } .absent ()
        shortMask).outcome = .ok program) ∧
    (∃ program, (load .basic .standard .absent () { shortMask with types := [] }).outcome =
      .ok program ∧
      (load .basic lenientSettings .absent () { shortMask with types := [] }).outcome =
        .ok program) ∧
    (load .basic lenientSettings .absent () { shortMask with globalMask := "22" }).outcome.isOk =
      false ∧
      (load .basic .standard .absent () { shortMask with globalMask := "22" }).outcome.isOk =
        false := by
  refine ⟨?_, ?_, ?_⟩
  · have hok : (load .basic lenientSettings .absent () shortMask).outcome.toOption.any
        (fun program => program.sources.size == 1) = true := by
      decide +kernel
    have hfails : (load .basic .standard .absent () shortMask).outcome.isOk = false := by
      decide +kernel
    obtain ⟨program, hload, hsize⟩ := Except.exists_of_any hok
    obtain ⟨⟨-, hlenient, -⟩, ⟨hbare, -⟩, hlarger⟩ :=
      load_of_settings .basic lenientSettings .absent () shortMask
    refine ⟨program, hload, eq_of_beq hsize, ?_, ?_, (hlarger program _ (by decide) hload).1⟩
    · refine (hlenient program hload).resolve_left ?_
      intro hverified
      have hverified : (load .basic .standard .absent () shortMask).outcome = .ok program :=
        hverified
      rw [hverified] at hfails
      cases hfails
    · have hfull : (load .basic { lenientSettings with keepSources := true } .absent ()
          shortMask).outcome = .ok program := hload
      refine hbare.trans ?_
      rw [hfull]
      rfl
  · have hok : (load .basic .standard .absent () { shortMask with types := [] }).outcome.isOk =
        true := by
      decide +kernel
    obtain ⟨program, hload⟩ := Except.exists_of_isOk hok
    obtain ⟨⟨hverified, -, -⟩, -, -⟩ :=
      load_of_settings .basic .standard .absent () { shortMask with types := [] }
    exact ⟨program, hload, (hverified program hload).1⟩
  · have hfails : (load .basic lenientSettings .absent ()
        { shortMask with globalMask := "22" }).outcome.isOk = false := by
      decide +kernel
    refine ⟨hfails, ?_⟩
    obtain ⟨⟨-, -, herror⟩, -, -⟩ :=
      load_of_settings .basic .standard .absent () { shortMask with globalMask := "22" }
    cases hlenient : (load .basic lenientSettings .absent ()
        { shortMask with globalMask := "22" }).outcome with
    | ok program =>
      rw [hlenient] at hfails
      cases hfails
    | error error =>
      rcases herror error hlenient with hsame | ⟨other, hother, -⟩
      · exact congrArg Except.isOk hsame
      · exact congrArg Except.isOk hother

end Load

end ProgramImage
