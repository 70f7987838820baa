import ProgramImage.Pattern.Language
import ProgramImage.Proofs.DistinctKeys
import ProgramImage.Proofs.LoadedRoots
import ProgramImage.Proofs.NumberedNames
import ProgramImage.Proofs.TableCounts

/-!
# The counts of a loaded program

The counts that a program reports are those of its document: nothing of a document is lost on
the way and nothing is counted twice. Names of types, source files and regular expressions that
are repeated count once, declarations and flavors cannot be repeated.

## Main definitions

* `Document.summary` counts what a document says.

## Main statements

* `Load.summary_of_load` is the agreement of both counts.
-/

namespace ProgramImage

/-- The counts that a document asks for. -/
def Document.summary (config : LoadConfig) (doc : Document) : ProgramSummary where
  typeIds := reservedNames.length +
    (doc.typeNames.filter fun name => name ∉ reservedNames).dedup.length
  descriptors := reservedNames.length + doc.types.length + doc.boxedTypes.length
  fields := doc.fieldNames.length
  invokes := doc.invokeNames.length
  listFlavors := doc.listFlavors.length
  mapFlavors := doc.mapFlavors.length
  regexes := (doc.regexes.map RegexRecord.text).dedup.length +
    (doc.validators.map ValidatorRecord.type).dedup.length
  validators := (doc.validators.map ValidatorRecord.type).dedup.length
  globalBytes := doc.globalSize.toNat
  heapObjects := doc.literals.countP LiteralRecord.isLongString
  sources := if config.keepSources then (doc.sources.map SourceRecord.file).dedup.length else 0

example : reservedNames.length = 26 := by decide

namespace Load

variable {σ : Type} {patterns : PatternLanguage} {config : LoadConfig} {initializer : Initializer σ}
  {state : σ} {doc : Document} {program : Program}

/-- The types of a program are the reserved ones and those with another name. -/
theorem types_count (run : Run patterns config doc program) :
    program.names.count .type = (doc.summary config).typeIds := by
  have hnumbered := names_typesNumbered run.names_ok
  rw [hnumbered.count_eq (names_types_mem_iff run.names_ok), ← NameRegistry.length_reservedNames]
  rfl

theorem types_populated (run : Run patterns config doc program) :
    program.types.populated = (doc.summary config).descriptors := by
  have hdeclared := (types_eq_ok_iff.mp run.types_ok).populated_eq
  have hboxed := (boxedTypes_eq_ok_iff.mp run.boxedTypes_ok).populated_eq
  have hreserved : reservedDescriptors.length = reservedNames.length := by
    simp [reservedDescriptors, reservedNames]
  rw [hboxed, hdeclared, TypeTable.populated_reserved, hreserved]
  rfl

theorem regexes_count (run : Run patterns config doc program) :
    program.regexes.validatorCount = (doc.summary config).validators ∧
      program.regexes.size = (doc.summary config).regexes := by
  obtain ⟨hnodup, hmem, hnone⟩ := regexes_keys run.regexes_ok
  obtain ⟨-, -, htexts⟩ := validators_keys hnone run.validators_ok
  have hvalidated := validated_length (names_typesNumbered run.names_ok) hnone run.validators_ok
  have hliteral := length_eq_dedup hnodup hmem
  rw [RegexTable.validatorCount_eq, RegexTable.size_eq, htexts, hvalidated, hliteral]
  exact ⟨rfl, rfl⟩

/-- The counts of a loaded program are those of its document, and the types that have a name only
    are the rest. -/
theorem summary_of_load (hload : (load patterns config initializer state doc).outcome = .ok program)
    (hcode : RunsNoCode initializer doc) :
    program.summary = doc.summary config ∧
      program.types.missing.length + program.summary.descriptors = program.summary.typeIds := by
  obtain ⟨run⟩ := static_eq_ok_iff.mp (static_of_load hload hcode)
  have hholds := holds_of_run run
  obtain ⟨hvalidators, hregexes⟩ := regexes_count run
  obtain ⟨hlists, hnoMaps⟩ := listFlavors_length run.listFlavors_ok
  obtain ⟨hmaps, hkept⟩ := mapFlavors_length run.mapFlavors_ok
  have htypes : program.types.size = (doc.summary config).typeIds := by
    rw [hholds.types.size_eq, types_count run]
  have hfields : program.names.count .field = doc.fieldNames.length := by
    rw [← hholds.fieldNames_eq, Array.length_toList]
    rfl
  have hlistCount : program.flavors.lists.length = doc.listFlavors.length := by
    simp [hkept, hlists, Flavors.empty]
  have hmapCount : program.flavors.maps.length = doc.mapFlavors.length := by
    simp [hmaps, hnoMaps, Flavors.empty]
  constructor
  · unfold Program.summary
    rw [htypes, types_populated run, hfields, hholds.invokes.size_eq, hlistCount, hmapCount,
      hregexes, hvalidators, globals_size_of_run run, heap_count_of_load hload hcode,
      sources_size run.sources_ok]
    rfl
  · exact program.types.missing_add_populated

/-- A document in which source files, names, regular expressions and validators are repeated. -/
def repeatedEntries : Document :=
  { crossReferences with
    sources := [⟨"main.bsq", "one"⟩, ⟨"lib.bsq", "two"⟩, ⟨"main.bsq", "three"⟩]
    globalSize := 40
    typeNames := crossReferences.typeNames ++ ["Nat", "Point", "Opaque"]
    literals := [⟨8, "String", "\"short\""⟩, ⟨24, "String", "\"0123456789abcdef\""⟩]
    regexes := [⟨"a", "a"⟩, ⟨"b", "b"⟩, ⟨"a", "c"⟩]
    validators := [⟨"String", ⟨"a", "a"⟩⟩, ⟨"Point", ⟨"b", "b"⟩⟩, ⟨"String", ⟨"c", "c"⟩⟩] }

/-- Ten names of types beside the reserved ones, of which three have no descriptor. -/
theorem summary_of_repeatedEntries :
    ∃ program, (load .basic .standard .deferring [] repeatedEntries).outcome = .ok program ∧
      program.summary = ⟨36, 33, 3, 3, 1, 1, 4, 2, 40, 1, 2⟩ ∧
      program.types.missing.length + program.summary.descriptors = program.summary.typeIds := by
  have hok : (load .basic .standard .deferring [] repeatedEntries).outcome.isOk = true := by
    decide +kernel
  obtain ⟨program, hload⟩ := Except.exists_of_isOk hok
  obtain ⟨hsummary, hmissing⟩ :=
    summary_of_load hload (.inr Initializer.keepsMemory_deferring)
  refine ⟨program, hload, ?_, hmissing⟩
  rw [hsummary]
  decide +kernel

end Load

end ProgramImage
