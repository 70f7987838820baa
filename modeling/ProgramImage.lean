import ProgramImage.Checkpoint
import ProgramImage.Command.Arguments
import ProgramImage.Command.Report
import ProgramImage.Command.Usage
import ProgramImage.Constant
import ProgramImage.Descriptor
import ProgramImage.Document.Basic
import ProgramImage.Document.Reader
import ProgramImage.Document.Writer
import ProgramImage.Flavors
import ProgramImage.GlobalStore
import ProgramImage.Header
import ProgramImage.Heap
import ProgramImage.ImageFile
import ProgramImage.Index
import ProgramImage.Invoke
import ProgramImage.Json.Basic
import ProgramImage.Json.Node
import ProgramImage.Json.NumberToken
import ProgramImage.Json.Parser
import ProgramImage.Json.Printer
import ProgramImage.Json.Reader
import ProgramImage.Json.StringToken
import ProgramImage.Keyed
import ProgramImage.Literal
import ProgramImage.Load.Basic
import ProgramImage.Load.Config
import ProgramImage.Load.Error
import ProgramImage.Load.Event
import ProgramImage.Load.Phases
import ProgramImage.Load.Resolve
import ProgramImage.Load.Traced
import ProgramImage.Main
import ProgramImage.Mask
import ProgramImage.Memory
import ProgramImage.Names
import ProgramImage.Number.Digits
import ProgramImage.Number.Double
import ProgramImage.Number.DoubleText
import ProgramImage.Number.LittleEndian
import ProgramImage.Pattern.Blueprint
import ProgramImage.Pattern.Class
import ProgramImage.Pattern.Escape
import ProgramImage.Pattern.Flags
import ProgramImage.Pattern.Language
import ProgramImage.Pattern.LiteralTrie
import ProgramImage.Pattern.Match
import ProgramImage.Pattern.Memo
import ProgramImage.Pattern.Normal
import ProgramImage.Pattern.Parser
import ProgramImage.Pattern.Plain
import ProgramImage.Pattern.Size
import ProgramImage.Pattern.Spelling
import ProgramImage.Pattern.Syntax
import ProgramImage.Pattern.Tables
import ProgramImage.Program
import ProgramImage.Proofs.DeclarationOrder
import ProgramImage.Proofs.DeclaredSlots
import ProgramImage.Proofs.DeferredConstants
import ProgramImage.Proofs.DistinctKeys
import ProgramImage.Proofs.DocumentFormat
import ProgramImage.Proofs.Failures
import ProgramImage.Proofs.FlavorRecords
import ProgramImage.Proofs.FlavorRun
import ProgramImage.Proofs.FormatEdits
import ProgramImage.Proofs.GlobalBuffer
import ProgramImage.Proofs.HeaderFields
import ProgramImage.Proofs.HeaderWords
import ProgramImage.Proofs.HeapLimit
import ProgramImage.Proofs.HeapMasks
import ProgramImage.Proofs.HeapRun
import ProgramImage.Proofs.JsonValues
import ProgramImage.Proofs.KeyedOrder
import ProgramImage.Proofs.KeyedRun
import ProgramImage.Proofs.LiteralEffect
import ProgramImage.Proofs.LiteralLayout
import ProgramImage.Proofs.LiteralRun
import ProgramImage.Proofs.LoadRun
import ProgramImage.Proofs.LoadedFlavors
import ProgramImage.Proofs.LoadedGlobals
import ProgramImage.Proofs.LoadedRegexes
import ProgramImage.Proofs.LoadedRoots
import ProgramImage.Proofs.LoadedStrings
import ProgramImage.Proofs.MaskOffsets
import ProgramImage.Proofs.MaskText
import ProgramImage.Proofs.MaskWalk
import ProgramImage.Proofs.NameLists
import ProgramImage.Proofs.NumberedNames
import ProgramImage.Proofs.Numerals
import ProgramImage.Proofs.Outcome
import ProgramImage.Proofs.PatternMeaning
import ProgramImage.Proofs.PatternReaders
import ProgramImage.Proofs.PatternSearch
import ProgramImage.Proofs.PatternText
import ProgramImage.Proofs.PhaseEvents
import ProgramImage.Proofs.PhaseOrder
import ProgramImage.Proofs.PhaseSteps
import ProgramImage.Proofs.ReadRecords
import ProgramImage.Proofs.RecordFields
import ProgramImage.Proofs.References
import ProgramImage.Proofs.RegexRun
import ProgramImage.Proofs.Resolution
import ProgramImage.Proofs.RootRegion
import ProgramImage.Proofs.RootScan
import ProgramImage.Proofs.Settings
import ProgramImage.Proofs.SlotCodec
import ProgramImage.Proofs.StringForms
import ProgramImage.Proofs.Summary
import ProgramImage.Proofs.TableCounts
import ProgramImage.Proofs.TableRun
import ProgramImage.Proofs.TypeNames
import ProgramImage.Proofs.Utf8Positions
import ProgramImage.Proofs.VerifiedMasks
import ProgramImage.Proofs.WholeMatch
import ProgramImage.Proofs.WholeNumbers
import ProgramImage.Proofs.WrittenDocuments
import ProgramImage.Proofs.WrittenValues
import ProgramImage.Regexes
import ProgramImage.Reserved
import ProgramImage.SlotTable
import ProgramImage.Sources
import ProgramImage.StringSlot
import ProgramImage.Text.Blank
import ProgramImage.Text.Column
import ProgramImage.Text.Escaped
import ProgramImage.Text.Hex
import ProgramImage.Text.Lines
import ProgramImage.Text.Quoted
import ProgramImage.Text.Ranges
import ProgramImage.Text.Utf8
import ProgramImage.Trap
import ProgramImage.Proofs.BufferAccess
import ProgramImage.Proofs.TableInserts
