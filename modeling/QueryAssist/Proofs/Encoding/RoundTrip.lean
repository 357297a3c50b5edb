import QueryAssist.Encoding.Context
import QueryAssist.Encoding.Dialect
import QueryAssist.Encoding.Schema
import QueryAssist.Encoding.Suggestion
import QueryAssist.Proofs.Data.Record
import QueryAssist.Proofs.Text.Dictionary

/-!
# The round trip of the data model

Schemas, functions, completion lists and contexts are written as data and read back.  For every type
`keeps` says that its members are those of its shape, in their order, and that nothing is lost when
they are read.  The types follow from the inside out: positions and columns first, whole schemas and
contexts last.

* `encodings_keep` — **every type of the data model is written by its shape and read back as it
  was.**
-/

namespace QueryAssist

open Value

attribute [local simp] get? Entries.lookup_cons List.lookup_append lookup_member?

/-! ## Positions -/

/-- Line and column numbers are read back: they have 32 bits. -/
theorem readsBack_index : ReadsBack (fun n : UInt32 => .natural n.toNat) asIndex := by
  refine ⟨fun _ => trivial, fun n => ?_⟩
  have hbound : n.toNat < Word.bound32 := n.toNat_lt
  have hbelow : asBelow Word.bound32 "u32" (.natural n.toNat) = .ok n.toNat := by
    rw [natural, asBelow, if_pos (by simpa using hbound)]
    rfl
  rw [asIndex, hbelow]
  exact congrArg Except.ok UInt32.ofNat_toNat

namespace Position

theorem keeps : shape.Keeps encode decode := by
  refine RecordShape.keeps_of_fits ?fits (by decide) ?reads
  case fits =>
    intro position
    exact .given (.given .nil)
  case reads =>
    intro position members hmembers hlookup
    have hline := readsBack_index.required ((hlookup "line").trans rfl)
    have hcolumn := readsBack_index.required ((hlookup "column").trans rfl)
    rw [decode, hmembers]
    simp only [hline, hcolumn, bind, Except.bind, pure, Except.pure]

end Position

namespace Span

theorem keeps : shape.Keeps encode decode := by
  refine RecordShape.keeps_of_fits ?fits (by decide) ?reads
  case fits =>
    intro span
    exact .given (.given .nil)
  case reads =>
    intro span members hmembers hlookup
    have hstart := Position.keeps.readsBack.required ((hlookup "start").trans rfl)
    have hstop := Position.keeps.readsBack.required ((hlookup "end").trans rfl)
    rw [decode, hmembers]
    simp only [hstart, hstop, bind, Except.bind, pure, Except.pure]

end Span

/-! ## Tables -/

namespace Column

theorem keeps : shape.Keeps encode decode := by
  refine RecordShape.keeps_of_fits ?fits (by decide) ?reads
  case fits =>
    intro column
    exact ((FitsFields.given (.given (.given .nil))).append (.member? "default" .text _)).append
      (.member? "comment" .text _)
  case reads =>
    intro column members hmembers hlookup
    have hname := readsBack_text.required ((hlookup "name").trans rfl)
    have hdataType := readsBack_text.required ((hlookup "type").trans rfl)
    have hnullable : Decoded.orDefault members "nullable" asBool false = .ok column.nullable :=
      readsBack_bool.orDefault ((hlookup "nullable").trans rfl)
    have hdefault : Decoded.optional members "default" asText = .ok column.defaultValue :=
      readsBack_text.optional ((hlookup "default").trans (by simp [encode]))
    have hcomment : Decoded.optional members "comment" asText = .ok column.comment :=
      readsBack_text.optional ((hlookup "comment").trans (by simp [encode]))
    rw [decode, hmembers]
    simp only [hname, hdataType, hnullable, hdefault, hcomment, bind, Except.bind, pure,
      Except.pure]

end Column

namespace Index

theorem keeps : shape.Keeps encode decode := by
  refine RecordShape.keeps_of_fits ?fits (by decide) ?reads
  case fits =>
    intro index
    exact .given (.given (.given .nil))
  case reads =>
    intro index members hmembers hlookup
    have hname := readsBack_text.required ((hlookup "name").trans rfl)
    have hcolumns := readsBack_texts.required ((hlookup "columns").trans rfl)
    have hunique : Decoded.orDefault members "unique" asBool false = .ok index.unique :=
      readsBack_bool.orDefault ((hlookup "unique").trans rfl)
    rw [decode, hmembers]
    simp only [hname, hcolumns, hunique, bind, Except.bind, pure, Except.pure]

end Index

theorem readsBack_columns : ReadsBack encodeColumns (asList Column.decode) :=
  Column.keeps.readsBack.list

theorem readsBack_indexes : ReadsBack encodeIndexes (asList Index.decode) :=
  Index.keeps.readsBack.list

namespace Table

theorem keeps : shape.Keeps encode decode := by
  refine RecordShape.keeps_of_fits ?fits (by decide) ?reads
  case fits =>
    intro table
    exact ((FitsFields.given (.given (.given .nil))).append
      (.member? "indexes" encodeIndexes _)).append (.member? "primary_key" .texts _)
  case reads =>
    intro table members hmembers hlookup
    have hdatabase := readsBack_text.required ((hlookup "database").trans rfl)
    have hname := readsBack_text.required ((hlookup "name").trans rfl)
    have hcolumns : Decoded.orDefault members "columns" (asList Column.decode) [] =
        .ok table.columns := readsBack_columns.orDefault ((hlookup "columns").trans rfl)
    have hindexes : Decoded.optional members "indexes" (asList Index.decode) = .ok table.indexes :=
      readsBack_indexes.optional ((hlookup "indexes").trans (by simp [encode]))
    have hprimaryKey : Decoded.optional members "primary_key" (asList asText) =
        .ok table.primaryKey :=
      readsBack_texts.optional ((hlookup "primary_key").trans (by simp [encode]))
    rw [decode, hmembers]
    simp only [hdatabase, hname, hcolumns, hindexes, hprimaryKey, bind, Except.bind, pure,
      Except.pure]

end Table

/-! ## Schemas and schema documents -/

namespace Schema

theorem keeps : shape.Keeps encode decode := by
  refine RecordShape.keeps_of_fits ?fits (by decide) ?reads
  case fits =>
    intro schema
    exact .given (.given (.given (.given .nil)))
  case reads =>
    intro schema members hmembers hlookup
    have hdatabases := readsBack_texts.required ((hlookup "databases").trans rfl)
    have htables := Table.keeps.readsBack.members.required ((hlookup "tables").trans rfl)
    have hfunctions : Decoded.orDefault members "functions" (asList asText) [] =
        .ok schema.functions := readsBack_texts.orDefault ((hlookup "functions").trans rfl)
    have hkeywords : Decoded.orDefault members "keywords" (asList asText) [] =
        .ok schema.keywords := readsBack_texts.orDefault ((hlookup "keywords").trans rfl)
    rw [decode, hmembers]
    simp only [hdatabases, htables, hfunctions, hkeywords, bind, Except.bind, pure, Except.pure,
      NameSet.ofNames_keys, Dictionary.ofList_entries]

end Schema

namespace TableDocument

theorem keeps : shape.Keeps encode decode := by
  refine RecordShape.keeps_of_fits ?fits (by decide) ?reads
  case fits =>
    intro table
    exact ((FitsFields.given (.given .nil)).append (.member? "primary_key" .texts _)).append
      (.member? "indexes" encodeIndexes _)
  case reads =>
    intro table members hmembers hlookup
    have hname := readsBack_text.required ((hlookup "name").trans rfl)
    have hcolumns : Decoded.orDefault members "columns" (asList Column.decode) [] =
        .ok table.columns := readsBack_columns.orDefault ((hlookup "columns").trans rfl)
    have hprimaryKey : Decoded.optional members "primary_key" (asList asText) =
        .ok table.primaryKey :=
      readsBack_texts.optional ((hlookup "primary_key").trans (by simp [encode]))
    have hindexes : Decoded.optional members "indexes" (asList Index.decode) = .ok table.indexes :=
      readsBack_indexes.optional ((hlookup "indexes").trans (by simp [encode]))
    rw [decode, hmembers]
    simp only [hname, hcolumns, hprimaryKey, hindexes, bind, Except.bind, pure, Except.pure]

end TableDocument

namespace DatabaseDocument

theorem keeps : shape.Keeps encode decode := by
  refine RecordShape.keeps_of_fits ?fits (by decide) ?reads
  case fits =>
    intro database
    exact .given (.given .nil)
  case reads =>
    intro database members hmembers hlookup
    have hname := readsBack_text.required ((hlookup "name").trans rfl)
    have htables : Decoded.orDefault members "tables" (asList TableDocument.decode) [] =
        .ok database.tables :=
      TableDocument.keeps.readsBack.list.orDefault ((hlookup "tables").trans rfl)
    rw [decode, hmembers]
    simp only [hname, htables, bind, Except.bind, pure, Except.pure]

end DatabaseDocument

namespace SchemaDocument

theorem keeps : shape.Keeps encode decode := by
  refine RecordShape.keeps_of_fits ?fits (by decide) ?reads
  case fits =>
    intro document
    exact .given .nil
  case reads =>
    intro document members hmembers hlookup
    have hdatabases : Decoded.orDefault members "databases" (asList DatabaseDocument.decode) [] =
        .ok document.databases :=
      DatabaseDocument.keeps.readsBack.list.orDefault ((hlookup "databases").trans rfl)
    rw [decode, hmembers]
    simp only [hdatabases, bind, Except.bind, pure, Except.pure]

end SchemaDocument

/-! ## Functions -/

theorem FunctionKind.readsBack :
    ReadsBack (fun kind => .text (FunctionKind.name kind)) FunctionKind.decode :=
  ⟨fun _ => trivial, fun kind => asVariant_text (by cases kind <;> rfl)⟩

namespace SqlFunction

theorem keeps : shape.Keeps encode decode := by
  refine RecordShape.keeps_of_fits ?fits (by decide) ?reads
  case fits =>
    intro f
    exact .given (.given (.given (.given .nil)))
  case reads =>
    intro f members hmembers hlookup
    have hname := readsBack_text.required ((hlookup "name").trans rfl)
    have hkind := FunctionKind.readsBack.required ((hlookup "function_type").trans rfl)
    have hsignature := readsBack_text.optional_orNull ((hlookup "signature").trans rfl)
    have hdescription := readsBack_text.optional_orNull ((hlookup "description").trans rfl)
    rw [decode, hmembers]
    simp only [hname, hkind, hsignature, hdescription, bind, Except.bind, pure, Except.pure]

end SqlFunction

/-! ## Suggestions -/

theorem SuggestionKind.readsBack :
    ReadsBack (fun kind => .text (SuggestionKind.name kind)) SuggestionKind.decode :=
  ⟨fun _ => trivial, fun kind => asVariant_text (by cases kind <;> rfl)⟩

namespace Suggestion

theorem keeps : shape.Keeps encode decode := by
  refine RecordShape.keeps_of_fits ?fits (by decide) ?reads
  case fits =>
    intro item
    exact ((((FitsFields.given (.given (.given .nil))).append (.member? "detail" .text _)).append
      (.member? "documentation" .text _)).append (.given .nil)).append
        (.member? "range" Span.encode _)
  case reads =>
    intro item members hmembers hlookup
    have hlabel := readsBack_text.required ((hlookup "label").trans rfl)
    have hkind := SuggestionKind.readsBack.required ((hlookup "kind").trans rfl)
    have hinsertText := readsBack_text.required ((hlookup "insertText").trans rfl)
    have hdetail : Decoded.optional members "detail" asText = .ok item.detail :=
      readsBack_text.optional ((hlookup "detail").trans (by simp [encode]))
    have hdocumentation : Decoded.optional members "documentation" asText =
        .ok item.documentation :=
      readsBack_text.optional ((hlookup "documentation").trans (by simp [encode]))
    have hsortText : Decoded.required members "sortText" asText = .ok item.sortText :=
      readsBack_text.required ((hlookup "sortText").trans (by simp [encode]))
    have hspan : Decoded.optional members "range" Span.decode = .ok item.span :=
      Span.keeps.readsBack.optional ((hlookup "range").trans (by simp [encode]))
    rw [decode, hmembers]
    simp only [hlabel, hkind, hinsertText, hdetail, hdocumentation, hsortText, hspan, bind,
      Except.bind, pure, Except.pure]

/-- A completion list is a record with one member. -/
theorem keeps_list : listShape.Keeps encodeList decodeList := by
  refine RecordShape.keeps_of_fits ?fits (by decide) ?reads
  case fits =>
    intro items
    exact .given .nil
  case reads =>
    intro items members hmembers hlookup
    have hsuggestions := keeps.readsBack.list.required ((hlookup "suggestions").trans rfl)
    rw [decodeList, hmembers]
    exact hsuggestions

end Suggestion

/-! ## Contexts -/

theorem ContextKind.readsBack :
    ReadsBack (fun kind => .text (ContextKind.name kind)) ContextKind.decode :=
  ⟨fun _ => trivial, fun kind => asVariant_text (by cases kind <;> rfl)⟩

namespace QueryContext

theorem keeps : shape.Keeps encode decode := by
  refine RecordShape.keeps_of_fits ?fits (by decide) ?reads
  case fits =>
    intro context
    exact .given (.given (.given (.given (.given (.given (.given (.given .nil)))))))
  case reads =>
    intro context members hmembers hlookup
    have hkind := ContextKind.readsBack.required ((hlookup "type").trans rfl)
    have hclause := readsBack_text.optional_orNull ((hlookup "currentClause").trans rfl)
    have haliases := readsBack_text.members.required ((hlookup "tableAliases").trans rfl)
    have htables := readsBack_texts.required ((hlookup "availableTables").trans rfl)
    have hcursor := Position.keeps.readsBack.required ((hlookup "cursorPosition").trans rfl)
    have hprecedingText := readsBack_text.required ((hlookup "precedingText").trans rfl)
    have hcurrentWord := readsBack_text.required ((hlookup "currentWord").trans rfl)
    have hwordSpan := Span.keeps.readsBack.required ((hlookup "wordRange").trans rfl)
    rw [decode, hmembers]
    simp only [hkind, hclause, haliases, htables, hcursor, hprecedingText, hcurrentWord, hwordSpan,
      bind, Except.bind, pure, Except.pure, Dictionary.ofList_entries]

end QueryContext

/-! ## The whole data model -/

/-- **Every type of the data model is written by its shape and read back as it was**: schemas,
tables, columns, indexes, functions, schema documents, suggestions, completion lists and contexts.
A list of indexes or key columns that is absent and one that is empty stay apart.  What was read
from any other value, with defaults in place of missing members, is kept as well. -/
theorem encodings_keep :
    Schema.shape.Keeps Schema.encode Schema.decode ∧
    Table.shape.Keeps Table.encode Table.decode ∧
    Column.shape.Keeps Column.encode Column.decode ∧
    Index.shape.Keeps Index.encode Index.decode ∧
    SqlFunction.shape.Keeps SqlFunction.encode SqlFunction.decode ∧
    SchemaDocument.shape.Keeps SchemaDocument.encode SchemaDocument.decode ∧
    Suggestion.shape.Keeps Suggestion.encode Suggestion.decode ∧
    Suggestion.listShape.Keeps Suggestion.encodeList Suggestion.decodeList ∧
    QueryContext.shape.Keeps QueryContext.encode QueryContext.decode := by
  exact ⟨Schema.keeps, Table.keeps, Column.keeps, Index.keeps, SqlFunction.keeps,
    SchemaDocument.keeps, Suggestion.keeps, Suggestion.keeps_list, QueryContext.keeps⟩

end QueryAssist
