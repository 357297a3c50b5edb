import QueryAssist.Query.Clause
import QueryAssist.Query.TableReference
import QueryAssist.Query.Word
import QueryAssist.Text.Dictionary

/-!
# The context of a cursor

What the text before a cursor says about what may be typed there: the kind of completion, the
clause, the tables in scope with their aliases, and the current word.  `QueryContext.parse` reads
it off a text; `QueryContext.scopedTables` lists the tables in scope by every name they go by.
-/

namespace QueryAssist

open Text

/-- What kind of thing is expected at the cursor. -/
inductive ContextKind where
  | selectStart
  | selectComplete
  | source
  | condition
  | joinTarget
  | column
  | function
  | keyword
  | unknown
  deriving DecidableEq, Repr

/-- The context of a cursor in a query. -/
structure QueryContext where
  kind : ContextKind
  clause : Option String
  aliases : Dictionary String
  tables : List String
  cursor : Position
  precedingText : String
  currentWord : String
  wordSpan : Span
  deriving DecidableEq, Repr

/-! ## Classification -/

/-- The kind of completion in a clause, from the text after its keyword and the whole text before
the cursor. -/
def Clause.contextKind (clause : Clause) (following before : List Char) : ContextKind :=
  match clause with
  | .select =>
    if isAllBlank following then .selectStart
    else if before.getLast?.any isBlank && !Clause.sourceKeyword.occursIn before then
      .selectComplete
    else .column
  | .source => .source
  | .filter | .having | .joinCondition => .condition
  | .join => if Clause.joinConditionKeyword.occursIn following then .condition else .source
  | .grouping | .ordering => .column

/-- The last clause keyword of a text. -/
def Clause.lastKeyword? (before : List Char) : Option Match :=
  (Clause.keyword.findAll before).getLast?

/-- The kind of completion after a text, calls aside, and the label of the clause it is in. -/
def clauseContext (before : List Char) : ContextKind × Option String :=
  match Clause.lastKeyword? before with
  | none => (.keyword, none)
  | some found =>
    let label := Clause.label found.text
    match Clause.ofLabel? label with
    | some clause => (clause.contextKind found.after before, some label)
    | none => (.unknown, some label)

namespace QueryContext

/-- The context of a cursor in a text. -/
def parse (text : String) (cursor : Position) : QueryContext :=
  let offset := offsetAt text cursor
  let before := (splitAtByte offset text.toList).1
  let (kind, clause) := clauseContext before
  let references := TableReference.findAll before
  let word := currentWordAtOffset text offset cursor
  { kind := if insideOpenCall before then .function else kind
    clause
    aliases := Dictionary.ofList (references.map fun r => (r.aliasName, r.path))
    tables := (references.map (·.path)).eraseDups
    cursor
    precedingText := String.ofList before
    currentWord := word.text
    wordSpan := word.span }

/-! ## Scope -/

/-- The tables in scope, each with a name it goes by: first every table under its own name, then
every table under its alias, where the alias is another name. -/
def scopedTables (context : QueryContext) : List (String × String) :=
  context.tables.map (fun table => (table, table)) ++
    context.aliases.entries.filter fun entry => entry.1 ≠ entry.2

end QueryContext

end QueryAssist
