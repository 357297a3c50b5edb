import QueryAssist.Catalog.Fetch
import QueryAssist.Proofs.Schema.Parts

/-!
# What a fetch brings

A fetch asks a catalog in three stages and puts the answers together.  This file says when it
fails, and what it brings otherwise.

* `askAll_of_ok`, `askAll_of_error` — several questions that are asked side by side.
* `Catalog.Fails` — the failures that a fetch does not survive: the list of databases, the list of
  tables of some database, or the columns of some table.
* `fetch_of_fails`, `fetch_of_not_fails` — a fetch in these two cases, the second with the questions
  it asks.
* `Catalog.Describes` — what a table in the schema has from the catalog; `find?_of_fetch` says which
  tables there are.
-/

namespace QueryAssist

namespace Catalog

/-! ## What a catalog lists -/

/-- The databases that a catalog lists. -/
def databaseNames (catalog : Catalog) : List String :=
  catalog.databases.toOption.getD []

/-- The tables that a catalog lists for a database. -/
def tableNames (catalog : Catalog) (database : String) : List String :=
  (catalog.tables database).toOption.getD []

/-- All tables that a catalog lists, each with its database, in their order. -/
def listed (catalog : Catalog) : List (String × String) :=
  catalog.databaseNames.flatMap fun database =>
    (catalog.tableNames database).map fun table => (database, table)

/-- What makes a fetch fail: the list of databases, the list of tables of a database that is listed,
or the columns of a table that is listed. -/
def Fails (catalog : Catalog) : Prop :=
  (∃ error, catalog.databases = .error error) ∨
    (∃ database ∈ catalog.databaseNames, ∃ error, catalog.tables database = .error error) ∨
    ∃ entry ∈ catalog.listed, ∃ error, catalog.columns entry.1 entry.2 = .error error

/-- What is known from an answer to an optional question: nothing if it failed. -/
def known {α : Type} : CatalogAnswer (Option α) → Option α
  | .ok value => value
  | .error _ => none

/-- A table of the schema is as a catalog describes the table listed under a database and a name. -/
structure Describes (catalog : Catalog) (entry : String × String) (table : Table) : Prop where
  database_eq : table.database = entry.1
  name_eq : table.name = entry.2
  columns_eq : catalog.columns entry.1 entry.2 = .ok table.columns
  primaryKey_eq : table.primaryKey = known (catalog.primaryKey entry.1 entry.2)
  indexes_eq : table.indexes = known (catalog.indexes entry.1 entry.2)

/-- The questions of a fetch about which no question fails that it needs: the databases once, the
tables once for every database listed, and columns, primary key and indexes once for every table
listed. -/
def completeCalls (catalog : Catalog) : List CatalogCall :=
  .databases :: catalog.databaseNames.map .tables ++ catalog.listed.flatMap fun entry =>
    [.columns entry.1 entry.2, .primaryKey entry.1 entry.2, .indexes entry.1 entry.2]

/-! ## Several answers -/

section

variable {α β : Type} {ask : α → Asked β} {members : List α}

/-- When all members can be told about, so can the list of them, and all questions are asked, whether
the catalog needs time or not. -/
theorem askAll_of_ok (catalog : Catalog) {g : α → β}
    (h : ∀ a ∈ members, (ask a).answer = .ok (g a)) :
    catalog.askAll ask members =
      ⟨.ok (members.map g), members.flatMap fun a => (ask a).calls⟩ := by
  induction members with
  | nil => rfl
  | cons a rest ih =>
    rw [askAll, h a List.mem_cons_self, ih fun b hb => h b (List.mem_cons_of_mem a hb)]
    rfl

/-- When a member cannot be told about, neither can the list of them. -/
theorem askAll_of_error (catalog : Catalog)
    (h : ∃ a ∈ members, ∃ error, (ask a).answer = .error error) :
    ∃ error, (catalog.askAll ask members).answer = .error error := by
  induction members with
  | nil =>
    obtain ⟨a, ha, -⟩ := h
    exact absurd ha List.not_mem_nil
  | cons a rest ih =>
    rw [askAll]
    cases hfirst : (ask a).answer with
    | error error => exact ⟨error, rfl⟩
    | ok b =>
      obtain ⟨c, hc, error, hfails⟩ := h
      rcases List.mem_cons.1 hc with rfl | hrest
      · exact nomatch hfirst.symm.trans hfails
      · obtain ⟨error, hfails⟩ := ih ⟨c, hrest, error, hfails⟩
        exact ⟨error, by simp only [hfails]; rfl⟩

/-- An answer that is no error is a value. -/
theorem ok_of_not_error {answer : CatalogAnswer α} (h : ¬ ∃ error, answer = .error error) :
    ∃ value, answer = .ok value := by
  cases answer with
  | ok value => exact ⟨value, rfl⟩
  | error error => exact absurd ⟨error, rfl⟩ h

end

end Catalog

/-! ## The stages -/

namespace Fetch.Progress

variable {catalog : Catalog}

/-- A fetch that has an outcome is done. -/
theorem eq_done_of_outcome? {progress : Progress} {outcome : CatalogAnswer Schema}
    (h : progress.outcome? = some outcome) : progress = .done outcome := by
  cases progress with
  | done own => exact congrArg done (Option.some.inj h)
  | _ => exact nomatch h

/-- A fetch that is done asks no more. -/
theorem finish_done (outcome : CatalogAnswer Schema) :
    (done outcome).finish catalog = (outcome, []) := by
  rw [finish]
  rfl

/-- A fetch that is not done goes through its next stage. -/
theorem finish_of_unfinished {progress : Progress} (unfinished : progress.outcome? = none) :
    progress.finish catalog =
      (((progress.advance catalog).finish catalog).1,
        progress.calls catalog ++ ((progress.advance catalog).finish catalog).2) := by
  rw [finish]
  split
  · next outcome h => simp [unfinished] at h
  · rfl

section

variable {α : Type} {next : α → Progress} {asked : Asked α}

/-- A stage whose questions are answered takes a fetch on. -/
theorem after_of_ok {a : α} (h : asked.answer = .ok a) : after next asked = (next a, asked.calls) := by
  rw [after, h]

/-- One that fails ends it. -/
theorem after_of_error {error : CatalogError} (h : asked.answer = .error error) :
    after next asked = (done (.error error), asked.calls) := by
  rw [after, h]

end

/-- A fetch that knows all tables asks for their details and puts the schema together. -/
theorem finish_tables (names : List String) (listing : List (String × String)) :
    (tables names listing).finish catalog =
      ((catalog.askAll catalog.askDetails listing).answer.map (Schema.ofParts names),
        (catalog.askAll catalog.askDetails listing).calls) := by
  rw [finish_of_unfinished rfl, advance, calls, stage]
  cases hanswer : (catalog.askAll catalog.askDetails listing).answer with
  | ok tables => rw [after_of_ok hanswer, finish_done, List.append_nil]; rfl
  | error error => rw [after_of_error hanswer, finish_done, List.append_nil]; rfl

/-- A fetch that knows the databases asks for their tables, and fails if that does. -/
theorem finish_databases_of_error {names : List String} {error : CatalogError}
    (h : (catalog.askAll catalog.askTables names).answer = .error error) :
    ((databases names).finish catalog).1 = .error error := by
  rw [finish_of_unfinished rfl, advance, stage, after_of_error h, finish_done]

/-- Otherwise it goes on with what it was told. -/
theorem finish_databases_of_ok {names : List String} {lists : List (List (String × String))}
    (h : (catalog.askAll catalog.askTables names).answer = .ok lists) :
    (databases names).finish catalog =
      (((tables names lists.flatten).finish catalog).1,
        (catalog.askAll catalog.askTables names).calls ++
          ((tables names lists.flatten).finish catalog).2) := by
  rw [finish_of_unfinished rfl, advance, calls, stage, after_of_ok h]

end Fetch.Progress

namespace Catalog

variable {catalog : Catalog}

/-! ## The answers of each stage -/

/-- The description of a table that is listed, whose columns are known. -/
def described (catalog : Catalog) (entry : String × String) : Table where
  database := entry.1
  name := entry.2
  columns := (catalog.columns entry.1 entry.2).toOption.getD []
  indexes := known (catalog.indexes entry.1 entry.2)
  primaryKey := known (catalog.primaryKey entry.1 entry.2)

theorem toOption_join {α : Type} (answer : CatalogAnswer (Option α)) :
    answer.toOption.join = known answer := by
  cases answer <;> rfl

/-- A table whose columns are known can be told about. -/
theorem askDetails_of_ok {entry : String × String} {columns : List Column}
    (h : catalog.columns entry.1 entry.2 = .ok columns) :
    (catalog.askDetails entry).answer = .ok (catalog.described entry) := by
  simp only [askDetails, ask, answer, described, h, toOption_join]
  rfl

theorem askDetails_of_error {entry : String × String} {error : CatalogError}
    (h : catalog.columns entry.1 entry.2 = .error error) :
    (catalog.askDetails entry).answer = .error error := by
  simp only [askDetails, ask, answer, h]
  rfl

/-- The description of a table is the only table that is as the catalog describes it. -/
theorem describes_iff {entry : String × String} {columns : List Column}
    (h : catalog.columns entry.1 entry.2 = .ok columns) {table : Table} :
    catalog.Describes entry table ↔ table = catalog.described entry := by
  constructor
  · rintro ⟨hdatabase, hname, hcolumns, hprimaryKey, hindexes⟩
    cases table
    simp only at hdatabase hname hcolumns hprimaryKey hindexes
    rw [described, hcolumns, hdatabase, hname, hprimaryKey, hindexes]
    rfl
  · rintro rfl
    refine ⟨rfl, rfl, ?_, rfl, rfl⟩
    rw [described, h]
    rfl

/-- A database whose tables are known can be told about. -/
theorem askTables_of_ok {database : String} {tables : List String}
    (h : catalog.tables database = .ok tables) :
    (catalog.askTables database).answer =
      .ok ((catalog.tableNames database).map (database, ·)) := by
  simp only [askTables, Asked.map, ask, answer, tableNames, h]
  rfl

theorem askTables_of_error {database : String} {error : CatalogError}
    (h : catalog.tables database = .error error) :
    (catalog.askTables database).answer = .error error := by
  simp only [askTables, Asked.map, ask, answer, h]
  rfl

/-! ## The whole fetch -/

/-- A fetch against a catalog that cannot list its databases fails. -/
theorem fetch_of_databases_error {error : CatalogError} (h : catalog.databases = .error error) :
    catalog.fetch.1 = .error error := by
  have hanswer : (catalog.ask .databases).answer = .error error := h
  rw [fetch, Fetch.Progress.finish_of_unfinished rfl, Fetch.Progress.advance, Fetch.Progress.stage,
    Fetch.Progress.after_of_error hanswer, Fetch.Progress.finish_done]

/-- A fetch against a catalog that lists its databases goes on with their tables. -/
theorem fetch_of_databases {names : List String} (h : catalog.databases = .ok names) :
    catalog.fetch =
      (((Fetch.Progress.databases names).finish catalog).1,
        .databases :: ((Fetch.Progress.databases names).finish catalog).2) := by
  have hanswer : (catalog.ask .databases).answer = .ok names := h
  rw [fetch, Fetch.Progress.finish_of_unfinished rfl, Fetch.Progress.advance, Fetch.Progress.calls,
    Fetch.Progress.stage, Fetch.Progress.after_of_ok hanswer]
  rfl

/-- When no list of tables fails, the lists are those of the catalog. -/
theorem askAll_askTables
    (h : ∀ database ∈ catalog.databaseNames, ∃ tables, catalog.tables database = .ok tables) :
    catalog.askAll catalog.askTables catalog.databaseNames =
      ⟨.ok (catalog.databaseNames.map fun database =>
          (catalog.tableNames database).map (database, ·)),
        catalog.databaseNames.map .tables⟩ := by
  have hanswer : ∀ database ∈ catalog.databaseNames, (catalog.askTables database).answer =
      .ok ((catalog.tableNames database).map (database, ·)) :=
    fun database hdatabase => (h database hdatabase).elim fun _ => askTables_of_ok
  rw [askAll_of_ok catalog hanswer]
  exact congrArg (Asked.mk _) List.map_eq_flatMap.symm

/-- **A fetch fails for any of the reasons in `Fails`.** -/
theorem fetch_of_fails (fails : catalog.Fails) : ∃ error, catalog.fetch.1 = .error error := by
  cases hdatabases : catalog.databases with
  | error error => exact ⟨error, fetch_of_databases_error hdatabases⟩
  | ok names =>
    obtain rfl : catalog.databaseNames = names := by rw [databaseNames, hdatabases]; rfl
    rw [fetch_of_databases hdatabases]
    by_cases htables :
      ∃ database ∈ catalog.databaseNames, ∃ error, catalog.tables database = .error error
    · obtain ⟨database, hdatabase, error, hfails⟩ := htables
      obtain ⟨error, hlists⟩ := askAll_of_error catalog
        ⟨database, hdatabase, error, askTables_of_error hfails⟩
      exact ⟨error, Fetch.Progress.finish_databases_of_error hlists⟩
    · -- the lists are complete, so that the columns of a table must be what fails
      obtain ⟨entry, hentry, error, hcolumns⟩ :
          ∃ entry ∈ catalog.listed, ∃ error, catalog.columns entry.1 entry.2 = .error error := by
        rcases fails with ⟨error, h⟩ | h | h
        · exact nomatch hdatabases.symm.trans h
        · exact absurd h htables
        · exact h
      have hlists := askAll_askTables fun database hdatabase =>
        ok_of_not_error fun h => htables ⟨database, hdatabase, h⟩
      obtain ⟨error, hdetails⟩ := askAll_of_error catalog
        ⟨entry, hentry, error, askDetails_of_error hcolumns⟩
      rw [Fetch.Progress.finish_databases_of_ok (congrArg Asked.answer hlists),
        Fetch.Progress.finish_tables]
      refine ⟨error, ?_⟩
      rw [listed, List.flatMap_def] at hdetails
      rw [hdetails]
      rfl

/-- **Otherwise it succeeds, with all questions asked once.** -/
theorem fetch_of_not_fails (complete : ¬ catalog.Fails) :
    catalog.fetch =
      (.ok (Schema.ofParts catalog.databaseNames (catalog.listed.map catalog.described)),
        catalog.completeCalls) := by
  simp only [Fails, not_or] at complete
  obtain ⟨hdatabases, htables, hcolumns⟩ := complete
  obtain ⟨names, hnames⟩ := ok_of_not_error hdatabases
  obtain rfl : catalog.databaseNames = names := by rw [databaseNames, hnames]; rfl
  have hlists := askAll_askTables fun database hdatabase =>
    ok_of_not_error fun h => htables ⟨database, hdatabase, h⟩
  have hdetails : ∀ entry ∈ catalog.listed,
      (catalog.askDetails entry).answer = .ok (catalog.described entry) :=
    fun entry hentry =>
      (ok_of_not_error fun h => hcolumns ⟨entry, hentry, h⟩).elim fun _ => askDetails_of_ok
  rw [fetch_of_databases hnames,
    Fetch.Progress.finish_databases_of_ok (congrArg Asked.answer hlists), hlists,
    Fetch.Progress.finish_tables, ← List.flatMap_def, ← listed, askAll_of_ok catalog hdetails]
  rfl

/-- A fetch fails exactly for the reasons in `Fails`. -/
theorem fetch_fails_iff : (∃ error, catalog.fetch.1 = .error error) ↔ catalog.Fails := by
  constructor
  · rintro ⟨error, h⟩
    by_cases fails : catalog.Fails
    · exact fails
    · rw [fetch_of_not_fails fails] at h
      exact nomatch h
  · exact fetch_of_fails

/-- A fetch that succeeds brings the databases and tables that are listed. -/
theorem fetch_of_ok {schema : Schema} (h : catalog.fetch.1 = .ok schema) :
    ¬ catalog.Fails ∧
      schema = Schema.ofParts catalog.databaseNames (catalog.listed.map catalog.described) := by
  by_cases fails : catalog.Fails
  · obtain ⟨error, hfails⟩ := fetch_of_fails fails
    exact nomatch hfails.symm.trans h
  · rw [fetch_of_not_fails fails] at h
    exact ⟨fails, (Except.ok.inj h).symm⟩

/-- The tables of the schema: under a full name, the last entry of the listing that has it, as the
catalog describes it. -/
theorem find?_of_fetch {schema : Schema} (h : catalog.fetch.1 = .ok schema) {key : String}
    {table : Table} :
    schema.tables.find? key = some table ↔
      ∃ before entry after, catalog.listed = before ++ entry :: after ∧
        entry.1 ++ "." ++ entry.2 = key ∧ (∀ other ∈ after, other.1 ++ "." ++ other.2 ≠ key) ∧
        catalog.Describes entry table := by
  obtain ⟨complete, rfl⟩ := fetch_of_ok h
  have hdetails : ∀ entry ∈ catalog.listed,
      ∃ columns, catalog.columns entry.1 entry.2 = .ok columns :=
    fun entry hentry => ok_of_not_error fun h => complete (.inr (.inr ⟨entry, hentry, h⟩))
  rw [Schema.find?_ofParts]
  constructor
  · rintro ⟨before, after, htables, rfl, hafter⟩
    obtain ⟨first, rest, hlisted, rfl, hrest⟩ := List.map_eq_append_iff.1 htables
    obtain ⟨entry, last, rfl, rfl, rfl⟩ := List.map_eq_cons_iff.1 hrest
    obtain ⟨columns, hcolumns⟩ := hdetails entry (by rw [hlisted]; simp)
    refine ⟨first, entry, last, hlisted, rfl, ?_, (describes_iff hcolumns).2 rfl⟩
    exact fun other hother => hafter _ (List.mem_map_of_mem hother)
  · rintro ⟨before, entry, after, hlisted, rfl, hafter, hdescribes⟩
    obtain ⟨columns, hcolumns⟩ := hdetails entry (by rw [hlisted]; simp)
    obtain rfl := (describes_iff hcolumns).1 hdescribes
    refine ⟨before.map catalog.described, after.map catalog.described, ?_, rfl, ?_⟩
    · rw [hlisted, List.map_append, List.map_cons]
    · intro other hother
      obtain ⟨own, hown, rfl⟩ := List.mem_map.1 hother
      exact hafter own hown

end Catalog

end QueryAssist
