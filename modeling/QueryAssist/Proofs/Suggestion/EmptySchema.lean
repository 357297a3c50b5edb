import QueryAssist.Proofs.Cache.FirstRequest
import QueryAssist.Proofs.Suggestion.Ranking

/-!
# Completion without metadata

When the metadata of a connection cannot be had, its schema is empty.  Then no tables and no columns
are offered, and everything else is.

* `suggestTables_empty`, `suggestColumns_empty` — nothing is offered that the schema would know.
* `offers_sublist` — what is offered without metadata is also offered with them, in the same order.
* `failure_shrinks_list` — **a failure only makes the completion list shorter.**
-/

namespace QueryAssist

open Text

/-! ## The empty schema -/

/-- No name means a table of an empty schema. -/
theorem Schema.resolve?_empty (name : String) (database : Option String) :
    Schema.empty.resolve? name database = none := by
  cases database <;> simp [resolve?, resolveSuffix?, candidates, empty, Dictionary.find?,
    Dictionary.empty]

namespace Dialect

variable (dialect : Dialect) (database : Option String)

theorem suggestTables_empty : dialect.suggestTables Schema.empty database = [] := rfl

theorem suggestColumns_empty (context : QueryContext) :
    dialect.suggestColumns context Schema.empty database = [] := by
  have hscoped : scopedColumns context Schema.empty database = [] := by
    refine List.flatMap_eq_nil_iff.2 fun entry _ => ?_
    simp only [Schema.resolve?_empty]
  rw [suggestColumns, hscoped]
  rfl

end Dialect

namespace Engine

/-- What is offered without metadata is also offered with them, in the same order. -/
theorem offers_sublist (engine : Engine) (context : QueryContext) (schema : Schema) :
    (engine.offers context Schema.empty).Sublist (engine.offers context schema) := by
  unfold offers
  simp only [Dialect.suggestTables_empty, Dialect.suggestColumns_empty, List.append_nil,
    List.nil_append]
  cases context.kind with
  | keyword | unknown =>
    exact (List.sublist_append_left _ _).append_right _
  | selectStart =>
    exact List.Sublist.append_right (List.singleton_sublist.2 List.mem_cons_self) _
  | column | condition => exact List.sublist_append_right _ _
  | source | joinTarget => exact List.nil_sublist _
  | selectComplete | function => exact List.Sublist.refl _

end Engine

namespace Cache.Connection

/-- **A failure only makes the completion list shorter.**  A new connection whose fetch fails gives
the list for the context of the cursor and an empty schema.  And without a limit, every label in
such a list, whatever the context, is also in the list for any other schema. -/
theorem failure_shrinks_list :
    (∀ (engine : Engine) (id : String) (catalog : Catalog) (timeout start : Nat) (text : String)
      (cursor : Position), catalog.Fails →
      ((create id catalog timeout start).complete engine text cursor).2 =
        engine.suggest (QueryContext.parse text cursor) Schema.empty) ∧
    ∀ (engine : Engine) (context : QueryContext) (schema : Schema), engine.limit = none →
      ∀ item ∈ engine.suggest context Schema.empty,
        ∃ listed ∈ engine.suggest context schema, listed.label = item.label := by
  refine ⟨?_, ?_⟩
  · intro engine id catalog timeout start text cursor fails
    obtain ⟨error, hfetch⟩ := Catalog.fetch_of_fails fails
    have hschema : (create id catalog timeout start).getSchema.2 = Schema.empty := by
      rw [getSchema_create, hfetch]
      rfl
    rw [complete]
    simp only [hschema]
    rfl
  · intro engine context schema hlimit item hitem
    rw [Engine.suggest, hlimit] at hitem
    obtain ⟨own, hown, hlabel, hword⟩ := Suggestion.exists_mem_rank_iff.1 ⟨item, hitem, rfl⟩
    rw [Engine.suggest, hlimit]
    exact Suggestion.exists_mem_rank_iff.2
      ⟨own, (engine.offers_sublist context schema).mem hown, hlabel, hword⟩

/-- A catalog that lists a table and then fails to describe it. -/
def undescribed : Catalog where
  databases := .ok ["shop"]
  tables _ := .ok ["orders"]
  columns _ _ := .error (.queryTimeout 30)
  latency := 5

/-- The beginning of a function's name in a condition. -/
def typedCount : QueryContext :=
  QueryContext.parse "SELECT * FROM orders WHERE co" ⟨1, 30⟩

/-- A table with a column that has the name of a function. -/
def countedOrders : Schema :=
  Schema.ofParts ["shop"]
    [{ database := "shop", name := "orders", columns := [{ name := "COUNT", dataType := "int" }] }]

/-- Without its metadata the function is offered, and with them its label is still in the list
although a column has it, too. -/
theorem failure_shrinks_list_count :
    undescribed.Fails ∧
      ((create "c" undescribed 300000 0).complete { dialect := .mysql }
        "SELECT * FROM orders WHERE co" ⟨1, 30⟩).2 =
          Engine.suggest { dialect := .mysql } typedCount Schema.empty ∧
      ∃ item ∈ Engine.suggest { dialect := .mysql } typedCount Schema.empty,
        item.label = "COUNT" ∧
          ∃ listed ∈ Engine.suggest { dialect := .mysql } typedCount countedOrders,
            listed.label = "COUNT" := by
  have hfails : undescribed.Fails :=
    .inr (.inr ⟨("shop", "orders"), by decide, .queryTimeout 30, rfl⟩)
  have hkind : typedCount.kind = .condition := by decide +kernel
  have hword : typedCount.currentWord = "co" := by decide +kernel
  obtain ⟨item, hitem, hlabel⟩ : ∃ item ∈ Engine.suggest { dialect := .mysql } typedCount
      Schema.empty, item.label = "COUNT" := by
    rw [Engine.suggest, hword, Engine.offers, hkind]
    obtain ⟨count, hcount, hlabel, hbegins⟩ : ∃ count ∈ Dialect.mysql.suggestFunctions,
        count.label = "COUNT" ∧ Suggestion.hasWord "co" count = true :=
      ⟨_, List.mem_cons_self, rfl, by decide +kernel⟩
    exact Suggestion.exists_mem_rank_iff.2
      ⟨count, List.mem_append_right _ hcount, hlabel, hbegins⟩
  refine ⟨hfails, ?_, item, hitem, hlabel, ?_⟩
  · exact failure_shrinks_list.1 { dialect := .mysql } "c" undescribed 300000 0 _ ⟨1, 30⟩ hfails
  · obtain ⟨listed, hlisted, hsame⟩ :=
      failure_shrinks_list.2 { dialect := .mysql } typedCount countedOrders rfl item hitem
    exact ⟨listed, hlisted, hsame.trans hlabel⟩

end Cache.Connection

end QueryAssist
