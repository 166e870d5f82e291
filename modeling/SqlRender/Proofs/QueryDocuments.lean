import SqlRender.Json.Printer
import SqlRender.Proofs.DocumentReadings
import SqlRender.Proofs.Supplied
import SqlRender.Proofs.ValueIndependence
import SqlRender.Row

/-!
# Documents of queries

A query is read back from its document, and so are a row of assignments and a row of a result.
A query has a document if all of its values have one, in whatever part of it they are: this is
said of the tokens that the query supplies.  Each part is read from what is read of its parts,
so the proof follows the constructors of all types of parts at once; what is read back is the
part with its values replaced by those that are read back from the documents of the values.

The main statement is `documents_read_back`.
-/

namespace SqlRender

open Reading

/-- Whether the values of a token have documents. -/
def Token.IsWritable (t : Token) : Prop :=
  ∀ v ∈ t.params, v.IsWritable

theorem Token.isWritable_bind {v : Value} :
  (Token.bind v).IsWritable ↔ v.IsWritable
  := List.forall_mem_singleton

theorem Token.isWritable_raw {sql : String} {params : List Value} :
  (Token.raw sql params).IsWritable ↔ ∀ v ∈ params, v.IsWritable
  := Iff.rfl

theorem Condition.toJson_ne_null (c : Condition) :
  c.toJson ≠ .null
  := by
  cases c <;> simp [toJson]

theorem Query.nodup_fieldNames :
  Query.fieldNames.Nodup
  := by
  decide

/-! ### Parts of lists from what is read of their parts -/

section

variable {j : Json}

theorem Cte.read_object (name : String) (columns : List String) {q : Query}
    (hq : (Reading.of j).query () = some q) :
  (Reading.of (.object [("name", .string name), ("columns", Json.ofStrings columns),
      ("query", j)])).cte ()
    = some ⟨name, columns, q⟩
  := by
  rw [Reading.of_eq]
  simp only [ofLayer, Cte.ofLayer?]
  rw [fields?_map]
  · simp only [List.map_cons, List.map_nil, required, Option.bind_some, string_of, each_strings, hq,
      Option.bind_eq_bind, Option.pure_def]
  · rfl
  · decide

theorem Partner.read_object (kind : UnionKind) {q : Query}
    (hq : (Reading.of j).query () = some q) :
  (Reading.of (.object [("kind", .string kind.jsonName), ("query", j)])).partner ()
    = some ⟨kind, q⟩
  := by
  have hkind : (Reading.of (.string kind.jsonName)).word UnionKind.jsonNames = some kind :=
    word_of (by cases kind <;> rfl)
  rw [Reading.of_eq]
  simp only [ofLayer, Partner.ofLayer?]
  rw [fields?_map]
  · simp only [List.map_cons, List.map_nil, required, Option.bind_some, hkind, hq,
      Option.bind_eq_bind, Option.pure_def]
  · rfl
  · decide

theorem Join.read_object (kind : JoinKind) {table : Json} {t : Table} {on : Option Condition}
    (included : Bool) (htable : (Reading.of table).table () = some t)
    (hon : Reading.optional (fun r => r.condition ()) (some (Reading.of j)) = some on) :
  (Reading.of (.object [("kind", .string kind.jsonName), ("table", table), ("on", j),
      ("effective", .bool included)])).join ()
    = some ⟨kind, t, on, included⟩
  := by
  have hkind : (Reading.of (.string kind.jsonName)).word JoinKind.jsonNames = some kind :=
    word_of (by cases kind <;> rfl)
  rw [Reading.of_eq]
  simp only [ofLayer, Join.ofLayer?]
  rw [fields?_map]
  · simp only [List.map_cons, List.map_nil, required, Option.bind_some, hkind, htable, hon, flag_of,
      Option.bind_eq_bind, Option.pure_def]
  · rfl
  · decide

theorem OrderItem.read_column {c : Column} (direction : Option Direction)
    (nulls : Option NullOrder) (hc : (Reading.of j).column () = some c) :
  (Reading.of (.object [("Column", .object [("column", j),
      ("direction", Json.ofOption (fun d => .string d.jsonName) direction),
      ("nulls", Json.ofOption (fun n => .string n.jsonName) nulls)])])).orderItem ()
    = some (.column c direction nulls)
  := by
  have hdirection : Reading.optional (fun r => r.word Direction.jsonNames)
      (some (Reading.of (Json.ofOption (fun d => .string d.jsonName) direction)))
        = some direction :=
    optional_ofOption (by simp) (fun d => word_of (by cases d <;> rfl)) direction
  have hnulls : Reading.optional (fun r => r.word NullOrder.jsonNames)
      (some (Reading.of (Json.ofOption (fun n => .string n.jsonName) nulls))) = some nulls :=
    optional_ofOption (by simp) (fun n => word_of (by cases n <;> rfl)) nulls
  rw [of_variant]
  simp only [ofLayer, OrderItem.ofLayer?, Json.Layer.variant?]
  rw [ordered, fields?_of]
  · simp only [List.map_cons, List.map_nil, required, Option.bind_some, hc, hdirection, hnulls,
      Option.bind_eq_bind, Option.pure_def]
  · rfl
  · decide

theorem OrderItem.read_raw (text : String) :
  (Reading.of (.object [("Raw", .string text)])).orderItem () = some (.raw text)
  := by
  rw [of_variant]
  simp only [ofLayer, OrderItem.ofLayer?, Json.Layer.variant?, string_of]
  rfl

end

/-! ### Queries and their parts -/

mutual

/-- A query is read back from its document. -/
theorem Query.read_toJson : ∀ q : Query, (∀ t ∈ q.supplied, t.IsWritable) →
  (Reading.of q.toJson).query () = some (q.mapValues Value.reread)
  | ⟨recursive, ctes, hint, columns, sources, joins, filter, groups, having, order, rows, offset,
      partners, endings⟩, h => by
    obtain hq := Query.supplies_iff.mpr h
    have hctes := Cte.mapM_toJsonEach ctes hq.ctes
    have hcolumns := Column.mapM_toJsonEach columns hq.columns
    have hsources := Table.mapM_toJsonEach sources hq.sources
    have hjoins := Join.mapM_toJsonEach joins hq.joins
    have hfilter := Condition.read_toJson filter hq.filter
    have hgroups := Column.mapM_toJsonEach groups hq.groups
    have hhaving := Condition.read_toJson having hq.having
    have horder := OrderItem.mapM_toJsonEach order hq.order
    have hpartners := Partner.mapM_toJsonEach partners hq.partners
    rw [Reading.of_eq, Query.toJson]
    simp only [ofLayer, Query.ofLayer?]
    rw [fields?_map]
    · simp only [List.map_cons, List.map_nil, orElse, withClause_of _ hctes, each_of, hcolumns,
        hsources, hjoins, hfilter, hgroups, hhaving, horder, hpartners, optional_count,
        optional_string, each_strings, Option.bind_eq_bind, Option.bind_some, Option.pure_def,
        Query.mapValues]
    · rfl
    · exact Query.nodup_fieldNames

theorem Cte.mapM_toJsonEach : ∀ ctes : List Cte, (∀ t ∈ Cte.suppliedEach ctes, t.IsWritable) →
  (Cte.toJsonEach ctes).mapM (fun j => (Reading.of j).cte ())
    = some (Cte.mapValuesEach Value.reread ctes)
  | [], _ => rfl
  | ⟨name, columns, q⟩ :: rest, h => by
    rw [Cte.suppliedEach, List.forall_mem_append, List.forall_mem_append] at h
    have hq := Query.read_toJson q h.1.2
    have hrest := Cte.mapM_toJsonEach rest h.2
    simp [Cte.toJsonEach, Cte.read_object name columns hq, hrest, Cte.mapValuesEach]

theorem Partner.mapM_toJsonEach :
    ∀ partners : List Partner, (∀ t ∈ Partner.suppliedEach partners, t.IsWritable) →
  (Partner.toJsonEach partners).mapM (fun j => (Reading.of j).partner ())
    = some (Partner.mapValuesEach Value.reread partners)
  | [], _ => rfl
  | ⟨kind, q⟩ :: rest, h => by
    rw [Partner.suppliedEach, List.forall_mem_append] at h
    have hq := Query.read_toJson q h.1
    have hrest := Partner.mapM_toJsonEach rest h.2
    simp [Partner.toJsonEach, Partner.read_object kind hq, hrest, Partner.mapValuesEach]

theorem Column.read_toJson : ∀ c : Column, (∀ t ∈ c.supplied, t.IsWritable) →
  (Reading.of c.toJson).column () = some (c.mapValues Value.reread)
  | ⟨expr, aliasName⟩, h => by
    rw [Column.supplied, List.forall_mem_append] at h
    have hexpr := Expr.read_toJson expr h.1
    rw [Reading.of_eq, Column.toJson]
    simp only [ofLayer, Column.ofLayer?]
    rw [fields?_map]
    · simp only [List.map_cons, List.map_nil, required, Option.bind_some, hexpr, optional_string,
        Option.bind_eq_bind, Option.pure_def, Column.mapValues]
    · rfl
    · decide

theorem Column.mapM_toJsonEach :
    ∀ columns : List Column, (∀ t ∈ Column.suppliedEach columns, t.IsWritable) →
  (Column.toJsonEach columns).mapM (fun j => (Reading.of j).column ())
    = some (Column.mapValuesEach Value.reread columns)
  | [], _ => rfl
  | c :: rest, h => by
    rw [Column.suppliedEach, List.forall_mem_append] at h
    simp [Column.toJsonEach, Column.read_toJson c h.1, Column.mapM_toJsonEach rest h.2,
      Column.mapValuesEach]

theorem Expr.read_toJson : ∀ expr : Expr, (∀ t ∈ expr.supplied, t.IsWritable) →
  (Reading.of expr.toJson).expr () = some (expr.mapValues Value.reread)
  | .named table name, _ => by
    have hnamed := qualified_of (show "table" ≠ "name" by decide) table name
    rw [Expr.toJson, of_variant]
    simp only [ofLayer, Expr.ofLayer?, Json.Layer.variant?, hnamed]
    rfl
  | .call function args, h => by
    rw [Expr.supplied, List.forall_mem_cons] at h
    have hargs := Column.mapM_toJsonEach args h.2
    rw [Expr.toJson, of_variant]
    simp only [ofLayer, Expr.ofLayer?, Json.Layer.variant?]
    rw [Reading.call, content?_of]
    · simp only [List.map_cons, List.map_nil, required, Option.bind_some, string_of, each_of, hargs,
        Option.bind_eq_bind, Option.pure_def, Expr.mapValues]
    · rfl
    · decide
  | .distinct columns, h => by
    have hcolumns := Column.mapM_toJsonEach columns h
    rw [Expr.toJson, of_variant]
    simp only [ofLayer, Expr.ofLayer?, Json.Layer.variant?, each_of, hcolumns]
    rfl
  | .raw sql params, h => by
    have hparams := Token.isWritable_raw.mp (List.forall_mem_singleton.mp h)
    rw [Expr.toJson, of_variant]
    simp only [ofLayer, Expr.ofLayer?, Json.Layer.variant?, raw_ofRaw hparams]
    rfl
  | .param v, h => by
    have hv := Token.isWritable_bind.mp (List.forall_mem_singleton.mp h)
    rw [Expr.toJson, of_variant]
    simp only [ofLayer, Expr.ofLayer?, Json.Layer.variant?, value_of, Value.ofJson?_toJson hv]
    rfl
  | .arithmetic left op right, h => by
    rw [Expr.supplied, List.forall_mem_append] at h
    have hleft := Column.read_toJson left h.1
    have hright := Column.read_toJson right h.2
    have hop : (Reading.of (.string op.jsonName)).word Arithmetic.jsonNames = some op :=
      word_of (by cases op <;> rfl)
    rw [Expr.toJson, of_variant]
    simp only [ofLayer, Expr.ofLayer?, Json.Layer.variant?]
    rw [Reading.arithmetic, content?_of]
    · simp only [List.map_cons, List.map_nil, required, Option.bind_some, hleft, hop, hright,
        Option.bind_eq_bind, Option.pure_def, Expr.mapValues]
    · rfl
    · decide
  | .subquery q, h => by
    have hq := Query.read_toJson q h
    rw [Expr.toJson, of_variant]
    simp only [ofLayer, Expr.ofLayer?, Json.Layer.variant?, hq]
    rfl

theorem Table.read_toJson : ∀ table : Table, (∀ t ∈ table.supplied, t.IsWritable) →
  (Reading.of table.toJson).table () = some (table.mapValues Value.reread)
  | ⟨source, aliasName⟩, h => by
    rw [Table.supplied, List.forall_mem_append] at h
    have hsource := Source.read_toJson source h.1
    rw [Reading.of_eq, Table.toJson]
    simp only [ofLayer, Table.ofLayer?]
    rw [fields?_map]
    · simp only [List.map_cons, List.map_nil, required, Option.bind_some, hsource, optional_string,
        Option.bind_eq_bind, Option.pure_def, Table.mapValues]
    · rfl
    · decide

theorem Table.mapM_toJsonEach :
    ∀ tables : List Table, (∀ t ∈ Table.suppliedEach tables, t.IsWritable) →
  (Table.toJsonEach tables).mapM (fun j => (Reading.of j).table ())
    = some (Table.mapValuesEach Value.reread tables)
  | [], _ => rfl
  | t :: rest, h => by
    rw [Table.suppliedEach, List.forall_mem_append] at h
    simp [Table.toJsonEach, Table.read_toJson t h.1, Table.mapM_toJsonEach rest h.2,
      Table.mapValuesEach]

theorem Source.read_toJson : ∀ source : Source, (∀ t ∈ source.supplied, t.IsWritable) →
  (Reading.of source.toJson).source () = some (source.mapValues Value.reread)
  | .named schema name, _ => by
    have hnamed := qualified_of (show "schema" ≠ "name" by decide) schema name
    rw [Source.toJson, of_variant]
    simp only [ofLayer, Source.ofLayer?, Json.Layer.variant?, hnamed]
    rfl
  | .derived q, h => by
    have hq := Query.read_toJson q h
    rw [Source.toJson, of_variant]
    simp only [ofLayer, Source.ofLayer?, Json.Layer.variant?, hq]
    rfl

theorem Join.mapM_toJsonEach :
    ∀ joins : List Join, (∀ t ∈ Join.suppliedEach joins, t.IsWritable) →
  (Join.toJsonEach joins).mapM (fun j => (Reading.of j).join ())
    = some (Join.mapValuesEach Value.reread joins)
  | [], _ => rfl
  | ⟨kind, table, none, included⟩ :: rest, h => by
    rw [Join.suppliedEach.eq_def] at h
    simp only [List.forall_mem_append] at h
    have htable := Table.read_toJson table h.1.1
    have hrest := Join.mapM_toJsonEach rest h.2
    rw [Join.toJsonEach.eq_def, Join.mapValuesEach.eq_def]
    simp [Join.read_object kind included htable (optional_null _), hrest]
  | ⟨kind, table, some c, included⟩ :: rest, h => by
    rw [Join.suppliedEach.eq_def] at h
    simp only [List.forall_mem_append] at h
    have htable := Table.read_toJson table h.1.1
    have hon : Reading.optional (fun r => r.condition ()) (some (Reading.of c.toJson))
        = some (some (c.mapValues Value.reread)) :=
      optional_some c.toJson_ne_null (Condition.read_toJson c h.1.2)
    have hrest := Join.mapM_toJsonEach rest h.2
    rw [Join.toJsonEach.eq_def, Join.mapValuesEach.eq_def]
    simp [Join.read_object kind included htable hon, hrest]

theorem Condition.read_toJson : ∀ c : Condition, (∀ t ∈ c.supplied, t.IsWritable) →
  (Reading.of c.toJson).condition () = some (c.mapValues Value.reread)
  | .empty, _ => rfl
  | .predicate column op operand, h => by
    rw [Condition.supplied, List.forall_mem_append] at h
    have hcolumn := Column.read_toJson column h.1
    have hoperand := Operand.read_toJson operand h.2
    have hop : (Reading.of (.string op.jsonName)).word Comparison.jsonNames = some op :=
      word_of (by cases op <;> rfl)
    rw [Condition.toJson, of_variant]
    simp only [ofLayer, Condition.ofLayer?, Json.Layer.variant?]
    rw [Reading.predicate, content?_of]
    · simp only [List.map_cons, List.map_nil, required, Option.bind_some, hcolumn, hop, hoperand,
        Option.bind_eq_bind, Option.pure_def, Condition.mapValues]
    · rfl
    · decide
  | .raw sql params, h => by
    have hparams := Token.isWritable_raw.mp (List.forall_mem_singleton.mp h)
    rw [Condition.toJson, of_variant]
    simp only [ofLayer, Condition.ofLayer?, Json.Layer.variant?, raw_ofRaw hparams]
    rfl
  | .existence negated q, h => by
    have hq := Query.read_toJson q h
    rw [Condition.toJson, of_variant]
    simp only [ofLayer, Condition.ofLayer?, Json.Layer.variant?]
    rw [Reading.existence, content?_of]
    · simp only [List.map_cons, List.map_nil, required, Option.bind_some, flag_of, hq,
        Option.bind_eq_bind, Option.pure_def, Condition.mapValues]
    · rfl
    · decide
  | .not c, h => by
    have hc := Condition.read_toJson c h
    rw [Condition.toJson, of_variant]
    simp only [ofLayer, Condition.ofLayer?, Json.Layer.variant?, hc]
    rfl
  | .group c, h => by
    have hc := Condition.read_toJson c h
    rw [Condition.toJson, of_variant]
    simp only [ofLayer, Condition.ofLayer?, Json.Layer.variant?, hc]
    rfl
  | .connect left op right, h => by
    rw [Condition.supplied, List.forall_mem_append] at h
    have hleft := Condition.read_toJson left h.1
    have hright := Condition.read_toJson right h.2
    have hop : (Reading.of (.string op.jsonName)).word Connective.jsonNames = some op :=
      word_of (by cases op <;> rfl)
    rw [Condition.toJson, of_variant]
    simp only [ofLayer, Condition.ofLayer?, Json.Layer.variant?]
    rw [Reading.connect, content?_of]
    · simp only [List.map_cons, List.map_nil, required, Option.bind_some, hleft, hop, hright,
        Option.bind_eq_bind, Option.pure_def, Condition.mapValues]
    · rfl
    · decide

theorem Operand.read_toJson : ∀ operand : Operand, (∀ t ∈ operand.supplied, t.IsWritable) →
  (Reading.of operand.toJson).operand () = some (operand.mapValues Value.reread)
  | .absent, _ => rfl
  | .value v, h => by
    have hv := Token.isWritable_bind.mp (List.forall_mem_singleton.mp h)
    rw [Operand.toJson, of_variant]
    simp only [ofLayer, Operand.ofLayer?, Json.Layer.variant?, value_of, Value.ofJson?_toJson hv]
    rfl
  | .list vs, h => by
    have hvs : ∀ v ∈ vs, v.IsWritable := fun v hv =>
      Token.isWritable_bind.mp (h _ (List.mem_map_of_mem hv))
    rw [Operand.toJson, of_variant]
    simp only [ofLayer, Operand.ofLayer?, Json.Layer.variant?, values_toJsonItems hvs]
    rfl
  | .range first last, h => by
    rw [Operand.supplied, List.forall_mem_cons, List.forall_mem_singleton] at h
    have hvs : ∀ v ∈ [first, last], v.IsWritable :=
      List.forall_mem_cons.mpr ⟨Token.isWritable_bind.mp h.1,
        List.forall_mem_singleton.mpr (Token.isWritable_bind.mp h.2)⟩
    have hvalues : (Reading.of (.array [first.toJson, last.toJson])).values ()
        = some [first.reread, last.reread] := values_toJsonItems hvs
    rw [Operand.toJson, of_variant]
    simp only [ofLayer, Operand.ofLayer?, Json.Layer.variant?, hvalues]
    rfl
  | .column c, h => by
    have hc := Column.read_toJson c h
    rw [Operand.toJson, of_variant]
    simp only [ofLayer, Operand.ofLayer?, Json.Layer.variant?, hc]
    rfl
  | .query q, h => by
    have hq := Query.read_toJson q h
    rw [Operand.toJson, of_variant]
    simp only [ofLayer, Operand.ofLayer?, Json.Layer.variant?, hq]
    rfl

theorem OrderItem.mapM_toJsonEach :
    ∀ order : List OrderItem, (∀ t ∈ OrderItem.suppliedEach order, t.IsWritable) →
  (OrderItem.toJsonEach order).mapM (fun j => (Reading.of j).orderItem ())
    = some (OrderItem.mapValuesEach Value.reread order)
  | [], _ => rfl
  | .column c direction nulls :: rest, h => by
    rw [OrderItem.suppliedEach, List.forall_mem_append] at h
    have hitem := OrderItem.read_column direction nulls (Column.read_toJson c h.1)
    have hrest := OrderItem.mapM_toJsonEach rest h.2
    simp [OrderItem.toJsonEach, hitem, hrest, OrderItem.mapValuesEach]
  | .raw text :: rest, h => by
    rw [OrderItem.suppliedEach, List.forall_mem_cons] at h
    have hrest := OrderItem.mapM_toJsonEach rest h.2
    simp [OrderItem.toJsonEach, OrderItem.read_raw text, hrest, OrderItem.mapValuesEach]

end

/-! ### Rows -/

theorem Assigned.read_toJson {x : Assigned} (h : ∀ t ∈ x.supplied, t.IsWritable) :
  (Reading.of x.toJson).assigned = some (x.mapValues Value.reread)
  := by
  cases x with
  | value v =>
    have hv := Token.isWritable_bind.mp (List.forall_mem_singleton.mp h)
    rw [toJson, of_variant]
    simp only [assigned, ofLayer, Option.bind_some, Json.Layer.variant?, value_of,
      Value.ofJson?_toJson hv]
    rfl
  | raw sql params =>
    have hparams := Token.isWritable_raw.mp (List.forall_mem_singleton.mp h)
    rw [toJson, of_variant]
    simp only [assigned, ofLayer, Option.bind_some, Json.Layer.variant?, raw_ofRaw hparams]
    rfl
  | query q =>
    have hq := Query.read_toJson q h
    rw [toJson, of_variant]
    simp only [assigned, ofLayer, Option.bind_some, Json.Layer.variant?, hq]
    rfl

theorem Assigned.read_entry (column : String) {x : Assigned}
    (h : ∀ t ∈ x.supplied, t.IsWritable) :
  (Reading.of (.array [.string column, x.toJson])).assignment
    = some (column, x.mapValues Value.reread)
  := by
  simp only [assignment, layer_of, Option.bind_some, Json.toLayer, Json.Layer.map,
    Json.Layer.items?, List.map_cons, List.map_nil, string_of, read_toJson h, Option.bind_eq_bind,
    Option.pure_def]

/-- A row of assignments is read back from its document. -/
theorem UpdateRow.ofJson?_toJson {row : UpdateRow} (h : ∀ t ∈ row.supplied, t.IsWritable) :
  ofJson? row.toJson = some (row.mapValues Value.reread)
  := by
  have hentries : ∀ entry ∈ row.entries,
      (Reading.of (.array [.string entry.1, entry.2.toJson])).assignment
        = some (entry.1, entry.2.mapValues Value.reread) := by
    intro entry hentry
    apply Assigned.read_entry
    intro t ht
    apply h t (List.mem_flatMap.mpr ⟨entry, hentry, List.mem_cons_of_mem _ ht⟩)
  have hread : (row.entries.map fun entry => Json.array [.string entry.1, entry.2.toJson]).mapM
      (fun j => (Reading.of j).assignment) = some (row.mapValues Value.reread).entries :=
    mapM_map_eq_some hentries
  rw [ofJson?, toJson, fields?_of]
  · simp only [List.map_cons, List.map_nil, required, Option.bind_some, each_of, hread]
    rfl
  · rfl
  · decide

namespace Row

/-- The row that is read back from the document of a row. -/
def reread (row : Row) : Row :=
  ⟨row.columns.map fun c => (c.1, c.2.reread)⟩

/-- A row of a result is read back from its document. -/
theorem ofJson?_toJson {row : Row} (h : ∀ c ∈ row.columns, c.2.IsWritable) :
  ofJson? row.toJson = some row.reread
  := by
  have hcolumns : ∀ c ∈ row.columns,
      columnOfJson? (.array [.string c.1, c.2.toJson]) = some (c.1, c.2.reread) := by
    intro c hc
    rw [columnOfJson?, Value.ofJson?_toJson (h c hc)]
    rfl
  have hread := mapM_map_eq_some hcolumns
  rw [ofJson?, toJson, Json.toLayer, Json.Layer.fields?_object]
  · simp only [List.map_cons, List.map_nil, hread]
    rfl
  · rfl
  · decide

end Row

/-! ### What documents keep -/

/-- Queries and rows are read back from their documents with the values that are read back for
theirs, which are equal to them up to leap seconds within a minute: a value that equals itself
equals what is read back exactly if its leap seconds stand at the ends of minutes.  Nothing else
about a query changes; so names and orderings are allowed as before, and every statement has the
same text and binds the values that are read back for those it bound. -/
theorem documents_read_back :
  (∀ v : Value, v.same v.reread = true ↔ v.same v = true ∧ v.IsSettled)
    ∧ (∀ q : Query, (∀ t ∈ q.supplied, t.IsWritable) →
        Query.ofJson? q.toJson = some (q.mapValues Value.reread)
          ∧ (q.mapValues Value.reread).validate = q.validate)
    ∧ (∀ row : UpdateRow, (∀ t ∈ row.supplied, t.IsWritable) →
        UpdateRow.ofJson? row.toJson = some (row.mapValues Value.reread))
    ∧ (∀ row : Row, (∀ c ∈ row.columns, c.2.IsWritable) → Row.ofJson? row.toJson = some row.reread)
    ∧ ∀ (d : Dialect) (r : Request),
        (r.mapValues Value.reread).statement d
          = (r.statement d).map (Statement.mapValues Value.reread)
  := by
  refine ⟨Value.same_reread_iff, ?_, fun row => UpdateRow.ofJson?_toJson,
    fun row => Row.ofJson?_toJson, ?_⟩
  · intro q h
    exact ⟨Query.read_toJson q h, Query.validate_mapValues Value.reread q⟩
  · intro d r
    rw [Request.statement_eq, Request.statement_eq, Request.tokens_mapValues]
    cases r.tokens d with
    | error e => rfl
    | ok ts => exact Statement.ofTokens_mapValues Value.reread d.quoting ts

/-- Articles from a price on, the price as a column and as a bound. -/
def articlesFrom (price : Decimal) : Query :=
  { Query.empty with
    columns := [⟨.named none "name", none⟩, ⟨.param (.decimal price), some "bound"⟩]
    sources := [⟨.named none "tb_article", none⟩]
    filter := .predicate ⟨.named none "price", none⟩ .ge (.value (.decimal price)) }

/-- Fifteen hundred is read back with its zeros among the digits. -/
theorem documents_read_back_articlesFrom :
  Query.ofJson? (articlesFrom ⟨15, -2⟩).toJson = some (articlesFrom ⟨1500, 0⟩)
    ∧ UpdateRow.ofJson? (UpdateRow.toJson ⟨[("price", .value (.decimal ⟨15, -2⟩))]⟩)
      = some ⟨[("price", .value (.decimal ⟨1500, 0⟩))]⟩
    ∧ Row.ofJson? (Row.toJson ⟨[("labels", .json (.object [("de", .string "Buch")]))]⟩)
      = some ⟨[("labels", .json (.object [("de", .string "Buch")]))]⟩
  := by
  have hdecimal : (Value.decimal ⟨15, -2⟩).IsWritable := .decimal (by decide)
  refine ⟨(documents_read_back.2.1 _ ?_).1, documents_read_back.2.2.1 _ ?_,
    documents_read_back.2.2.2.1 _ ?_⟩
  · simp [articlesFrom, Query.empty, Query.supplied, Cte.suppliedEach, Column.suppliedEach,
      Column.supplied, Expr.supplied, Table.suppliedEach, Table.supplied, Source.supplied,
      Join.suppliedEach, Condition.supplied, Operand.supplied, OrderItem.suppliedEach,
      Partner.suppliedEach, Token.ofName?, Token.IsWritable, Token.params, hdecimal]
  · simp [UpdateRow.supplied, Assigned.supplied, Token.IsWritable, Token.params, hdecimal]
  · rintro c hc
    obtain rfl := List.mem_singleton.mp hc
    exact .json rfl

/-- A time on a day in March. -/
def inMarch (time : TimeOfDay) : Value :=
  .dateTime ⟨⟨2024, 3, 9, by decide⟩, time⟩

/-- What is logged from this time on. -/
def loggedSince (time : TimeOfDay) : Query :=
  { Query.empty with
    sources := [⟨.named none "tb_log", none⟩]
    filter := .predicate ⟨.named none "time", none⟩ .ge (.value (inMarch time)) }

theorem ofJson?_loggedSince (time : TimeOfDay) :
  Query.ofJson? (loggedSince time).toJson = some (loggedSince time.reread)
  := by
  have hwritable : ∀ t ∈ (loggedSince time).supplied, t.IsWritable := by
    have hvalue : (inMarch time).IsWritable := .dateTime _
    simp [loggedSince, Query.empty, Query.supplied, Cte.suppliedEach, Column.suppliedEach,
      Column.supplied, Expr.supplied, Table.suppliedEach, Table.supplied, Source.supplied,
      Join.suppliedEach, Condition.supplied, Operand.supplied, OrderItem.suppliedEach,
      Partner.suppliedEach, Token.ofName?, Token.IsWritable, Token.params, hvalue]
  exact Query.read_toJson _ hwritable

/-- An empty condition that is denied several times. -/
def Condition.denied : Nat → Condition
  | 0 => .empty
  | n + 1 => .not (denied n)

/-- The text of the document of a denied condition. -/
theorem Condition.toList_compact_denied (n : Nat) :
  (denied n).toJson.compact.toList
    = (List.replicate n "\x7b\"Not\":".toList).flatten ++ "\"Empty\"".toList
      ++ List.replicate n '\x7d'
  := by
  induction n with
  | zero => rfl
  | succ n ih =>
    have hvariant : (denied (n + 1)).toJson.compact
        = "\x7b\"Not\":" ++ (denied n).toJson.compact ++ "\x7d" := rfl
    rw [hvariant, String.toList_append, String.toList_append, ih, List.replicate_succ,
      List.replicate_succ', List.flatten_cons]
    simp

/-- A leap second within a minute is read back as the next second.  Besides, a text is not read
like a document: that of a condition denied 127 times has too many objects in one another. -/
theorem not_read_back_loggedSince :
  (Query.ofJson? (loggedSince ⟨10, 20, 15, 1500000000, by decide⟩).toJson
      = some (loggedSince ⟨10, 20, 16, 500000000, by decide⟩)
      ∧ (inMarch ⟨10, 20, 15, 1500000000, by decide⟩).same
        (inMarch ⟨10, 20, 16, 500000000, by decide⟩) = false)
    ∧ Query.ofText? ({ Query.empty with filter := .denied 127 } : Query).toJson.compact = none
  := by
  refine ⟨⟨ofJson?_loggedSince _, ?_⟩, ?_⟩
  · simp [inMarch, Value.same]
  · rw [Query.ofText?, Json.parseWith, Json.scan, ← Option.isNone_iff_eq_none]
    simp only [Query.toJson, Query.empty, Json.compact, Json.compactMembers, Json.braced,
      Text.joinWith, String.toList_append, Condition.toList_compact_denied]
    decide +kernel

end SqlRender
