import Mathlib.Logic.Relation
import TypedSelect.Proofs.Projection
import TypedSelect.Proofs.StatementForm

/-! Forms of a statement that say less or more than the written one. An empty clause may be left
out, members of other names may stand beside the fields, and a column without a label may have null
for it: each such change keeps what is read, so that any number of them do. Only the table has to
be given. -/
namespace TypedSelect

namespace Json

def leaveOut (name : String) (members : List (String × Json)) : List (String × Json) :=
  members.filter (·.1 ≠ name)

theorem lookup_leaveOut (name key : String) (members : List (String × Json)) :
    (leaveOut name members).lookup key = if key = name then none else members.lookup key := by
  induction members with
  | nil => simp [leaveOut]
  | cons member rest ih =>
    obtain ⟨other, value⟩ := member
    unfold leaveOut at ih ⊢
    rw [List.filter_cons]
    by_cases left : other = name
    · rw [if_neg (by simpa using left), ih, lookup_cons, left]
      by_cases here : key = name
      · rw [if_pos here, if_pos here]
      · rw [if_neg here, if_neg here, if_neg here]
    · rw [if_pos (by simpa using left), lookup_cons, lookup_cons, ih]
      by_cases here : key = other
      · rw [if_pos here, if_pos here, if_neg (here ▸ left)]
      · rw [if_neg here, if_neg here]

/-- An empty clause is written as an empty array or as null. -/
def WritesEmpty (json : Json) : Prop :=
  json = .array [] ∨ json = .null

/-- The decoder takes an empty clause for the default, if it takes it at all. -/
def EmptyIsDefault {α : Type} (default : α) (decode : Json → Except DecodeError α) : Prop :=
  ∀ json, json.WritesEmpty → ∀ value, decode json = .ok value → value = default

theorem emptyIsDefault_list {α : Type} (item : Json → Except DecodeError α) :
    EmptyIsDefault [] (asList item) := by
  rintro _ (rfl | rfl) value read
  · exact (ok_success [] value).mp read
  · cases read

theorem emptyIsDefault_option {α : Type} (given : Json → Except DecodeError α)
    (rejectsEmpty : ∀ value, given (.array []) ≠ .ok value) :
    EmptyIsDefault none (asOption given) := by
  rintro _ (rfl | rfl) value read
  · obtain ⟨inner, read, _⟩ := (map_success _ _ _).mp read
    exact absurd read (rejectsEmpty inner)
  · exact (ok_success none value).mp read

theorem withDefault_leftOut {α : Type} (default value : α) (decode : Json → Except DecodeError α)
    (members : List (String × Json)) (name key : String) (json : Json)
    (given : members.lookup name = some json) (empty : json.WritesEmpty)
    (emptyIsDefault : EmptyIsDefault default decode)
    (read : withDefault default decode (members.lookup key) = .ok value) :
    withDefault default decode ((leaveOut name members).lookup key) = .ok value := by
  rw [lookup_leaveOut]
  split
  · rename_i here
    rw [here, given] at read
    rw [emptyIsDefault json empty value read]
    rfl
  · exact read

theorem asList_replaced {α : Type} (decode : Json → Except DecodeError α)
    (before after : List Json) (item next : Json) (values : List α)
    (same : ∀ value, decode item = .ok value → decode next = .ok value)
    (read : asList decode (.array (before ++ item :: after)) = .ok values) :
    asList decode (.array (before ++ next :: after)) = .ok values := by
  simp only [asList, List.mapM_append, List.mapM_cons, bind_success] at read ⊢
  obtain ⟨first, readFirst, rest, ⟨value, readItem, others, readOthers, made⟩, joined⟩ := read
  exact ⟨first, readFirst, rest, ⟨value, same value readItem, others, readOthers, made⟩, joined⟩

end Json

open Json Relation

theorem SelectColumn.ofJson_object (members : List (String × Json)) :
    ofJson (.object members) = (do
      let name ← required asText (members.lookup "column")
      let label ← withDefault none (asOption asText) (members.lookup "alias")
      .ok ⟨name, label⟩) :=
  rfl

theorem SelectColumn.ofJson_nullLabel (members : List (String × Json)) (column : SelectColumn)
    (unlabelled : members.lookup "alias" = none) (read : ofJson (.object members) = .ok column) :
    ofJson (.object (setMember "alias" .null members)) = .ok column := by
  have name : (setMember "alias" .null members).lookup "column" = members.lookup "column" :=
    lookup_setMember "alias" "column" .null members
  have label : (setMember "alias" .null members).lookup "alias" = some .null :=
    lookup_setMember "alias" "alias" .null members
  rw [ofJson_object, unlabelled] at read
  rw [ofJson_object, name, label]
  exact read

namespace Statement

theorem ofJson_object (members : List (String × Json)) (statement : Statement) :
    ofJson (.object members) = .ok statement ↔ ReadsAs (List.lookup · members) statement :=
  ofJson_fields (.object members) _ rfl statement

namespace ReadsAs

theorem congr_columns {field next : String → Option Json} {statement : Statement}
    (read : ReadsAs field statement)
    (same : ∀ name ∈ fieldNames, name ≠ "columns" → next name = field name)
    (columns : withDefault [] (asList SelectColumn.ofJson) (next "columns") =
      .ok statement.columns) : ReadsAs next statement where
  table := same "table" (by decide) (by decide) ▸ read.table
  columns := columns
  conditions := same "where" (by decide) (by decide) ▸ read.conditions
  orderBy := same "order_by" (by decide) (by decide) ▸ read.orderBy
  limit := same "limit" (by decide) (by decide) ▸ read.limit
  offset := same "offset" (by decide) (by decide) ▸ read.offset
  joins := same "joins" (by decide) (by decide) ▸ read.joins

theorem congr {field next : String → Option Json} {statement : Statement}
    (read : ReadsAs field statement) (same : ∀ name ∈ fieldNames, next name = field name) :
    ReadsAs next statement :=
  read.congr_columns (fun name known _ => same name known)
    (same "columns" (by decide) ▸ read.columns)

theorem clauseLeftOut {members : List (String × Json)} {statement : Statement}
    (read : ReadsAs (List.lookup · members) statement) (name : String) (json : Json)
    (apart : name ≠ "table") (given : members.lookup name = some json) (empty : json.WritesEmpty) :
    ReadsAs (List.lookup · (leaveOut name members)) statement := by
  have orderRejects : ∀ order, OrderBy.ofJson (.array []) ≠ .ok order := by
    intro order read
    cases read
  have countRejects : ∀ count, asUInt64 (.array []) ≠ .ok count := by
    intro count read
    cases read
  have left {α : Type} (default value : α) (decode : Json → Except DecodeError α) (key : String)
      (emptyIsDefault : EmptyIsDefault default decode) :=
    withDefault_leftOut default value decode members name key json given empty emptyIsDefault
  exact {
    table := by
      rw [lookup_leaveOut, if_neg apart.symm]
      exact read.table
    columns := left _ _ _ _ (emptyIsDefault_list _) read.columns
    conditions := left _ _ _ _ (emptyIsDefault_list _) read.conditions
    orderBy := left _ _ _ _ (emptyIsDefault_option _ orderRejects) read.orderBy
    limit := left _ _ _ _ (emptyIsDefault_option _ countRejects) read.limit
    offset := left _ _ _ _ (emptyIsDefault_option _ countRejects) read.offset
    joins := left _ _ _ _ (emptyIsDefault_list _) read.joins }

end ReadsAs

/-- One change to the form of a statement: an empty clause is left out, a member that is no field is
left out or set to anything, or a column without a label is given null for it. -/
inductive Loosens : Json → Json → Prop
  | clauseLeftOut (members : List (String × Json)) (name : String) (json : Json)
    (clause : name ∈ fieldNames ∧ name ≠ "table") (given : members.lookup name = some json)
    (empty : json.WritesEmpty) : Loosens (.object members) (.object (leaveOut name members))
  | otherLeftOut (members : List (String × Json)) (name : String) (other : name ∉ fieldNames) :
    Loosens (.object members) (.object (leaveOut name members))
  | otherSet (members : List (String × Json)) (name : String) (value : Json)
    (other : name ∉ fieldNames) : Loosens (.object members) (.object (setMember name value members))
  | nullLabel (members column : List (String × Json)) (before after : List Json)
    (columns : members.lookup "columns" = some (.array (before ++ .object column :: after)))
    (unlabelled : column.lookup "alias" = none) :
    Loosens (.object members) (.object (setMember "columns"
      (.array (before ++ .object (setMember "alias" .null column) :: after)) members))

/-- Whatever object is read as a statement, it still is after the change. -/
theorem reads_loosened (statement : Statement) (tree next : Json) (loosens : Loosens tree next)
    (read : ofJson tree = .ok statement) : ofJson next = .ok statement := by
  cases loosens with
  | clauseLeftOut members name json clause given empty =>
    rw [ofJson_object] at read ⊢
    exact read.clauseLeftOut name json clause.2 given empty
  | otherLeftOut members name other =>
    rw [ofJson_object] at read ⊢
    refine read.congr fun key field => ?_
    have apart : key ≠ name := fun same => other (same ▸ field)
    rw [lookup_leaveOut, if_neg apart]
  | otherSet members name value other =>
    rw [ofJson_object] at read ⊢
    refine read.congr fun key field => ?_
    have apart : key ≠ name := fun same => other (same ▸ field)
    rw [lookup_setMember, if_neg apart]
  | nullLabel members column before after columns unlabelled =>
    rw [ofJson_object] at read ⊢
    -- All fields but the columns are where they were, and of these only one item is changed.
    have list := read.columns
    rw [columns] at list
    refine read.congr_columns ?_ ?_
    · intro key _ apart
      rw [lookup_setMember, if_neg apart]
    · rw [lookup_setMember, if_pos rfl]
      exact asList_replaced _ before after _ _ _
        (fun given read => given.ofJson_nullLabel column unlabelled read) list

theorem reads_loosenings (statement : Statement) (tree loose : Json)
    (loosened : ReflTransGen Loosens tree loose) (read : ofJson tree = .ok statement) :
    ofJson loose = .ok statement := by
  induction loosened with
  | refl => exact read
  | tail _ last ih => exact statement.reads_loosened _ _ last ih

theorem needs_table (members : List (String × Json)) :
    ofJson (.object (leaveOut "table" members)) = .error .wrongForm := by
  have absent : (leaveOut "table" members).lookup "table" = none := by
    rw [lookup_leaveOut, if_pos rfl]
  refine (bind_failure _ _ _).mpr (.inr ⟨_, rfl, (bind_failure _ _ _).mpr (.inl ?_)⟩)
  rw [absent]
  rfl

/-- A statement with a JSON form of its own is read back from the form after any number of changes
that loosen it, whatever the order of the members was; no object is read without its table. -/
theorem recovered_loosened :
    (∀ statement : Statement, statement.Storable →
      (∀ loose, ReflTransGen Loosens statement.toJson.sorted loose →
        ofJson loose = .ok statement) ∧
      ∀ order, KeepsMembers order → ∀ loose,
        ReflTransGen Loosens (statement.toJson.arranged order) loose →
          ofJson loose = .ok statement) ∧
    ∀ members, ofJson (.object (leaveOut "table" members)) = .error .wrongForm := by
  refine ⟨fun statement storable => ?_, needs_table⟩
  have arranged : ∀ order, KeepsMembers order → ∀ loose,
      ReflTransGen Loosens (statement.toJson.arranged order) loose →
        ofJson loose = .ok statement :=
    fun order keeps loose loosened =>
      statement.reads_loosenings _ loose loosened (statement.readsBack storable order keeps)
  refine ⟨?_, arranged⟩
  rw [sorted_eq_arranged]
  exact arranged inKeyOrder keepsMembers_inKeyOrder

/-- Two clauses of it are empty, and one column has no label. -/
def sampleSparse : Statement where
  table := "users"
  columns := [⟨"id", none⟩, ⟨"email", some "contact"⟩]
  conditions := [⟨"active", .literal (.bool true)⟩]
  orderBy := none
  limit := some 5
  offset := none
  joins := []

/-- The empty joins and the order are left out, the offset is not. -/
def sampleLoose : List (String × Json) := [
  ("columns", .array [
    .object [("alias", .null), ("column", .text "id")],
    .object [("alias", .text "contact"), ("column", .text "email")]]),
  ("comment", .array [.null]),
  ("limit", .int 5),
  ("offset", .null),
  ("table", .text "users"),
  ("type", .int 7),
  ("where", .array [.object [("column", .text "active"), ("value", .object [
    ("kind", .text "literal"),
    ("value", .object [("type", .text "bool"), ("value", .bool true)])])]])]

theorem sampleSparse_recovered : sampleSparse.Storable ∧
    ReflTransGen Loosens sampleSparse.toJson.sorted (.object sampleLoose) ∧
    ofJson (.object sampleLoose) = .ok sampleSparse ∧
    ofJson (.object (leaveOut "table" sampleLoose)) = .error .wrongForm := by
  have storable : sampleSparse.Storable := by
    intro condition member
    obtain rfl := List.mem_singleton.mp member
    exact ⟨fun _ other => (by cases other), by decide⟩
  have loosened : ReflTransGen Loosens sampleSparse.toJson.sorted (.object sampleLoose) :=
    .head (.clauseLeftOut _ "joins" (.array []) (by decide) rfl (.inl rfl)) <|
    .head (.clauseLeftOut _ "order_by" .null (by decide) rfl (.inr rfl)) <|
    .head (.otherSet _ "type" (.int 7) (by decide)) <|
    .head (.otherSet _ "comment" (.array [.null]) (by decide)) <|
    .single (.nullLabel _ [("column", .text "id")] []
      [.object [("alias", .text "contact"), ("column", .text "email")]] rfl rfl)
  exact ⟨storable, loosened, (recovered_loosened.1 sampleSparse storable).1 _ loosened,
    recovered_loosened.2 sampleLoose⟩

end Statement

end TypedSelect
