import TypedSelect.Form.Statement
import TypedSelect.Proofs.MemberOrder
import TypedSelect.Proofs.OperatorInsertion
import TypedSelect.Proofs.TimestampText
import TypedSelect.Proofs.WellTyped

/-! A statement's JSON form loses nothing. Every part of a statement is read back from its form,
in whatever order the members of the objects stand; only numbers that are not finite and sets of
operators that are malformed have no form of their own, and no query that was built from a root
holds any. -/
namespace TypedSelect

namespace Json

/-- The decoder gives back what was encoded, in whatever order the members are. -/
def ReadsBack {α : Type} (encode : α → Json) (decode : Json → Except DecodeError α) (value : α) :
    Prop :=
  ∀ order, KeepsMembers order → decode ((encode value).arranged order) = .ok value

theorem decode_bind {α β : Type} {decoded : Except DecodeError α}
    {next : α → Except DecodeError β} {value : α} {result : β} (first : decoded = .ok value)
    (second : next value = .ok result) : (decoded >>= next) = .ok result := by
  rw [first]
  exact second

theorem record_readsBack {α : Type} {order : List (String × Json) → List (String × Json)}
    (keeps : KeepsMembers order) (members : List (String × Json)) (names : List String)
    (next : (String → Option Json) → Except DecodeError α) (result : α)
    (distinct : (members.map Prod.fst).Nodup)
    (read : next (fun name => (members.lookup name).map (arranged order)) = .ok result) :
    (((Json.object members).arranged order).fields names >>= next) = .ok result :=
  decode_bind (fields_arranged keeps members distinct names) read

theorem text_readsBack (text : String) : ReadsBack Json.text asText text := by
  intro order _
  rfl

theorem list_readsBack {α : Type} (encode : α → Json) (decode : Json → Except DecodeError α)
    (items : List α) (each : ∀ item ∈ items, ReadsBack encode decode item) :
    ReadsBack (fun items => .array (items.map encode)) (asList decode) items := by
  intro order keeps
  change asList decode ((Json.array (items.map encode)).arranged order) = .ok items
  rw [arranged, arrangedItems_eq_map, List.map_map, asList]
  induction items with
  | nil => rfl
  | cons item rest ih =>
    have first := each item List.mem_cons_self order keeps
    have others := ih fun other member => each other (List.mem_cons_of_mem item member)
    rw [List.map_cons, List.mapM_cons]
    exact decode_bind first (decode_bind others rfl)

theorem optional_readsBack {α : Type} (encode : α → Json) (decode : Json → Except DecodeError α)
    (value : Option α) (rejectsNull : ∀ read, decode .null ≠ .ok read)
    (each : ∀ given ∈ value, ReadsBack encode decode given) :
    ReadsBack (fun value => (value.map encode).getD .null) (asOption decode) value := by
  intro order keeps
  cases value with
  | none => rfl
  | some given =>
    have read := each given rfl order keeps
    change asOption decode ((encode given).arranged order) = .ok (some given)
    unfold asOption
    split
    · rename_i null
      rw [null] at read
      exact absurd read (rejectsNull given)
    · rw [read]
      rfl

theorem int64_readsBack (n : Int64) : ReadsBack (fun n => .int n.toInt) asInt64 n := by
  intro order _
  change asInt64 (.int n.toInt) = .ok n
  unfold asInt64
  dsimp only
  rw [if_pos ⟨n.minValue_le_toInt, n.toInt_le⟩, Int64.ofInt_toInt]

theorem uint64_readsBack (n : UInt64) : ReadsBack (fun n => .int n.toNat) asUInt64 n := by
  intro order _
  change asUInt64 (.int n.toNat) = .ok n
  unfold asUInt64
  dsimp only
  rw [if_pos ⟨Int.natCast_nonneg _, Int.ofNat_lt.mpr n.toNat_lt_size⟩, Int.toNat_natCast,
    UInt64.ofNat_toNat]

end Json

open Json Time

/-- Every value has a JSON form of its own but the numbers that are not finite. -/
def Value.Storable : Value → Prop
  | .float x => x.isFinite = true
  | _ => True

instance : DecidablePred Value.Storable
  | .float x => inferInstanceAs (Decidable (x.isFinite = true))
  | .null | .bool _ | .int _ | .text _ | .date _ => isTrue trivial

structure Restriction.Storable (restriction : Restriction) : Prop where
  sets : ∀ set, restriction = .operators set → Operator.WellFormedList set.toList
  operands : ∀ value ∈ restriction.operands, value.Storable

/-- A statement whose sets of operators are neither empty nor have an empty list and whose
numbers are finite. -/
def Statement.Storable (statement : Statement) : Prop :=
  ∀ condition ∈ statement.conditions, condition.restriction.Storable

namespace Value

theorem ofInstantJson_text (t : Instant) :
    ofInstantJson (.text (String.ofList (t.text .exact))) = .ok (.date t) := by
  refine decode_bind (text_readsBack _ id keepsMembers_id) ?_
  rw [String.toList_ofList, t.read_text]

theorem readsBack (value : Value) (storable : value.Storable) :
    ReadsBack toJson ofJson value := by
  intro order keeps
  have content (kind : String) (content : Json) := pair_arranged keeps "type" "value" kind content
    (by decide)
  cases value with
  | null =>
    have distinct : ["type"].Nodup := by decide
    have tagged := tagged_arranged keeps [("type", .text "null")] distinct "type" "value" "null" rfl
    exact decode_bind tagged rfl
  | bool value => exact decode_bind (content "bool" (.bool value)) rfl
  | int value =>
    refine decode_bind (content "int" (.int value.toInt)) ?_
    exact congrArg (Except.map Value.int) (int64_readsBack value order keeps)
  | float x =>
    have finite : floatToJson x = .float x := if_pos storable
    refine decode_bind (content "float" (floatToJson x)) ?_
    rw [finite]
    rfl
  | text value => exact decode_bind (content "text" (.text value)) rfl
  | date value =>
    refine decode_bind (content "date" (.text (String.ofList (value.text .exact)))) ?_
    exact ofInstantJson_text value

end Value

theorem Comparison.ofTag?_tag (comparison : Comparison) :
    ofTag? comparison.tag = some comparison ∧ comparison.tag ≠ "in" := by
  cases comparison <;> decide

theorem Operator.readsBack (operator : Operator)
    (storable : ∀ value ∈ operator.operands, value.Storable) :
    ReadsBack toJson ofJson operator := by
  intro order keeps
  have content (tag : String) (content : Json) := pair_arranged keeps "op" "operand" tag content
    (by decide)
  cases operator with
  | compare comparison operand =>
    obtain ⟨found, notIn⟩ := comparison.ofTag?_tag
    have read := operand.readsBack (storable operand List.mem_cons_self) order keeps
    refine decode_bind (content comparison.tag operand.toJson) ?_
    dsimp only
    rw [if_neg notIn, found]
    exact congrArg (Except.map (Operator.compare comparison)) read
  | oneOf operands =>
    have read := list_readsBack Value.toJson Value.ofJson operands
      (fun value member => value.readsBack (storable value member)) order keeps
    refine decode_bind (content "in" (.array (operands.map Value.toJson))) ?_
    exact congrArg (Except.map Operator.oneOf) read

theorem OperatorSet.readsBack (set : OperatorSet) (wellFormed : Operator.WellFormedList set.toList)
    (storable : ∀ value ∈ set.toList.flatMap (·.operands), value.Storable) :
    ReadsBack toJson ofJson set := by
  intro order keeps
  have each (operator : Operator) (member : operator ∈ set.toList) :=
    operator.readsBack fun value given =>
      storable value (List.mem_flatMap_of_mem member given)
  have read := list_readsBack Operator.toJson Operator.ofJson set.toList each order keeps
  refine decode_bind read ?_
  rw [set.ofList_toList wellFormed]

theorem Restriction.readsBack (restriction : Restriction) (storable : restriction.Storable) :
    ReadsBack toJson ofJson restriction := by
  intro order keeps
  have content (kind : String) (content : Json) := pair_arranged keeps "kind" "value" kind content
    (by decide)
  cases restriction with
  | literal value =>
    have read := value.readsBack (storable.operands value List.mem_cons_self) order keeps
    refine decode_bind (content "literal" value.toJson) ?_
    exact congrArg (Except.map Restriction.literal) read
  | operators set =>
    have read := set.readsBack (storable.sets set rfl) storable.operands order keeps
    refine decode_bind (content "operators" set.toJson) ?_
    exact congrArg (Except.map Restriction.operators) read

theorem Condition.readsBack (condition : Condition) (storable : condition.restriction.Storable) :
    ReadsBack toJson ofJson condition := by
  intro order keeps
  have column := text_readsBack condition.column order keeps
  have restriction := condition.restriction.readsBack storable order keeps
  refine record_readsBack keeps _ _ _ _ ?_ ?_
  · change ["column", "value"].Nodup
    decide
  · exact decode_bind column (decode_bind restriction rfl)

theorem OrderDirection.readsBack (direction : OrderDirection) :
    ReadsBack toJson ofJson direction := by
  intro order _
  cases direction <;> rfl

theorem OrderBy.readsBack (orderBy : OrderBy) : ReadsBack toJson ofJson orderBy := by
  intro order keeps
  have column := text_readsBack orderBy.column order keeps
  have direction := orderBy.direction.readsBack order keeps
  refine record_readsBack keeps _ _ _ _ ?_ ?_
  · change ["column", "direction"].Nodup
    decide
  · exact decode_bind column (decode_bind direction rfl)

theorem JoinClause.readsBack (join : JoinClause) : ReadsBack toJson ofJson join := by
  intro order keeps
  have table := text_readsBack join.table order keeps
  have left := text_readsBack join.left order keeps
  have right := text_readsBack join.right order keeps
  refine record_readsBack keeps _ _ _ _ ?_ ?_
  · change ["table", "on_left", "on_right"].Nodup
    decide
  · exact decode_bind table (decode_bind left (decode_bind right rfl))

theorem SelectColumn.readsBack (column : SelectColumn) : ReadsBack toJson ofJson column := by
  intro order keeps
  obtain ⟨name, label⟩ := column
  have column := text_readsBack name order keeps
  cases label with
  | none =>
    refine record_readsBack keeps _ _ _ _ ?_ ?_
    · change ["column"].Nodup
      decide
    · exact decode_bind column rfl
  | some label =>
    refine record_readsBack keeps _ _ _ _ ?_ ?_
    · change ["column", "alias"].Nodup
      decide
    · exact decode_bind column rfl

namespace Statement

theorem countJson_readsBack (count : Option UInt64) :
    ReadsBack countJson (asOption asUInt64) count := by
  have read := optional_readsBack (fun n : UInt64 => .int n.toNat) asUInt64 count
    (fun _ => by simp [asUInt64]) fun n _ => uint64_readsBack n
  intro order keeps
  cases count <;> exact read order keeps

/-- What the decoders of the fields make of the parts of a record. -/
structure ReadsAs (field : String → Option Json) (statement : Statement) : Prop where
  table : required asText (field "table") = .ok statement.table
  columns : withDefault [] (asList SelectColumn.ofJson) (field "columns") = .ok statement.columns
  conditions : withDefault [] (asList Condition.ofJson) (field "where") = .ok statement.conditions
  orderBy : withDefault none (asOption OrderBy.ofJson) (field "order_by") = .ok statement.orderBy
  limit : withDefault none (asOption asUInt64) (field "limit") = .ok statement.limit
  offset : withDefault none (asOption asUInt64) (field "offset") = .ok statement.offset
  joins : withDefault [] (asList JoinClause.ofJson) (field "joins") = .ok statement.joins

theorem ofJson_fields (json : Json) (field : String → Option Json)
    (given : json.fields fieldNames = .ok field) (statement : Statement) :
    ofJson json = .ok statement ↔ ReadsAs field statement := by
  constructor
  · intro read
    obtain ⟨same, found, read⟩ := (bind_success _ _ _).mp read
    obtain rfl := Except.ok.inj (given.symm.trans found)
    obtain ⟨table, readTable, read⟩ := (bind_success _ _ _).mp read
    obtain ⟨columns, readColumns, read⟩ := (bind_success _ _ _).mp read
    obtain ⟨conditions, readConditions, read⟩ := (bind_success _ _ _).mp read
    obtain ⟨orderBy, readOrderBy, read⟩ := (bind_success _ _ _).mp read
    obtain ⟨limit, readLimit, read⟩ := (bind_success _ _ _).mp read
    obtain ⟨offset, readOffset, read⟩ := (bind_success _ _ _).mp read
    obtain ⟨joins, readJoins, read⟩ := (bind_success _ _ _).mp read
    obtain rfl := (ok_success _ statement).mp read
    exact ⟨readTable, readColumns, readConditions, readOrderBy, readLimit, readOffset, readJoins⟩
  · intro read
    exact decode_bind given (decode_bind read.table (decode_bind read.columns
      (decode_bind read.conditions (decode_bind read.orderBy (decode_bind read.limit
        (decode_bind read.offset (decode_bind read.joins rfl)))))))

theorem readsBack (statement : Statement) (storable : statement.Storable) :
    ReadsBack toJson ofJson statement := by
  intro order keeps
  have table := text_readsBack statement.table order keeps
  have columns := list_readsBack SelectColumn.toJson SelectColumn.ofJson statement.columns
    (fun column _ => column.readsBack) order keeps
  have conditions := list_readsBack Condition.toJson Condition.ofJson statement.conditions
    (fun condition member => condition.readsBack (storable condition member)) order keeps
  have orderBy := optional_readsBack OrderBy.toJson OrderBy.ofJson statement.orderBy
    (fun _ => by simp [OrderBy.ofJson, fields, bind, Except.bind])
    (fun given _ => given.readsBack) order keeps
  have limit := countJson_readsBack statement.limit order keeps
  have offset := countJson_readsBack statement.offset order keeps
  have joins := list_readsBack JoinClause.toJson JoinClause.ofJson statement.joins
    (fun join _ => join.readsBack) order keeps
  refine record_readsBack keeps _ _ _ _ ?_ ?_
  · change ["type", "table", "columns", "where", "order_by", "limit", "offset", "joins"].Nodup
    decide
  · exact decode_bind table (decode_bind columns (decode_bind conditions (decode_bind orderBy
      (decode_bind limit (decode_bind offset (decode_bind joins rfl))))))

/-- Reading a tree gives the statement back, and with it its texts. -/
def RecoveredFrom (statement : Statement) (tree : Json) : Prop :=
  ∃ read, Statement.ofJson tree = .ok read ∧ read = statement ∧ read.sql = statement.sql ∧
    read.parameterized = statement.parameterized

theorem recovered_arranged (statement : Statement) (storable : statement.Storable)
    (order : List (String × Json) → List (String × Json)) (keeps : KeepsMembers order) :
    statement.RecoveredFrom (statement.toJson.arranged order) :=
  ⟨statement, statement.readsBack storable order keeps, rfl, rfl, rfl⟩

theorem recovered_sorted (statement : Statement) (storable : statement.Storable) :
    statement.RecoveredFrom statement.toJson.sorted := by
  rw [sorted_eq_arranged]
  exact statement.recovered_arranged storable inKeyOrder keepsMembers_inKeyOrder

theorem storable_of_reached (registry : Registry) (steps : List Step) (query : Query)
    (statement : Statement) (reached : (Query.root registry).run steps = .ok query)
    (finished : query.toStatement = .ok statement) : statement.Storable := by
  have consistent := Query.run_consistent registry steps query reached
  obtain ⟨table, -, -, rfl⟩ := (Query.toStatement_ok query statement).mp finished
  intro condition member
  obtain ⟨-, sets, admitted⟩ := Query.restriction_sound registry query consistent condition member
  refine ⟨sets, ?_⟩
  intro value given
  cases value with
  | float x => exact (admitted _ given).finite x rfl
  | _ => trivial

/-- A statement with a JSON form of its own is read back from it, whether the members of its
objects stand in the order of their keys or in any other, and every query that is built by steps
from a root stands for such a statement. -/
theorem recovered_from_form :
    (∀ statement : Statement, statement.Storable →
      statement.RecoveredFrom statement.toJson.sorted ∧
        ∀ order, KeepsMembers order → statement.RecoveredFrom (statement.toJson.arranged order)) ∧
    ∀ (registry : Registry) (steps : List Step) (query : Query) (statement : Statement),
      (Query.root registry).run steps = .ok query → query.toStatement = .ok statement →
        statement.Storable ∧ statement.RecoveredFrom statement.toJson.sorted := by
  constructor
  · intro statement storable
    exact ⟨statement.recovered_sorted storable, statement.recovered_arranged storable⟩
  · intro registry steps query statement reached finished
    have storable := storable_of_reached registry steps query statement reached finished
    exact ⟨storable, statement.recovered_sorted storable⟩

/-- Half a second into the leap second at the end of 2016. -/
def leapInstant : Instant where
  second := 1483228799
  nano := 1500000000
  firstSecond_le := by decide
  le_lastSecond := by decide
  nano_lt := by decide
  leap_at_end := by decide

def sampleStored : Statement where
  table := "users"
  columns := [⟨"id", none⟩, ⟨"email", some "contact"⟩]
  conditions := [⟨"email", .literal .null⟩, ⟨"active", .literal (.bool true)⟩,
    ⟨"id", .operators ⟨[.compare .greater (.int (-9223372036854775808)),
      .oneOf [.int 4, .float ⟨0x8000000000000000⟩, .text "it's"]], by decide⟩⟩,
    ⟨"createdAt", .literal (.date leapInstant)⟩]
  orderBy := some ⟨"id", .descending⟩
  limit := some 18446744073709551615
  offset := some 0
  joins := [⟨"posts", "id", "userId"⟩, ⟨"tags", "postId", "ref"⟩]

theorem sampleStored_recovered : sampleStored.Storable ∧
    sampleStored.RecoveredFrom sampleStored.toJson.sorted ∧
    sampleStored.RecoveredFrom (sampleStored.toJson.arranged id) ∧
    ∃ query statement, (Query.root Query.sampleRegistry).run Query.sampleSteps = .ok query ∧
      query.toStatement = .ok statement ∧ statement.RecoveredFrom statement.toJson.sorted := by
  have storable : sampleStored.Storable := by
    have finite : ∀ condition ∈ sampleStored.conditions,
        ∀ value ∈ condition.restriction.operands, value.Storable := by decide
    intro condition member
    refine ⟨?_, finite condition member⟩
    intro set given
    simp only [sampleStored, List.mem_cons, List.not_mem_nil, or_false] at member
    rcases member with rfl | rfl | rfl | rfl
    · cases given
    · cases given
    · obtain rfl := Restriction.operators.inj given
      exact ⟨by decide, OperatorSet.increasing _, by decide⟩
    · cases given
  obtain ⟨query, statement, reached, finished⟩ : ∃ query statement,
      (Query.root Query.sampleRegistry).run Query.sampleSteps = .ok query ∧
        query.toStatement = .ok statement := ⟨_, _, rfl, rfl⟩
  obtain ⟨sorted, arranged⟩ := recovered_from_form.1 sampleStored storable
  obtain ⟨-, recovered⟩ := recovered_from_form.2 Query.sampleRegistry Query.sampleSteps query
    statement reached finished
  exact ⟨storable, sorted, arranged id keepsMembers_id, query, statement, reached, finished,
    recovered⟩

end Statement

end TypedSelect
