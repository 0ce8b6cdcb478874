import TypedSelect.Proofs.ScopeColumns

/-! The order of joins does not matter for what is in scope. A join is refused for its table only if
the table disagrees with a table before it on the type of a column; so joins succeed one after
another if and only if all their tables agree, and the scope after them has the same columns for any
list of joins of the same tables, repeated ones included. -/
namespace TypedSelect

namespace Registry

/-- Each two of the tables give the same type to every column that both have. -/
def Agree (registry : Registry) (tables : List String) : Prop :=
  ∀ first ∈ tables, ∀ second ∈ tables, ∀ column type type',
    registry.typeIn? first column = some type → registry.typeIn? second column = some type' →
      type = type'

theorem Agree.mono (registry : Registry) (tables others : List String)
    (agree : registry.Agree others) (inside : ∀ table ∈ tables, table ∈ others) :
    registry.Agree tables :=
  fun first member second member' =>
    agree first (inside first member) second (inside second member')

theorem agree_congr (registry : Registry) (tables others : List String)
    (same : ∀ table, table ∈ tables ↔ table ∈ others) :
    registry.Agree tables ↔ registry.Agree others :=
  ⟨fun agree => agree.mono registry others tables fun table => (same table).mpr,
    fun agree => agree.mono registry tables others fun table => (same table).mp⟩

theorem typeIn?_of_table? (registry : Registry) (name : String) (table : Table)
    (found : registry.table? name = some table) (column : String) :
    registry.typeIn? name column = table.columnType? column := by
  rw [typeIn?, found]
  rfl

theorem agree_singleton (registry : Registry) (table : String) : registry.Agree [table] := by
  intro first member second member' column type type' owned owned'
  rw [List.mem_singleton.mp member] at owned
  rw [List.mem_singleton.mp member', owned] at owned'
  exact Option.some.inj owned'

end Registry

theorem Scope.conflict?_none (scope : Scope) (table : Table) (distinct : table.columnNames.Nodup) :
    scope.conflict? table = none ↔ ∀ column existing declared,
      scope.typeOf? column = some existing → table.columnType? column = some declared →
        existing = declared := by
  constructor
  · exact fun free column existing declared =>
      agree_of_conflict?_none scope table free column existing declared
  · intro agree
    apply List.findSome?_eq_none_iff.mpr
    intro column member
    have owned := columnType?_of_mem table.columns distinct column member
    cases known : scope.typeOf? column.name with
    | none => simp [columnConflict?, known]
    | some existing =>
      have same := agree column.name existing column.type known owned
      simp [columnConflict?, known, same]

/-- A scope that has exactly the columns of some registered tables, each name once. -/
structure Scope.Covers (registry : Registry) (tables : List String) (scope : Scope) : Prop where
  represents : scope.Represents (tables.filterMap registry.table?)
  distinct : (scope.columns.map (·.name)).Nodup

namespace Scope

theorem mem_columns_iff (registry : Registry) (tables : List String) (scope : Scope)
    (covers : scope.Covers registry tables) (column : Column) :
    column ∈ scope.columns ↔
      ∃ table ∈ tables, registry.typeIn? table column.name = some column.type := by
  rw [← Query.known_iff registry tables scope covers.represents]
  constructor
  · exact columnType?_of_mem scope.columns covers.distinct column
  · exact mem_of_columnType? scope.columns column.name column.type

theorem covers_ofTable (registry : Registry) (name : String) (table : Table)
    (found : registry.table? name = some table) : (ofTable table).Covers registry [name] := by
  refine ⟨?_, registry.columns_distinct name table found⟩
  rw [List.filterMap_cons_some found]
  exact represents_ofTable table

theorem covers_widened (registry : Registry) (tables : List String) (scope : Scope) (name : String)
    (table : Table) (covers : scope.Covers registry tables)
    (found : registry.table? name = some table) (free : scope.conflict? table = none) :
    (scope.widened table).Covers registry (tables ++ [name]) := by
  constructor
  · have wider := represents_widened scope _ table covers.represents free
    simpa [found] using wider
  · have closed := (firstOfEach_of_nodup Column.name scope.columns covers.distinct).symm
    rw [columns_widened scope scope.columns table closed
      (registry.columns_distinct name table found)]
    exact nodup_map_firstOfEach Column.name _

/-- A table can come into the scope of tables that agree if and only if it agrees with them too. -/
theorem conflict?_none_iff_agree (registry : Registry) (tables : List String) (scope : Scope)
    (name : String) (table : Table) (covers : scope.Covers registry tables)
    (agree : registry.Agree tables) (found : registry.table? name = some table) :
    scope.conflict? table = none ↔ registry.Agree (tables ++ [name]) := by
  have known := Query.known_iff registry tables scope covers.represents
  rw [conflict?_none scope table (registry.columns_distinct name table found)]
  constructor
  · intro free
    have withLast (other : String) (inside : other ∈ tables) (column : String)
        (type type' : ColumnType) (owned : registry.typeIn? other column = some type)
        (owned' : registry.typeIn? name column = some type') : type = type' := by
      rw [registry.typeIn?_of_table? name table found] at owned'
      exact free column type type' ((known column type).mpr ⟨other, inside, owned⟩) owned'
    intro first member second member' column type type' owned owned'
    rcases List.mem_append.mp member with inside | last <;>
      rcases List.mem_append.mp member' with inside' | last'
    · exact agree first inside second inside' column type type' owned owned'
    · rw [List.mem_singleton.mp last'] at owned'
      exact withLast first inside column type type' owned owned'
    · rw [List.mem_singleton.mp last] at owned
      exact (withLast second inside' column type' type owned' owned).symm
    · rw [List.mem_singleton.mp last] at owned
      rw [List.mem_singleton.mp last', owned] at owned'
      exact Option.some.inj owned'
  · intro agree column existing declared present owned
    obtain ⟨other, inside, owned'⟩ := (known column existing).mp present
    rw [← registry.typeIn?_of_table? name table found] at owned
    exact agree other (List.mem_append_left _ inside) name (by simp) column existing declared
      owned' owned

end Scope

def JoinClause.step (join : JoinClause) : Step :=
  .join join.table join.left join.right

namespace Query

theorem join_iff_agree (query : Query) (tables : List String) (join : JoinClause)
    (covers : query.scope.Covers query.registry tables) (agree : query.registry.Agree tables)
    (left : (query.scope.typeOf? join.left).isSome)
    (right : (query.registry.typeIn? join.table join.right).isSome) :
    (∃ next, query.apply join.step = .ok next) ↔ query.registry.Agree (tables ++ [join.table]) := by
  cases found : query.registry.table? join.table with
  | none => simp [Registry.typeIn?, found] at right
  | some table =>
    rw [query.registry.typeIn?_of_table? join.table table found] at right
    rw [← Scope.conflict?_none_iff_agree query.registry tables query.scope join.table table covers
      agree found]
    constructor
    · rintro ⟨next, applied⟩
      obtain ⟨joined, found', _, _, free, _⟩ :=
        (join_ok query next join.table join.left join.right).mp applied
      rw [found, Option.some.injEq] at found'
      exact found' ▸ free
    · intro free
      exact ⟨_, (join_ok query _ join.table join.left join.right).mpr
        ⟨table, found, left, right, free, rfl⟩⟩

/-- A join that succeeds adds its table to those that the scope covers. -/
theorem join_covers (query next : Query) (tables : List String) (join : JoinClause)
    (covers : query.scope.Covers query.registry tables)
    (applied : query.apply join.step = .ok next) :
    next.registry = query.registry ∧
      next.scope.Covers query.registry (tables ++ [join.table]) ∧
      ∀ column, (query.scope.typeOf? column).isSome → (next.scope.typeOf? column).isSome := by
  obtain ⟨table, found, _, _, free, rfl⟩ :=
    (join_ok query next join.table join.left join.right).mp applied
  refine ⟨rfl, Scope.covers_widened query.registry tables query.scope join.table table covers
    found free, query.scope.known_kept _ ?_⟩
  exact query.scope.typeOf?_widened_of_some table

theorem run_joins_covers (joins : List JoinClause) (query last : Query) (tables : List String)
    (covers : query.scope.Covers query.registry tables)
    (ran : query.run (joins.map JoinClause.step) = .ok last) :
    last.scope.Covers query.registry (tables ++ joins.map (·.table)) := by
  induction joins generalizing query tables with
  | nil =>
    obtain rfl := (run_nil query last).mp ran
    simpa using covers
  | cons join rest ih =>
    obtain ⟨next, applied, ran⟩ := (run_cons query last _ _).mp ran
    obtain ⟨sameRegistry, wider, _⟩ := join_covers query next tables join covers applied
    rw [← sameRegistry] at wider ⊢
    have covered := ih next (tables ++ [join.table]) wider ran
    rwa [List.append_assoc] at covered

/-- Joins on columns that are in scope succeed one after another if and only if their tables agree
with each other and with the tables before them. -/
theorem run_joins_iff (joins : List JoinClause) (query : Query) (tables : List String)
    (covers : query.scope.Covers query.registry tables) (agree : query.registry.Agree tables)
    (left : ∀ join ∈ joins, (query.scope.typeOf? join.left).isSome)
    (right : ∀ join ∈ joins, (query.registry.typeIn? join.table join.right).isSome) :
    (∃ last, query.run (joins.map JoinClause.step) = .ok last) ↔
      query.registry.Agree (tables ++ joins.map (·.table)) := by
  induction joins generalizing query tables with
  | nil =>
    rw [List.map_nil, List.map_nil, List.append_nil]
    exact ⟨fun _ => agree, fun _ => ⟨query, rfl⟩⟩
  | cons join rest ih =>
    obtain ⟨leftFirst, leftRest⟩ := List.forall_mem_cons.mp left
    obtain ⟨rightFirst, rightRest⟩ := List.forall_mem_cons.mp right
    have first := join_iff_agree query tables join covers agree leftFirst rightFirst
    have onward (next : Query) (applied : query.apply join.step = .ok next) :
        (∃ last, next.run (rest.map JoinClause.step) = .ok last) ↔
          query.registry.Agree (tables ++ (join :: rest).map (·.table)) := by
      obtain ⟨sameRegistry, wider, kept⟩ := join_covers query next tables join covers applied
      have agreed := first.mp ⟨next, applied⟩
      rw [List.map_cons, List.append_cons]
      rw [← sameRegistry] at wider agreed rightRest ⊢
      exact ih next (tables ++ [join.table]) wider agreed
        (fun other member => kept other.left (leftRest other member)) rightRest
    constructor
    · rintro ⟨last, ran⟩
      obtain ⟨next, applied, ran⟩ := (run_cons query last _ _).mp ran
      exact (onward next applied).mp ⟨last, ran⟩
    · intro all
      have agreed : query.registry.Agree (tables ++ [join.table]) :=
        all.mono query.registry _ _ (by simp; tauto)
      obtain ⟨next, applied⟩ := first.mpr agreed
      obtain ⟨last, ran⟩ := (onward next applied).mpr all
      exact ⟨last, (run_cons query last _ _).mpr ⟨next, applied, ran⟩⟩

def joinSteps (table : String) (joins : List JoinClause) : List Step :=
  .fromTable table :: joins.map JoinClause.step

theorem fromTable_covers (query based : Query) (table : String)
    (applied : query.apply (.fromTable table) = .ok based) :
    based.registry = query.registry ∧ based.scope.Covers query.registry [table] := by
  obtain ⟨found, present, rfl⟩ := (fromTable_ok query based table).mp applied
  exact ⟨rfl, Scope.covers_ofTable query.registry table found present⟩

theorem joinSteps_iff (query : Query) (table : String) (joins : List JoinClause)
    (registered : query.registry.contains table = true)
    (left : ∀ join ∈ joins, (query.registry.typeIn? table join.left).isSome)
    (right : ∀ join ∈ joins, (query.registry.typeIn? join.table join.right).isSome) :
    (∃ last, query.run (joinSteps table joins) = .ok last) ↔
      query.registry.Agree (table :: joins.map (·.table)) := by
  obtain ⟨found, present⟩ := Option.isSome_iff_exists.mp registered
  obtain ⟨based, applied⟩ : ∃ based, query.apply (.fromTable table) = .ok based :=
    ⟨_, (fromTable_ok query _ table).mpr ⟨found, present, rfl⟩⟩
  obtain ⟨sameRegistry, covers⟩ := fromTable_covers query based table applied
  have known : ∀ join ∈ joins, (based.scope.typeOf? join.left).isSome := by
    intro join member
    obtain ⟨type, owned⟩ := Option.isSome_iff_exists.mp (left join member)
    have present := (known_iff query.registry [table] based.scope covers.represents join.left
      type).mpr ⟨table, List.mem_singleton_self table, owned⟩
    exact Option.isSome_iff_exists.mpr ⟨type, present⟩
  have joined : (∃ last, based.run (joins.map JoinClause.step) = .ok last) ↔
      query.registry.Agree (table :: joins.map (·.table)) := by
    have agree := query.registry.agree_singleton table
    rw [← sameRegistry] at covers right agree ⊢
    exact run_joins_iff joins based [table] covers agree known right
  rw [← joined]
  constructor
  · rintro ⟨last, ran⟩
    obtain ⟨next, applied', ran⟩ := (run_cons query last _ _).mp ran
    rw [applied, Except.ok.injEq] at applied'
    exact ⟨last, applied' ▸ ran⟩
  · rintro ⟨last, ran⟩
    exact ⟨last, (run_cons query last _ _).mpr ⟨based, applied, ran⟩⟩

theorem joinSteps_covers (query last : Query) (table : String) (joins : List JoinClause)
    (ran : query.run (joinSteps table joins) = .ok last) :
    last.scope.Covers query.registry (table :: joins.map (·.table)) := by
  obtain ⟨based, applied, ran⟩ := (run_cons query last _ _).mp ran
  obtain ⟨sameRegistry, covers⟩ := fromTable_covers query based table applied
  rw [← sameRegistry] at covers ⊢
  exact run_joins_covers joins based last [table] covers ran

/-- Two lists of joins of the same tables, in any order and with any repetitions, on columns of the
base table: both succeed if and only if all the tables agree, and bring the same columns into
scope. -/
theorem joins_any_order (query : Query) (table : String) (first second : List JoinClause)
    (registered : query.registry.contains table = true)
    (same : ∀ name, name ∈ first.map (·.table) ↔ name ∈ second.map (·.table))
    (left : ∀ join ∈ first ++ second, (query.registry.typeIn? table join.left).isSome)
    (right : ∀ join ∈ first ++ second,
      (query.registry.typeIn? join.table join.right).isSome) :
    ((∃ last, query.run (joinSteps table first) = .ok last) ↔
        query.registry.Agree (table :: first.map (·.table))) ∧
      ((∃ last, query.run (joinSteps table second) = .ok last) ↔
        query.registry.Agree (table :: first.map (·.table))) ∧
      ∀ last last', query.run (joinSteps table first) = .ok last →
        query.run (joinSteps table second) = .ok last' →
          (∀ column, column ∈ last.scope.columns ↔ column ∈ last'.scope.columns) ∧
            (last.scope.columns.map (·.name)).Nodup ∧
            (last'.scope.columns.map (·.name)).Nodup := by
  have sameTables (name : String) :
      name ∈ table :: first.map (·.table) ↔ name ∈ table :: second.map (·.table) := by
    rw [List.mem_cons, List.mem_cons, same]
  rw [List.forall_mem_append] at left right
  refine ⟨joinSteps_iff query table first registered left.1 right.1, ?_, ?_⟩
  · rw [query.registry.agree_congr _ _ sameTables]
    exact joinSteps_iff query table second registered left.2 right.2
  · intro last last' ran ran'
    have covers := joinSteps_covers query last table first ran
    have covers' := joinSteps_covers query last' table second ran'
    refine ⟨fun column => ?_, covers.distinct, covers'.distinct⟩
    rw [last.scope.mem_columns_iff query.registry _ covers,
      last'.scope.mem_columns_iff query.registry _ covers']
    simp only [sameTables]

def postsThenUsers : List JoinClause :=
  [⟨"posts", "id", "userId"⟩, ⟨"users", "email", "email"⟩]

def usersThenPosts : List JoinClause :=
  [⟨"users", "id", "id"⟩, ⟨"posts", "email", "title"⟩, ⟨"posts", "id", "id"⟩]

theorem users_posts_any_order : ∃ last last',
    (root sampleRegistry).run (joinSteps "users" postsThenUsers) = .ok last ∧
      (root sampleRegistry).run (joinSteps "users" usersThenPosts) = .ok last' ∧
      sampleRegistry.Agree ["users", "posts", "users"] ∧
      (∀ column, column ∈ last.scope.columns ↔ column ∈ last'.scope.columns) ∧
      last.scope.columns.map (·.name) = ["id", "email", "userId", "title"] := by
  obtain ⟨last, last', ran, ran', names⟩ : ∃ last last',
      (root sampleRegistry).run (joinSteps "users" postsThenUsers) = .ok last ∧
        (root sampleRegistry).run (joinSteps "users" usersThenPosts) = .ok last' ∧
        last.scope.columns.map (·.name) = ["id", "email", "userId", "title"] :=
    ⟨_, _, rfl, rfl, rfl⟩
  have same (name : String) : name ∈ postsThenUsers.map (·.table) ↔
      name ∈ usersThenPosts.map (·.table) := by
    simp [postsThenUsers, usersThenPosts]
    tauto
  obtain ⟨succeeds, _, columns⟩ := joins_any_order (root sampleRegistry) "users" postsThenUsers
    usersThenPosts rfl same (by decide) (by decide)
  exact ⟨last, last', ran, ran', succeeds.mp ⟨last, ran⟩, (columns last last' ran ran').1, names⟩

end Query

end TypedSelect
