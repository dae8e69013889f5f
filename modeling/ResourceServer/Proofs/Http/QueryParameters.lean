import ResourceServer.Proofs.Http.CommonParameters
import ResourceServer.Proofs.Name.RoundTrip

namespace ResourceServer

/-!
# Parameters that a method consumes

A query consumes all parameters that say what it asks for, a reading the type
that is wanted, and a request to act the name of the action. Each is read from
the one value that it is given under a single spelling of its name.
-/

namespace Operation

open Protocol

/-- The value is the one that an operation has for a parameter of its own. -/
def Applies
    (operation : Operation)
    (parameter : Parameter)
    (value : String) : Prop :=
  match parameter, operation with
  | .mimeType, .read => ',' ∉ value.toList
  | .action, .create _ newId =>
      Text.sameFold value "create" = true ∧ newId = none
  | .action, .action name _ => name = value
  | .filter, .query asked => asked.filter = some value
  | .queryId, .query asked => asked.id = some value
  | .expression, .query asked => asked.expression = some value
  | .sortKeys, .query asked =>
      (listed value).mapM SortKey.parse = .ok asked.sortKeys
  | .pageSize, .query asked => number .pageSize value = .ok asked.pageSize
  | .offset, .query asked => number .offset value = .ok asked.offset
  | .cookie, .query asked => asked.cookie = some value
  | .countPolicy, .query asked => CountPolicy.parse value = .ok asked.countPolicy
  | _, _ => False

end Operation

namespace Protocol

/-! ## The settings of a query -/

/-- The settings make this of a query, and leave all else as it is. -/
def Takes (settings : List Setting) (change : Query → Query) : Prop :=
  ∀ name fields parameters asked fault,
    (Draft.setAll ⟨⟨name, fields, parameters, .query asked⟩, fault⟩
        settings).request =
      ⟨name, fields, parameters, .query (change asked)⟩

namespace Takes

variable
  {settings more : List Setting}
  {change next : Query → Query}

theorem request_setAll
    (takes : Takes settings change)
    {draft : Draft}
    {asked : Query}
    (isAsked : draft.request.operation = .query asked) :
    (draft.setAll settings).request =
      { draft.request with operation := .query (change asked) } := by
  obtain ⟨⟨name, fields, parameters, operation⟩, fault⟩ := draft
  cases isAsked
  exact takes name fields parameters asked fault

theorem append
    (first : Takes settings change)
    (second : Takes more next) :
    Takes (settings ++ more) (next ∘ change) := by
  intro name fields parameters asked fault
  have changed := first name fields parameters asked fault
  rw [Draft.setAll, List.foldl_append]
  refine (second.request_setAll (congrArg Request.operation changed)).trans ?_
  generalize Draft.request _ = request at changed ⊢
  rw [changed]
  rfl

/-- A setting that may be given changes a query only if it is. -/
theorem option
    {Value : Type}
    (make : Value → Setting)
    (put : Option Value → Query → Query)
    (keeps : ∀ asked, put none asked = asked)
    (applies :
      ∀ value name fields parameters asked,
        Request.apply ⟨name, fields, parameters, .query asked⟩ (make value) =
          .ok ⟨name, fields, parameters, .query (put (some value) asked)⟩)
    (given : Option Value) :
    Takes (given.toList.map make) (put given) := by
  intro name fields parameters asked fault
  cases given with
  | none =>
      rw [keeps]
      rfl
  | some value =>
      show (Draft.set _ (make value)).request = _
      rw [Draft.set, applies]

theorem sortKeys
    (keys : List SortKey) :
    Takes (keys.map .sortKey)
      fun asked => { asked with sortKeys := asked.sortKeys ++ keys } := by
  intro name fields parameters asked fault
  induction keys generalizing asked with
  | nil =>
      simp only [List.append_nil]
      rfl
  | cons key rest inductionHypothesis =>
      dsimp only
      rw [List.append_cons]
      exact
        inductionHypothesis
          { asked with sortKeys := asked.sortKeys ++ [key] }

end Takes

/-- What the one value of a parameter is read as, if there is one. -/
def Finds
    {Value : Type}
    (groups : List Group)
    (parameter : Parameter)
    (read : String → Except Failure Value)
    (found : Option Value) : Prop :=
  ∃ given,
    single groups parameter = .ok given ∧
      ∀ text, given = some text →
        ∃ value, found = some value ∧ read text = .ok value

/-- A parameter is read for an operation, where it is given. -/
def Reads
    (groups : List Group)
    (operation : Operation)
    (parameter : Parameter) : Prop :=
  ∃ given,
    single groups parameter = .ok given ∧
      ∀ value, given = some value → operation.Applies parameter value

section Settings

variable
  {Value : Type}
  {groups : List Group}
  {parameter : Parameter}
  {settings : List Setting}

theorem Finds.reads
    {operation : Operation}
    {read : String → Except Failure Value}
    {found : Option Value}
    (finds : Finds groups parameter read found)
    (applies :
      ∀ text value,
        found = some value →
          read text = .ok value → operation.Applies parameter text) :
    Reads groups operation parameter := by
  obtain ⟨given, isGiven, isRead⟩ := finds
  refine ⟨given, isGiven, ?_⟩
  intro text isText
  obtain ⟨value, isFound, reads⟩ := isRead text isText
  exact applies text value isFound reads

/-- A setting is that of the one value of its parameter, if there is one. -/
theorem setting_eq_ok
    {make : Value → Setting}
    {read : String → Except Failure Value}
    (isSet :
      setting groups parameter (fun text => (read text).map make) =
        .ok settings) :
    ∃ found,
      settings = found.toList.map make ∧ Finds groups parameter read found := by
  obtain ⟨given, isGiven, isSet⟩ := Name.bind_eq_ok_iff.mp isSet
  cases given with
  | none =>
      cases isSet
      exact ⟨none, rfl, none, isGiven, fun text isText => by cases isText⟩
  | some text =>
      obtain ⟨setting, isRead, isSet⟩ := Name.bind_eq_ok_iff.mp isSet
      obtain ⟨value, reads, rfl⟩ := Name.map_eq_ok_iff.mp isRead
      cases isSet
      refine ⟨some value, rfl, some text, isGiven, ?_⟩
      rintro _ ⟨⟩
      exact ⟨value, rfl, reads⟩

/-- A text that is set is set as it is given. -/
theorem setting_text_eq_ok
    {make : String → Setting}
    (isSet : setting groups parameter (.ok ∘ make) = .ok settings) :
    ∃ found,
      settings = found.toList.map make ∧ Finds groups parameter .ok found :=
  setting_eq_ok isSet

end Settings

/-- Reading in order what is made of each part is making it of all parts read. -/
theorem mapM_map_eq_ok
    {Made : Type}
    {Value : Type}
    {texts : List String}
    {read : String → Except Failure Value}
    {make : Value → Made}
    {made : List Made}
    (areMade : (texts.mapM fun text => (read text).map make) = .ok made) :
    ∃ values, texts.mapM read = .ok values ∧ made = values.map make := by
  induction Name.mapM_eq_ok_iff.mp areMade with
  | nil =>
      exact ⟨[], rfl, rfl⟩
  | cons isMade rest inductionHypothesis =>
      obtain ⟨value, isRead, rfl⟩ := Name.map_eq_ok_iff.mp isMade
      obtain ⟨values, areRead, rfl⟩ :=
        inductionHypothesis (Name.mapM_eq_ok_iff.mpr rest)
      refine ⟨value :: values, ?_, rfl⟩
      exact
        Name.mapM_eq_ok_iff.mpr (.cons isRead (Name.mapM_eq_ok_iff.mp areRead))

/-- The keys to sort by are the parts of a list, if there is one. -/
theorem sortKeys_eq_ok
    {Result : Type}
    {given : Option String}
    {next : List Setting → Except Failure Result}
    {last : Result}
    (isSet :
      (match given with
        | none => pure [] >>= next
        | some keys =>
            ((listed keys).mapM fun key =>
              (SortKey.parse key).map Setting.sortKey) >>= next) =
        .ok last) :
    ∃ keys,
      (∀ text, given = some text →
        (listed text).mapM SortKey.parse = .ok keys) ∧
        next (keys.map .sortKey) = .ok last := by
  cases given with
  | none =>
      refine ⟨[], ?_, isSet⟩
      rintro _ ⟨⟩
  | some text =>
      obtain ⟨settings, areSet, isSet⟩ := Name.bind_eq_ok_iff.mp isSet
      obtain ⟨keys, areRead, rfl⟩ := mapM_map_eq_ok areSet
      refine ⟨keys, ?_, isSet⟩
      rintro _ ⟨⟩
      exact areRead

/-- What the parameters that a query consumes are read as. -/
structure Asked where
  filter : Option String
  id : Option String
  expression : Option String
  sortKeys : List SortKey
  pageSize : Option Nat
  offset : Option Nat
  cookie : Option String
  countPolicy : Option CountPolicy

namespace Asked

/-- The settings of what is read, parameter by parameter. -/
def settings (asked : Asked) : List Setting :=
  asked.filter.toList.map .filter ++ asked.id.toList.map .queryId ++
    asked.expression.toList.map .expression ++
    asked.sortKeys.map .sortKey ++ asked.pageSize.toList.map .pageSize ++
    asked.offset.toList.map .offset ++ asked.cookie.toList.map .cookie ++
    asked.countPolicy.toList.map .countPolicy

/-- The query with all that is read. -/
def change (asked : Asked) (query : Query) : Query where
  filter := asked.filter.or query.filter
  id := asked.id.or query.id
  expression := asked.expression.or query.expression
  sortKeys := query.sortKeys ++ asked.sortKeys
  pageSize := asked.pageSize.getD query.pageSize
  offset := asked.offset.getD query.offset
  cookie := asked.cookie.or query.cookie
  countPolicy := asked.countPolicy.getD query.countPolicy

/-- All is read from the one value of its parameter, where there is one. -/
structure ReadFrom (groups : List Group) (asked : Asked) : Prop where
  filter : Finds groups .filter .ok asked.filter
  id : Finds groups .queryId .ok asked.id
  expression : Finds groups .expression .ok asked.expression
  sortKeys :
    ∃ given,
      single groups .sortKeys = .ok given ∧
        ∀ text, given = some text →
          (listed text).mapM SortKey.parse = .ok asked.sortKeys
  pageSize : Finds groups .pageSize (number .pageSize) asked.pageSize
  offset : Finds groups .offset (number .offset) asked.offset
  cookie : Finds groups .cookie .ok asked.cookie
  countPolicy : Finds groups .countPolicy CountPolicy.parse asked.countPolicy

theorem takes
    (asked : Asked) :
    Takes asked.settings asked.change := by
  have filter :=
    Takes.option .filter
      (fun given query => { query with filter := given.or query.filter })
      (fun _ => rfl) (fun _ _ _ _ _ => rfl) asked.filter
  have id :=
    Takes.option .queryId
      (fun given query => { query with id := given.or query.id })
      (fun _ => rfl) (fun _ _ _ _ _ => rfl) asked.id
  have expression :=
    Takes.option .expression
      (fun given query =>
        { query with expression := given.or query.expression })
      (fun _ => rfl) (fun _ _ _ _ _ => rfl) asked.expression
  have pageSize :=
    Takes.option .pageSize
      (fun given query => { query with pageSize := given.getD query.pageSize })
      (fun _ => rfl) (fun _ _ _ _ _ => rfl) asked.pageSize
  have offset :=
    Takes.option .offset
      (fun given query => { query with offset := given.getD query.offset })
      (fun _ => rfl) (fun _ _ _ _ _ => rfl) asked.offset
  have cookie :=
    Takes.option .cookie
      (fun given query => { query with cookie := given.or query.cookie })
      (fun _ => rfl) (fun _ _ _ _ _ => rfl) asked.cookie
  have countPolicy :=
    Takes.option .countPolicy
      (fun given query =>
        { query with countPolicy := given.getD query.countPolicy })
      (fun _ => rfl) (fun _ _ _ _ _ => rfl) asked.countPolicy
  exact
    filter.append id |>.append expression |>.append (.sortKeys asked.sortKeys)
      |>.append pageSize |>.append offset |>.append cookie
      |>.append countPolicy

theorem ReadFrom.reads
    {groups : List Group}
    {asked : Asked}
    (isRead : asked.ReadFrom groups) :
    ∀ parameter ∈ queryParameters,
      Reads groups (.query (asked.change {})) parameter := by
  obtain ⟨filter, id, expression, sortKeys, pageSize, offset, cookie,
    countPolicy⟩ := asked
  intro parameter isConsumed
  simp only [queryParameters, selectors, List.cons_append, List.nil_append,
    List.mem_cons, List.not_mem_nil, or_false] at isConsumed
  rcases isConsumed with
    rfl | rfl | rfl | rfl | rfl | rfl | rfl | rfl
  · exact isRead.filter.reads (by rintro text _ rfl ⟨⟩; rfl)
  · exact isRead.id.reads (by rintro text _ rfl ⟨⟩; rfl)
  · exact isRead.expression.reads (by rintro text _ rfl ⟨⟩; rfl)
  · exact isRead.sortKeys
  · exact isRead.pageSize.reads (by rintro text value rfl reads; exact reads)
  · exact isRead.offset.reads (by rintro text value rfl reads; exact reads)
  · exact isRead.cookie.reads (by rintro text _ rfl ⟨⟩; rfl)
  · exact isRead.countPolicy.reads (by rintro text value rfl reads; exact reads)

end Asked

/-- The settings of a query are those of what its parameters are read as. -/
theorem querySettings_eq_ok
    {groups : List Group}
    {settings : List Setting}
    (isSet : querySettings groups = .ok settings) :
    ∃ asked : Asked, settings = asked.settings ∧ asked.ReadFrom groups := by
  unfold querySettings at isSet
  obtain ⟨_, isFilter, isSet⟩ := Name.bind_eq_ok_iff.mp isSet
  obtain ⟨_, isId, isSet⟩ := Name.bind_eq_ok_iff.mp isSet
  obtain ⟨_, isExpression, isSet⟩ := Name.bind_eq_ok_iff.mp isSet
  obtain ⟨given, isGiven, isSet⟩ := Name.bind_eq_ok_iff.mp isSet
  obtain ⟨sortKeys, areKeys, isSet⟩ := sortKeys_eq_ok isSet
  obtain ⟨_, isSize, isSet⟩ := Name.bind_eq_ok_iff.mp isSet
  obtain ⟨_, isOffset, isSet⟩ := Name.bind_eq_ok_iff.mp isSet
  obtain ⟨_, isCookie, isSet⟩ := Name.bind_eq_ok_iff.mp isSet
  obtain ⟨_, isPolicy, isSet⟩ := Name.bind_eq_ok_iff.mp isSet
  cases isSet
  obtain ⟨filter, rfl, findsFilter⟩ := setting_text_eq_ok isFilter
  obtain ⟨id, rfl, findsId⟩ := setting_text_eq_ok isId
  obtain ⟨expression, rfl, findsExpression⟩ := setting_text_eq_ok isExpression
  obtain ⟨pageSize, rfl, findsSize⟩ := setting_eq_ok isSize
  obtain ⟨offset, rfl, findsOffset⟩ := setting_eq_ok isOffset
  obtain ⟨cookie, rfl, findsCookie⟩ := setting_text_eq_ok isCookie
  obtain ⟨countPolicy, rfl, findsPolicy⟩ := setting_eq_ok isPolicy
  exact
    ⟨⟨filter, id, expression, sortKeys, pageSize, offset, cookie, countPolicy⟩,
      rfl, findsFilter, findsId, findsExpression, ⟨given, isGiven, areKeys⟩,
      findsSize, findsOffset, findsCookie, findsPolicy⟩

/-- The type that a client wants to read is a single one, if it is given. -/
theorem checkMimeType_eq_ok
    {groups : List Group}
    (isChecked : checkMimeType groups = .ok ()) :
    Reads groups .read .mimeType := by
  unfold checkMimeType at isChecked
  split at isChecked
  · cases isChecked
  · rename_i isGiven
    refine ⟨none, isGiven, ?_⟩
    rintro _ ⟨⟩
  · rename_i mimeType isGiven
    split at isChecked
    · cases isChecked
    · rename_i isSingle
      refine ⟨some mimeType, isGiven, ?_⟩
      rintro _ ⟨⟩
      exact fun isList => isSingle (List.contains_iff_mem.mpr isList)

end Protocol

end ResourceServer
