import ResourceServer.Proofs.Json.Pointer
import ResourceServer.Proofs.Record
import ResourceServer.Request.Builder

namespace ResourceServer

/-!
# Built requests

Building takes the settings in order. One that suits the verb of the request is
made, and one that does not leaves everything as it is and a fault behind, of
which only the first counts. What has been built is looked at as a whole when
no setting is at fault, and then every setting is in it: where there is room for
one value the last one given stands, and lists have all values in order.
-/

namespace Verb

/-- The name is no parameter of the resource in requests of the verb. -/
def Reserves : Verb → String → Prop
  | .action, name => name = "_mimeType"
  | _, name => name.toList.head? = some '_'

instance (verb : Verb) (name : String) :
    Decidable (verb.Reserves name) :=
  match verb with
  | .action => inferInstanceAs (Decidable (name = _))
  | .create | .read | .update | .delete | .patch | .query =>
      inferInstanceAs (Decidable (name.toList.head? = _))

end Verb

namespace Setting

/-! ## Settings that suit a verb -/

/-- A setting is of use to requests of a verb. -/
def Suits (verb : Verb) : Setting → Prop
  | .field _ => True
  | .parameter name _ => ¬ verb.Reserves name
  | .revision _ => verb ∈ [.update, .delete, .patch]
  | .newId _ => verb ∈ [.create]
  | .content _ => verb ∈ [.create, .update, .action]
  | .filter _ | .queryId _ | .expression _ | .sortKey _ | .pageSize _
  | .offset _ | .cookie _ | .countPolicy _ => verb ∈ [.query]

instance (verb : Verb) (setting : Setting) :
    Decidable (setting.Suits verb) :=
  match setting with
  | .field _ => inferInstanceAs (Decidable True)
  | .parameter _ _ => inferInstanceAs (Decidable (¬ _))
  | .revision _ | .newId _ | .content _ | .filter _ | .queryId _
  | .expression _ | .sortKey _ | .pageSize _ | .offset _ | .cookie _
  | .countPolicy _ => inferInstanceAs (Decidable (_ ∈ _))

/-- What a setting is called where it is of no use. -/
def title : Setting → String
  | .field _ => "field"
  | .parameter _ _ => "parameter"
  | .revision _ => "revision"
  | .newId _ => "new resource id"
  | .content _ => "content"
  | .filter _ => "query filter"
  | .queryId _ => "query id"
  | .expression _ => "query expression"
  | .sortKey _ => "sort key"
  | .pageSize _ => "page size"
  | .offset _ => "paged results offset"
  | .cookie _ => "paged results cookie"
  | .countPolicy _ => "total paged results policy"

/-- What is said of a setting that does not suit a verb. -/
def complaint (verb : Verb) : Setting → Failure
  | .parameter name _ =>
      .badRequest s!"unrecognized request parameter '{name}'"
  | setting =>
      .invalidArgument
        s!"{setting.title} does not apply to {verb.text} requests"

/-! ## What settings give -/

def field? : Setting → Option String
  | .field pointer => some pointer
  | _ => none

def parameter? : Setting → Option (String × String)
  | .parameter name value => some (name, value)
  | _ => none

/-- The value that a setting gives to the parameter of a name. -/
def valueOf? (name : String) : Setting → Option String
  | .parameter other value => if other = name then some value else none
  | _ => none

def revision? : Setting → Option String
  | .revision text => some text
  | _ => none

def newId? : Setting → Option String
  | .newId text => some text
  | _ => none

def content? : Setting → Option Json
  | .content value => some value
  | _ => none

def filter? : Setting → Option String
  | .filter text => some text
  | _ => none

def queryId? : Setting → Option String
  | .queryId text => some text
  | _ => none

def expression? : Setting → Option String
  | .expression text => some text
  | _ => none

def sortKey? : Setting → Option SortKey
  | .sortKey key => some key
  | _ => none

def pageSize? : Setting → Option Nat
  | .pageSize size => some size
  | _ => none

def offset? : Setting → Option Nat
  | .offset place => some place
  | _ => none

def cookie? : Setting → Option String
  | .cookie text => some text
  | _ => none

def countPolicy? : Setting → Option CountPolicy
  | .countPolicy policy => some policy
  | _ => none

theorem filterMap_cons_eq
    {Value : Type}
    (value? : Setting → Option Value)
    (setting : Setting)
    (rest : List Setting) :
    (setting :: rest).filterMap value? =
      [setting].filterMap value? ++ rest.filterMap value? :=
  List.filterMap_append (l := [setting])

/-- The last of the values that settings give. -/
def last
    {Value : Type}
    (value? : Setting → Option Value)
    (settings : List Setting) :
    Option Value :=
  (settings.filterMap value?).getLast?

/-- The last value is that of the others, or the first setting's if they give none. -/
theorem last_cons
    {Value : Type}
    (value? : Setting → Option Value)
    (setting : Setting)
    (rest : List Setting) :
    last value? (setting :: rest) = (last value? rest).or (value? setting) := by
  unfold last
  cases given : value? setting with
  | none =>
      rw [List.filterMap_cons_none given, Option.or_none]
  | some value =>
      rw [List.filterMap_cons_some given, List.getLast?_cons]
      cases (rest.filterMap value?).getLast? <;> rfl

@[simp] theorem last_singleton
    {Value : Type}
    (value? : Setting → Option Value)
    (setting : Setting) :
    last value? [setting] = value? setting :=
  last_cons value? setting []

end Setting

/-! ## What is built of settings -/

namespace Operation

/-- The operation with the last value of each setting that it has room for. -/
def given (settings : List Setting) : Operation → Operation
  | .create content newId =>
      .create
        ((Setting.last Setting.content? settings).getD content)
        ((Setting.last Setting.newId? settings).or newId)
  | .read => .read
  | .update content revision =>
      .update
        ((Setting.last Setting.content? settings).getD content)
        ((Setting.last Setting.revision? settings).or revision)
  | .delete revision =>
      .delete ((Setting.last Setting.revision? settings).or revision)
  | .patch operations revision =>
      .patch operations
        ((Setting.last Setting.revision? settings).or revision)
  | .action name content =>
      .action name ((Setting.last Setting.content? settings).getD content)
  | .query asked =>
      .query {
        filter := (Setting.last Setting.filter? settings).or asked.filter
        id := (Setting.last Setting.queryId? settings).or asked.id
        expression :=
          (Setting.last Setting.expression? settings).or asked.expression
        sortKeys := asked.sortKeys ++ settings.filterMap Setting.sortKey?
        pageSize :=
          (Setting.last Setting.pageSize? settings).getD asked.pageSize
        offset := (Setting.last Setting.offset? settings).getD asked.offset
        cookie := (Setting.last Setting.cookie? settings).or asked.cookie
        countPolicy :=
          (Setting.last Setting.countPolicy? settings).getD asked.countPolicy
      }

/-- The operation asks for nothing, or for more than one thing at once. -/
def Incomplete : Operation → Prop
  | .query asked => asked.selectors ≠ 1
  | .action name _ => name = ""
  | _ => False

@[simp] theorem verb_given
    (operation : Operation)
    (settings : List Setting) :
    (operation.given settings).verb = operation.verb := by
  cases operation <;> rfl

theorem given_nil
    (operation : Operation) :
    operation.given [] = operation := by
  cases operation with
  | query asked =>
      simp only [given, List.filterMap_nil, List.append_nil]
      rfl
  | create | read | update | delete | patch | action =>
      rfl

/-- What is built of settings is built of the first and then of the others. -/
theorem given_cons
    (operation : Operation)
    (setting : Setting)
    (rest : List Setting) :
    operation.given (setting :: rest) =
      (operation.given [setting]).given rest := by
  cases operation with
  | query asked =>
      simp only [given, Setting.last_cons _ setting rest, Setting.last_singleton,
        Setting.filterMap_cons_eq _ setting rest, Option.getD_or, Option.or_assoc,
        List.append_assoc]
  | create | read | update | delete | patch | action =>
      simp only [given, Setting.last_cons _ setting rest, Setting.last_singleton,
        Option.getD_or, Option.or_assoc]

/-- A name is reserved by an operation exactly when its verb reserves it. -/
theorem reserves_iff
    {operation : Operation}
    {name : String} :
    operation.reserves name = true ↔ operation.verb.Reserves name := by
  cases operation <;> simp [reserves, verb, Verb.Reserves, mimeTypeParameter]

/-- The last look at what has been built finds a fault if it is incomplete. -/
theorem exists_incomplete?_iff
    {operation : Operation} :
    (∃ failure, Draft.incomplete? operation = some failure) ↔
      operation.Incomplete := by
  cases operation with
  | query asked =>
      rw [Draft.incomplete?, Incomplete]
      split
      · rename_i nothing
        simp [nothing]
      · rename_i something
        split
        · rename_i several
          simp only [Option.some.injEq, exists_eq', true_iff]
          omega
        · simp only [reduceCtorEq, exists_false, false_iff]
          omega
  | action name content =>
      rw [Draft.incomplete?, Incomplete]
      split
      · simp [*]
      · simp [*]
  | create | read | update | delete | patch =>
      simp [Draft.incomplete?, Incomplete]

end Operation

namespace Request

/-- The request with all that settings give. -/
def given (request : Request) (settings : List Setting) : Request where
  name := request.name
  fields :=
    request.fields ++
      (settings.filterMap Setting.field?).map Json.Pointer.normalize
  parameters :=
    (settings.filterMap Setting.parameter?).foldl
      (fun parameters pair => parameters.insert pair.1 pair.2)
      request.parameters
  operation := request.operation.given settings

@[simp] theorem verb_given
    (request : Request)
    (settings : List Setting) :
    (request.given settings).verb = request.verb :=
  request.operation.verb_given settings

theorem given_nil
    (request : Request) :
    request.given [] = request := by
  unfold given
  rw [Operation.given_nil, List.filterMap_nil, List.map_nil, List.append_nil]
  rfl

/-- A request is built of the first setting and then of the others. -/
theorem given_cons
    (request : Request)
    (setting : Setting)
    (rest : List Setting) :
    request.given (setting :: rest) = (request.given [setting]).given rest := by
  simp only [given, Operation.given_cons _ setting rest,
    Setting.filterMap_cons_eq _ setting rest, List.map_append,
    List.append_assoc, List.foldl_append]

/-- A parameter is inserted among those that were given. -/
theorem given_parameter
    (request : Request)
    (name value : String) :
    request.given [.parameter name value] =
      { request with parameters := request.parameters.insert name value } := by
  obtain ⟨resource, fields, parameters, operation⟩ := request
  cases operation <;>
    simp only [given, Operation.given, Setting.last_singleton, Setting.field?,
      Setting.parameter?, Setting.sortKey?, List.filterMap_cons,
      List.filterMap_nil, List.append_nil, List.map_nil] <;>
    rfl

/-- A setting that suits the verb is made, and any other one is refused. -/
theorem apply_eq
    (request : Request)
    (setting : Setting) :
    request.apply setting =
      if setting.Suits request.verb then
        .ok (request.given [setting])
      else
        .error (setting.complaint request.verb) := by
  cases setting with
  | parameter name value =>
      rw [apply, withParameter, given_parameter]
      by_cases suits : Setting.Suits request.verb (.parameter name value)
      · rw [if_pos suits, if_neg (mt Operation.reserves_iff.mp suits)]
      · have reserved : request.verb.Reserves name := not_not.mp suits
        rw [if_neg suits, if_pos (Operation.reserves_iff.mpr reserved)]
        rfl
  | _ =>
      -- Any other setting suits a verb or not by its constructor alone.
      obtain ⟨name, fields, parameters, operation⟩ := request
      cases operation <;>
        simp only [given, Operation.given, Setting.last_singleton,
          Setting.field?, Setting.parameter?, Setting.sortKey?,
          List.filterMap_cons, List.filterMap_nil, List.append_nil,
          List.map_nil] <;>
        rfl

end Request

namespace Draft

variable
  (draft : Draft)
  (settings : List Setting)

/-! ## A sequence of settings -/

/-- A setting that suits the verb is put into the request, any other is a fault. -/
theorem set_eq
    (setting : Setting) :
    draft.set setting =
      if setting.Suits draft.request.verb then
        { draft with request := draft.request.given [setting] }
      else
        { draft with
          fault :=
            draft.fault.or (some (setting.complaint draft.request.verb)) } := by
  rw [set, Request.apply_eq]
  by_cases suits : setting.Suits draft.request.verb
  · rw [if_pos suits, if_pos suits]
  · rw [if_neg suits, if_neg suits]

theorem verb_set
    (setting : Setting) :
    (draft.set setting).request.verb = draft.request.verb := by
  rw [set_eq]
  split
  · exact draft.request.verb_given [setting]
  · rfl

/-- What has been built is all that the settings give that suit the verb. -/
theorem request_setAll :
    (draft.setAll settings).request =
      draft.request.given
        (settings.filter fun setting => setting.Suits draft.request.verb) := by
  unfold setAll
  induction settings generalizing draft with
  | nil =>
      exact draft.request.given_nil.symm
  | cons setting rest inductionHypothesis =>
      rw [List.foldl_cons, inductionHypothesis, verb_set, set_eq]
      by_cases suits : setting.Suits draft.request.verb
      · rw [if_pos suits, List.filter_cons_of_pos (by simpa using suits),
          ← Request.given_cons]
      · rw [if_neg suits, List.filter_cons_of_neg (by simpa using suits)]

/-- The fault of a draft is that of the first setting that does not suit. -/
theorem fault_setAll :
    (draft.setAll settings).fault =
      draft.fault.or
        ((settings.find? fun setting =>
          ¬ setting.Suits draft.request.verb).map fun setting =>
            setting.complaint draft.request.verb) := by
  unfold setAll
  induction settings generalizing draft with
  | nil =>
      exact Option.or_none.symm
  | cons setting rest inductionHypothesis =>
      rw [List.foldl_cons, inductionHypothesis, verb_set, set_eq]
      by_cases suits : setting.Suits draft.request.verb
      · rw [if_pos suits, List.find?_cons_of_neg (by simpa using suits)]
      · rw [if_neg suits, List.find?_cons_of_pos (by simpa using suits),
          Option.or_assoc]
        rfl

variable
  {draft settings}

/-- The first setting that does not suit is what building fails of. -/
theorem build_of_not_suits
    {front back : List Setting}
    {setting : Setting}
    (noFault : draft.fault = none)
    (suitFirst : ∀ earlier ∈ front, earlier.Suits draft.request.verb)
    (notSuits : ¬ setting.Suits draft.request.verb) :
    (draft.setAll (front ++ setting :: back)).build =
      .error (setting.complaint draft.request.verb) := by
  have isFirst :
      ((front ++ setting :: back).find? fun setting =>
        ¬ setting.Suits draft.request.verb) = some setting := by
    rw [List.find?_append, List.find?_eq_none.mpr (by simpa using suitFirst),
      Option.none_or, List.find?_cons_of_pos (by simpa using notSuits)]
  have isFault := fault_setAll draft (front ++ setting :: back)
  rw [noFault, isFirst] at isFault
  rw [build, isFault]
  rfl

/-- Where all settings suit, what is built of them is looked at as a whole. -/
theorem build_of_suits
    (noFault : draft.fault = none)
    (suit : ∀ setting ∈ settings, setting.Suits draft.request.verb) :
    (draft.setAll settings).build =
      match incomplete? (draft.request.operation.given settings) with
      | some failure => .error failure
      | none => .ok (draft.request.given settings) := by
  have isFault := fault_setAll draft settings
  rw [noFault, List.find?_eq_none.mpr (by simpa using suit)] at isFault
  have isRequest := request_setAll draft settings
  rw [List.filter_eq_self.mpr (by simpa using suit)] at isRequest
  rw [build, isFault, isRequest]
  rfl

end Draft

/-! ## Built requests -/

namespace Setting

/-- A parameter has the last of the values that settings give to it. -/
theorem get?_parameters
    (settings : List Setting)
    (name : String) :
    (Record.ofList (settings.filterMap parameter?)).get? name =
      last (valueOf? name) settings := by
  induction settings with
  | nil =>
      rfl
  | cons setting rest inductionHypothesis =>
      have ofOne :
          (Record.ofList ([setting].filterMap parameter?)).get? name =
            valueOf? name setting := by
        cases setting <;> rfl
      rw [filterMap_cons_eq, Record.get?_ofList_append, inductionHypothesis,
        ofOne, last_cons]

end Setting

namespace Request

/-- What settings build of an operation on a resource. -/
def built
    (name : Name)
    (operation : Operation)
    (settings : List Setting) :
    Except Failure Request :=
  ((Draft.start name operation).setAll settings).build

variable
  {name : Name}
  {operation : Operation}
  {settings : List Setting}

/-- When all settings suit, what is built is the request that they give, if it is
complete. -/
theorem built_of_suits
    (suit : ∀ setting ∈ settings, setting.Suits operation.verb) :
    built name operation settings =
      match Draft.incomplete? (operation.given settings) with
      | some failure => .error failure
      | none => .ok (given ⟨name, [], [], operation⟩ settings) :=
  Draft.build_of_suits rfl suit

/-- A setting that does not suit the verb makes building fail. -/
theorem error_of_not_suits
    {setting : Setting}
    (isSetting : setting ∈ settings)
    (notSuits : ¬ setting.Suits operation.verb) :
    ∃ failure, built name operation settings = .error failure := by
  have isFound :
      (settings.find? fun setting => ¬ setting.Suits operation.verb).isSome :=
    List.find?_isSome.mpr ⟨setting, isSetting, by simpa using notSuits⟩
  obtain ⟨first, isFirst⟩ := Option.isSome_iff_exists.mp isFound
  obtain ⟨firstNot, front, back, rfl, suitFront⟩ :=
    List.find?_eq_some_iff_append.mp isFirst
  have suitFirst : ∀ earlier ∈ front, earlier.Suits operation.verb := by
    simpa using suitFront
  have isUnfit : ¬ first.Suits operation.verb := by
    simpa using firstNot
  exact ⟨_, Draft.build_of_not_suits rfl suitFirst isUnfit⟩

/-- Building fails just where a setting does not suit or the whole does not. -/
theorem exists_error_iff :
    (∃ failure, built name operation settings = .error failure) ↔
      (∃ setting ∈ settings, ¬ setting.Suits operation.verb) ∨
        (operation.given settings).Incomplete := by
  by_cases suit : ∀ setting ∈ settings, setting.Suits operation.verb
  · have noneUnfit : ¬ ∃ setting ∈ settings, ¬ setting.Suits operation.verb := by
      rintro ⟨setting, isSetting, notSuits⟩
      exact notSuits (suit setting isSetting)
    rw [or_iff_right noneUnfit, ← Operation.exists_incomplete?_iff,
      built_of_suits suit]
    cases Draft.incomplete? (operation.given settings) <;> simp
  · push Not at suit
    obtain ⟨setting, isSetting, notSuits⟩ := suit
    exact ⟨fun _ => .inl ⟨setting, isSetting, notSuits⟩,
      fun _ => error_of_not_suits isSetting notSuits⟩

/-- Of two settings that do not suit, the one that comes first is reported. -/
example :
    built .empty .read [.field "a", .revision "7", .parameter "_fields" "b"] =
      .error (.invalidArgument "revision does not apply to read requests") := by
  rfl

end Request

end ResourceServer
