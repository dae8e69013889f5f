import ResourceServer.Proofs.Context.Normalizing
import ResourceServer.Proofs.Context.SharedAdvice

namespace ResourceServer

/-!
# Legal advice

Advice is put under names that are allowed, and in texts that can be printed.
That holds every owner of advice to legal names and values, in whatever way and
however often they are put. But putting is not the only way for advice to be
there: a frame that is restored has what was saved of it, and no name and no
value of that is looked at. So advice is legal just if it began with nothing or
if what was saved of it was legal already.
-/

namespace Record

variable
  {α : Type u}
  {record : Record α}
  {key : String}

theorem mem_of_get?
    {value : α}
    (found : record.get? key = some value) :
    (key, value) ∈ record := by
  induction record with
  | nil =>
      cases found
  | cons pair rest inductionHypothesis =>
      obtain ⟨name, content⟩ := pair
      rw [get?] at found
      split at found
      · rename_i isName
        cases found
        exact isName ▸ List.mem_cons_self
      · exact List.mem_cons_of_mem _ (inductionHypothesis found)

/-- Inserting adds one pair at most, whatever order the keys are in. -/
theorem eq_or_mem_of_mem_insert
    {value : α}
    {pair : String × α}
    (member : pair ∈ record.insert key value) :
    pair = (key, value) ∨ pair ∈ record := by
  induction record with
  | nil =>
      exact .inl (List.mem_singleton.mp member)
  | cons first rest inductionHypothesis =>
      rw [insert] at member
      split at member
      · exact List.mem_cons.mp member
      · split at member
        · exact (List.mem_cons.mp member).imp_right (List.mem_cons_of_mem first)
        · rcases List.mem_cons.mp member with rfl | inRest
          · exact .inr List.mem_cons_self
          · exact (inductionHypothesis inRest).imp_right
              (List.mem_cons_of_mem first)

theorem mem_insert_self
    (record : Record α)
    (key : String)
    (value : α) :
    (key, value) ∈ record.insert key value :=
  mem_of_get? (get?_insert_self record key value)

/-- The pair that inserting takes away is the one that was found for the key. -/
theorem mem_insert_or_get?
    {pair : String × α}
    (member : pair ∈ record)
    (key : String)
    (value : α) :
    pair ∈ record.insert key value ∨
      pair.1 = key ∧ record.get? key = some pair.2 := by
  induction record with
  | nil =>
      cases member
  | cons first rest inductionHypothesis =>
      obtain ⟨name, content⟩ := first
      rw [insert, get?]
      split
      · exact .inl (List.mem_cons_of_mem _ member)
      · split
        · rename_i isName
          rcases List.mem_cons.mp member with rfl | inRest
          · exact .inr ⟨isName, rfl⟩
          · exact .inl (List.mem_cons_of_mem _ inRest)
        · rcases List.mem_cons.mp member with rfl | inRest
          · exact .inl List.mem_cons_self
          · exact (inductionHypothesis inRest).imp_left
              (List.mem_cons_of_mem _)

end Record

/-! ## Putting legal advice -/

namespace Advice

/-- The entry could have been put: its name is allowed, and all of it printable. -/
structure Takes
    (advice : Advice)
    (entry : String × List String) : Prop where
  name : IsPrintable entry.1
  values : ∀ value ∈ entry.2, IsPrintable value
  allowed : advice.Allows entry.1

/-- Every entry could have been put. -/
def Legal (advice : Advice) : Prop :=
  ∀ entry ∈ advice.values, advice.Takes entry

/-- One attempt to add to advice. -/
inductive Addition where
  | put (name value : String)
  /-- Values in order, up to the first that is refused. -/
  | putAll (name : String) (values : List String)
  /-- By the context whose own frame holds the advice. -/
  | putOwn (id : String) (outer : List Node) (name value : String)

/-- The advice after an attempt; one that is refused adds nothing. -/
def add (advice : Advice) : Addition → Advice
  | .put name value =>
      match advice.put name value with
      | .ok advised => advised
      | .error _ => advice
  | .putAll name values => (advice.putAll name values).1
  | .putOwn id outer name value =>
      match (Context.mk ⟨id, .advice advice⟩ outer).putAdvice name value with
      | .ok advised => advised.own.frame.asAdvice?.getD advice
      | .error _ => advice

/-- The advice after attempts in order. -/
def addAll (advice : Advice) (additions : List Addition) : Advice :=
  additions.foldl add advice

variable
  {advice advised : Advice}
  {name value : String}

theorem legal_empty
    (restricted : List String) :
    (empty restricted).Legal :=
  List.forall_mem_nil _

/-- What is put joins the entry of its name. -/
theorem eq_of_put
    (isPut : advice.put name value = .ok advised) :
    advised =
      {
        advice with
        values := advice.values.insert name (advice.under name ++ [value])
      } := by
  unfold put at isPut
  split at isPut
  · cases isPut
  · split at isPut
    · cases isPut
    · exact (Except.ok.inj isPut).symm

/-- The entry of a name has all the values under it. -/
theorem mem_of_mem_under
    {old : String}
    (member : old ∈ advice.under name) :
    ∃ entry ∈ advice.values, entry.1 = name ∧ old ∈ entry.2 := by
  unfold under at member
  cases found : advice.values.get? name with
  | none =>
      rw [found] at member
      cases member
  | some values =>
      rw [found] at member
      exact ⟨(name, values), Record.mem_of_get? found, rfl, member⟩

/-- Putting neither brings in what is illegal nor takes it away. -/
theorem legal_put_iff
    (isPut : advice.put name value = .ok advised) :
    advised.Legal ↔ advice.Legal := by
  obtain ⟨allowed, printableName, printableValue⟩ :=
    put_succeeds_iff.mp ⟨advised, isPut⟩
  cases eq_of_put isPut
  constructor
  · intro legal entry member
    rcases Record.mem_insert_or_get? member name
        (advice.under name ++ [value]) with isKept | ⟨isName, isFound⟩
    · obtain ⟨entryName, values, entryAllowed⟩ := legal entry isKept
      exact ⟨entryName, values, entryAllowed⟩
    · have joined := legal _ (Record.mem_insert_self advice.values name _)
      refine
        ⟨isName ▸ printableName, fun old isOld => joined.values old ?_,
          isName ▸ allowed⟩
      have isUnder : old ∈ advice.under name := by
        rw [under, isFound]
        exact isOld
      exact List.mem_append_left [value] isUnder
  · intro legal entry member
    rcases Record.eq_or_mem_of_mem_insert member with rfl | isOld
    · refine ⟨printableName, ?_, allowed⟩
      intro one isOne
      rcases List.mem_append.mp isOne with isUnder | isNew
      · obtain ⟨old, isOld, -, isValue⟩ := mem_of_mem_under isUnder
        exact (legal old isOld).values one isValue
      · exact List.mem_singleton.mp isNew ▸ printableValue
    · obtain ⟨entryName, values, entryAllowed⟩ := legal entry isOld
      exact ⟨entryName, values, entryAllowed⟩

/-- The later advice has all of the earlier one, and is as legal or illegal. -/
structure Grows (earlier later : Advice) : Prop where
  kept : later.Extends earlier
  legal_iff : later.Legal ↔ earlier.Legal

namespace Grows

theorem refl
    (advice : Advice) :
    advice.Grows advice :=
  ⟨.refl advice, Iff.rfl⟩

theorem trans
    {first second third : Advice}
    (former : first.Grows second)
    (latter : second.Grows third) :
    first.Grows third :=
  ⟨latter.kept.trans former.kept, latter.legal_iff.trans former.legal_iff⟩

/-- Putting a value makes advice grow. -/
theorem of_put
    (isPut : advice.put name value = .ok advised) :
    advice.Grows advised :=
  ⟨.of_appends (put_eq_ok isPut), legal_put_iff isPut⟩

end Grows

/-- Putting values one after the other makes advice grow. -/
theorem grows_putAll
    (advice : Advice)
    (name : String)
    (values : List String) :
    advice.Grows (advice.putAll name values).1 := by
  induction values generalizing advice with
  | nil =>
      exact .refl advice
  | cons value rest inductionHypothesis =>
      rw [putAll]
      split
      · rename_i advised isPut
        exact (Grows.of_put isPut).trans (inductionHypothesis advised)
      · exact .refl advice

/-- A context puts advice just as its own frame does. -/
theorem add_putOwn
    (advice : Advice)
    (id : String)
    (outer : List Node)
    (name value : String) :
    advice.add (.putOwn id outer name value) =
      advice.add (.put name value) := by
  simp only [add, Context.putAdvice]
  cases advice.put name value <;> rfl

/-- An addition makes advice grow, whether it is accepted or not. -/
theorem grows_add
    (advice : Advice)
    (addition : Addition) :
    advice.Grows (advice.add addition) := by
  have grows_put :
      ∀ name value, advice.Grows (advice.add (.put name value)) := by
    intro name value
    rw [add]
    split
    · rename_i advised isPut
      exact .of_put isPut
    · exact .refl advice
  cases addition with
  | put name value =>
      exact grows_put name value
  | putAll name values =>
      exact advice.grows_putAll name values
  | putOwn id outer name value =>
      rw [add_putOwn]
      exact grows_put name value

/-- Along all attempts advice stays legal, or illegal, as it began. -/
theorem grows_addAll
    (advice : Advice)
    (additions : List Addition) :
    advice.Grows (advice.addAll additions) := by
  unfold addAll
  induction additions generalizing advice with
  | nil =>
      exact .refl advice
  | cons addition rest inductionHypothesis =>
      exact (advice.grows_add addition).trans
        (inductionHypothesis (advice.add addition))

end Advice

/-! ## What was saved of advice -/

namespace Json

/-- The value is an array, and the text is one of its items. -/
def HasText (value : Json) (text : String) : Prop :=
  ∃ items, value = .array items ∧ .string text ∈ items

/-- A JSON list of texts holds a text when the list does. -/
theorem hasText_ofTexts_iff
    {texts : List String}
    {text : String} :
    (ofTexts texts).HasText text ↔ text ∈ texts := by
  constructor
  · rintro ⟨_, ⟨⟩, member⟩
    obtain ⟨_, isText, ⟨⟩⟩ := List.mem_map.mp member
    exact isText
  · intro isText
    exact ⟨_, rfl, List.mem_map_of_mem isText⟩

/-- What is read item by item was written item by item. -/
theorem eq_map_of_mapM
    {Written Value : Type}
    {read? : Written → Option Value}
    {write : Value → Written}
    (isWritten :
      ∀ {written value}, read? written = some value → written = write value)
    {items : List Written}
    {values : List Value}
    (reads : items.mapM read? = some values) :
    items = values.map write := by
  induction items generalizing values with
  | nil =>
      cases reads
      rfl
  | cons item rest inductionHypothesis =>
      rw [List.mapM_cons] at reads
      obtain ⟨value, itemReads, reads⟩ := Option.bind_eq_some_iff.mp reads
      obtain ⟨others, restReads, reads⟩ := Option.bind_eq_some_iff.mp reads
      cases reads
      rw [List.map_cons, ← isWritten itemReads, ← inductionHypothesis restReads]

/-- JSON that reads as texts is the list of these texts. -/
theorem eq_ofTexts_of_asTexts?
    {value : Json}
    {texts : List String}
    (reads : value.asTexts? = some texts) :
    value = ofTexts texts := by
  have isString :
      ∀ {item : Json} {text : String},
        item.asText? = some text → item = .string text := by
    intro item text isText
    cases item <;> cases isText
    rfl
  obtain ⟨items, isArray, areTexts⟩ := Option.bind_eq_some_iff.mp reads
  cases value <;> cases isArray
  rw [ofTexts, ← eq_map_of_mapM isString areTexts]

/-- JSON that reads as a record of texts is the object of these texts. -/
theorem eq_object_of_asRecord?
    {value : Json}
    {record : Record (List String)}
    (reads : value.asRecord? asTexts? = some record) :
    value = .object (record.mapValues ofTexts) := by
  have isPair :
      ∀ {member : String × Json} {pair : String × List String},
        (member.2.asTexts?.map fun texts => (member.1, texts)) = some pair →
          member = (pair.1, ofTexts pair.2) := by
    intro member pair pairReads
    obtain ⟨texts, areTexts, rfl⟩ := Option.map_eq_some_iff.mp pairReads
    rw [← eq_ofTexts_of_asTexts? areTexts]
  obtain ⟨members, isObject, areRead⟩ := Option.bind_eq_some_iff.mp reads
  cases value <;> cases isObject
  rw [Record.mapValues, ← eq_map_of_mapM isPair areRead]

end Json

namespace Archive

variable
  {payload : Record Json}
  {advice : Advice}

/-- Values are saved under a name as advice. -/
def Advises (payload : Record Json) (name : String) (values : Json) : Prop :=
  ∃ entries,
    payload.get? "advices" = some (.object entries) ∧ (name, values) ∈ entries

/-- A name is saved as one that is withheld. -/
def Withholds (payload : Record Json) (name : String) : Prop :=
  ∃ names, payload.get? "restrictedAdviceNames" = some names ∧ names.HasText name

/-- All texts that are saved as advice could have been put. -/
structure AdvisesLegally (payload : Record Json) : Prop where
  names : ∀ {name values}, Advises payload name values → Advice.IsPrintable name
  values :
    ∀ {name values text},
      Advises payload name values →
        values.HasText text → Advice.IsPrintable text
  allowed :
    ∀ {name values withheld},
      Advises payload name values →
        Withholds payload withheld → Text.fold withheld ≠ Text.fold name

/-- A member of saved advice was read from what is written there, or nothing is. -/
theorem readAdviceMember_eq_ok
    {Value : Type}
    {key : String}
    {read? : Json → Option Value}
    {missing value : Value}
    (reads : readAdviceMember payload key read? missing = .ok value) :
    (∃ written, payload.get? key = some written ∧ read? written = some value) ∨
      (value = missing ∧
        ∀ {written}, payload.get? key = some written → written = .null) := by
  unfold readAdviceMember optional at reads
  cases found : payload.get? key with
  | none =>
      rw [found] at reads
      cases reads
      exact .inr ⟨rfl, fun isFound => by cases isFound⟩
  | some written =>
      rw [found] at reads
      by_cases isNull : written.isNull = true
      · have nothing : written = .null := by
          cases written <;> cases isNull
          rfl
        subst nothing
        cases reads
        exact .inr ⟨rfl, fun isFound => (Option.some.inj isFound).symm⟩
      · simp only [readNullable, if_neg isNull] at reads
        cases isRead : read? written with
        | none =>
            rw [isRead] at reads
            cases reads
        | some content =>
            rw [isRead] at reads
            cases reads
            exact .inl ⟨written, rfl, isRead⟩

/-- Advice is read from the withheld names and from the values of its payload. -/
theorem members_of_readAdvice
    (reads : readAdvice payload = .ok advice) :
    readAdviceMember payload "restrictedAdviceNames" Json.asTexts? [] =
        .ok advice.restricted ∧
      readAdviceMember payload "advices" (Json.asRecord? Json.asTexts?) [] =
        .ok advice.values := by
  unfold readAdvice at reads
  cases restrictedReads :
      readAdviceMember payload "restrictedAdviceNames" Json.asTexts? [] with
  | error failure =>
      rw [restrictedReads] at reads
      cases reads
  | ok restricted =>
      cases valuesRead :
          readAdviceMember payload "advices" (Json.asRecord? Json.asTexts?)
            [] with
      | error failure =>
          rw [restrictedReads, valuesRead] at reads
          cases reads
      | ok values =>
          rw [restrictedReads, valuesRead] at reads
          cases reads
          exact ⟨rfl, rfl⟩

/-- The names that a payload withholds are those of the advice read from it. -/
theorem withholds_iff_of_readAdvice
    (reads : readAdvice payload = .ok advice)
    {name : String} :
    Withholds payload name ↔ name ∈ advice.restricted := by
  rcases readAdviceMember_eq_ok (members_of_readAdvice reads).1 with
    ⟨written, isFound, areTexts⟩ | ⟨nothing, isNull⟩
  · rw [← Json.hasText_ofTexts_iff, ← Json.eq_ofTexts_of_asTexts? areTexts]
    simp only [Withholds, isFound, Option.some.injEq, exists_eq_left']
  · rw [nothing]
    constructor
    · rintro ⟨names, isFound, items, rfl, -⟩
      cases isNull isFound
    · intro member
      cases member

/-- What a payload advises is what the advice read from it holds. -/
theorem advises_iff_of_readAdvice
    (reads : readAdvice payload = .ok advice)
    {name : String}
    {values : Json} :
    Advises payload name values ↔
      ∃ texts, (name, texts) ∈ advice.values ∧ values = Json.ofTexts texts := by
  rcases readAdviceMember_eq_ok (members_of_readAdvice reads).2 with
    ⟨written, isFound, isRecord⟩ | ⟨nothing, isNull⟩
  · rw [Json.eq_object_of_asRecord? isRecord] at isFound
    simp only [Advises, isFound, Option.some.injEq, Json.object.injEq,
      exists_eq_left', Record.mapValues, List.mem_map, Prod.mk.injEq]
    constructor
    · rintro ⟨⟨_, texts⟩, member, rfl, rfl⟩
      exact ⟨texts, member, rfl⟩
    · rintro ⟨texts, member, rfl⟩
      exact ⟨(name, texts), member, rfl, rfl⟩
  · rw [nothing]
    constructor
    · rintro ⟨entries, isFound, -⟩
      cases isNull isFound
    · rintro ⟨texts, member, -⟩
      cases member

/-- Advice that is read is as legal as what it is read from. -/
theorem legal_iff_of_readAdvice
    (reads : readAdvice payload = .ok advice) :
    advice.Legal ↔ AdvisesLegally payload := by
  have advised :
      ∀ entry ∈ advice.values,
        Advises payload entry.1 (Json.ofTexts entry.2) := by
    rintro ⟨name, texts⟩ member
    exact (advises_iff_of_readAdvice reads).mpr ⟨texts, member, rfl⟩
  constructor
  · intro legal
    refine ⟨?_, ?_, ?_⟩
    · intro name values isAdvised
      obtain ⟨texts, member, -⟩ :=
        (advises_iff_of_readAdvice reads).mp isAdvised
      exact (legal _ member).name
    · intro name values text isAdvised hasText
      obtain ⟨texts, member, rfl⟩ :=
        (advises_iff_of_readAdvice reads).mp isAdvised
      exact (legal _ member).values text (Json.hasText_ofTexts_iff.mp hasText)
    · intro name values withheld isAdvised isWithheld
      obtain ⟨texts, member, -⟩ :=
        (advises_iff_of_readAdvice reads).mp isAdvised
      exact (legal _ member).allowed withheld
        ((withholds_iff_of_readAdvice reads).mp isWithheld)
  · intro legally entry member
    have isAdvised := advised entry member
    exact {
      name := legally.names isAdvised
      values := fun value isValue =>
        legally.values isAdvised (Json.hasText_ofTexts_iff.mpr isValue)
      allowed := fun withheld isWithheld =>
        legally.allowed isAdvised
          ((withholds_iff_of_readAdvice reads).mpr isWithheld)
    }

/-- Only what is read as advice becomes a frame of advice. -/
theorem readAdvice_of_read
    {registry : KindRegistry}
    {kind : String}
    (reads : registry.read kind payload = .ok (.advice advice)) :
    readAdvice payload = .ok advice := by
  unfold KindRegistry.read at reads
  split at reads
  · rename_i reader _
    cases reader with
    | root | internal | custom =>
        cases reads
    | typed frameKind =>
        cases frameKind with
        | advice =>
            obtain ⟨_, isRead, ⟨⟩⟩ := Name.map_eq_ok_iff.mp reads
            exact isRead
        | security | http | apiVersion | locale | router =>
            obtain ⟨_, -, ⟨⟩⟩ := typedFrame_eq_ok_iff.mp reads
  · cases reads

/-- The id of a frame is no part of its advice. -/
theorem advisesLegally_erase_id
    (payload : Record Json) :
    AdvisesLegally (payload.erase idKey) ↔ AdvisesLegally payload := by
  have sameMember :
      ∀ key, idKey ≠ key → (payload.erase idKey).get? key = payload.get? key :=
    fun key different => payload.get?_erase_of_ne different
  have sameAdvices := sameMember "advices" (by decide)
  have sameNames := sameMember "restrictedAdviceNames" (by decide)
  constructor
  · rintro ⟨names, values, allowed⟩
    simp only [Advises, Withholds, sameAdvices, sameNames] at names values allowed
    exact ⟨names, values, allowed⟩
  · rintro ⟨names, values, allowed⟩
    constructor <;> simp only [Advises, Withholds, sameAdvices, sameNames]
    · exact names
    · exact values
    · exact allowed

end Archive

namespace Context

/-- A frame of advice is restored as legal as it was saved. -/
theorem legal_iff_of_restore
    {registry : KindRegistry}
    {saved : Json}
    {context : Context}
    (restores : restore registry saved = .ok context) :
    ∃ layers,
      Archive.layers saved = .ok layers ∧
        ∀ (place : Nat) (id : String) (advice : Advice),
          context.nodes[place]? = some ⟨id, .advice advice⟩ →
            ∃ layer,
              layers[place]? = some layer ∧
                (advice.Legal ↔ Archive.AdvisesLegally layer.payload) := by
  obtain ⟨layers, nodes, isLayered, areRead, isReverse⟩ :=
    exists_layers_of_restore restores
  refine ⟨layers, isLayered, ?_⟩
  intro place id advice isFrame
  have inOrder := List.forall₂_reverse_iff.mpr areRead
  rw [List.reverse_reverse, ← isReverse] at inOrder
  obtain ⟨isNode, isFrame⟩ := List.getElem?_eq_some_iff.mp isFrame
  have isLayer : place < layers.length := inOrder.length_eq ▸ isNode
  have reads := inOrder.get isLayer isNode
  refine ⟨layers[place], List.getElem?_eq_getElem isLayer, ?_⟩
  rw [← Archive.advisesLegally_erase_id]
  apply Archive.legal_iff_of_readAdvice
  apply Archive.readAdvice_of_read
  have frameReads := Archive.read_of_readLayer reads
  rw [List.get_eq_getElem, List.get_eq_getElem, isFrame] at frameReads
  exact frameReads

/-- Whatever a frame of advice holds, there is a saved context with that in it. -/
theorem exists_restore_advice
    (advice : Advice) :
    ∃ saved context,
      restore .builtin saved = .ok context ∧
        context.own.frame = .advice advice := by
  have storable :
      ∀ node ∈ [Node.mk "1" (.advice advice)], node.frame.Storable [] := by
    intro node member
    cases List.mem_singleton.mp member
    exact .ofLibrary trivial
  have restores :
      restore .builtin (grown "0" [⟨"1", .advice advice⟩]).save = .ok _ :=
    restore_of_storable (List.forall_mem_nil _) storable
  exact ⟨_, _, restores, rfl⟩

/--
Advice that begins with nothing is legal, whatever is put, and by whomever.
Advice that is restored is legal just if all texts that were saved of its frame
are, and so it stays along all attempts to add to it. Any advice at all can come
out of a saved context.
-/
theorem advice_legal_iff_began_legally
    (registry : KindRegistry)
    (saved : Json)
    (restricted : List String)
    (additions : List Advice.Addition)
    (any : Advice) :
    ((Advice.empty restricted).addAll additions).Legal ∧
      (∀ context,
        restore registry saved = .ok context →
          ∃ layers,
            Archive.layers saved = .ok layers ∧
              ∀ (place : Nat) (id : String) (advice : Advice),
                context.nodes[place]? = some ⟨id, .advice advice⟩ →
                  ∃ layer,
                    layers[place]? = some layer ∧
                      ((advice.addAll additions).Legal ↔
                        Archive.AdvisesLegally layer.payload)) ∧
      ∃ archived context,
        restore .builtin archived = .ok context ∧
          context.own.frame = .advice any := by
  refine ⟨?_, ?_, exists_restore_advice any⟩
  · exact (Advice.grows_addAll _ additions).legal_iff.mpr
      (Advice.legal_empty restricted)
  · intro context restores
    obtain ⟨layers, isLayered, each⟩ := legal_iff_of_restore restores
    refine ⟨layers, isLayered, ?_⟩
    intro place id advice isFrame
    obtain ⟨layer, isLayer, legal_iff⟩ := each place id advice isFrame
    exact ⟨layer, isLayer,
      (advice.grows_addAll additions).legal_iff.trans legal_iff⟩

/-- A saved frame with a name that it withholds, and a value beyond ASCII. -/
def smuggled : Json :=
  .object
    [("kind", .string "advice"),
      ("parent",
        .object
          [("kind", .string "root"),
            ("payload", .object [("id", .string "0")])]),
      ("payload",
        .object
          [("advices", .object [("location", .array [.string "café"])]),
            ("id", .string "1"),
            ("restrictedAdviceNames", .array [.string "Location"])])]

/-- That frame is restored as it stands, and none of its texts could be put. -/
theorem restores_illegal_advice :
    ∃ context advice,
      restore .builtin smuggled = .ok context ∧
        context.own.frame = .advice advice ∧
        advice.under "location" = ["café"] ∧
        ¬ advice.Allows "location" ∧
        ¬ Advice.IsPrintable "café" ∧
        ¬ advice.Legal := by
  have areLayers :
      Archive.layers smuggled =
        .ok
          [⟨"advice",
              [("advices", .object [("location", .array [.string "café"])]),
                ("id", .string "1"),
                ("restrictedAdviceNames", .array [.string "Location"])]⟩,
            ⟨"root", [("id", .string "0")]⟩] := by
    rw [smuggled, Archive.layers_of_parent rfl rfl rfl rfl (by decide),
      Archive.layers_of_root rfl rfl rfl rfl]
    rfl
  let advice : Advice := ⟨["Location"], [("location", ["café"])]⟩
  have restores :
      restore .builtin smuggled =
        .ok ⟨⟨"1", .advice advice⟩, [⟨"0", .root⟩]⟩ := by
    rw [restore, areLayers]
    decide +kernel
  have withheld : ¬ advice.Allows "location" :=
    fun allowed => allowed "Location" List.mem_cons_self (by decide)
  have unprintable : ¬ Advice.IsPrintable "café" :=
    fun printable => absurd (printable 'é' (by decide)) (by decide)
  refine ⟨_, advice, restores, rfl, rfl, withheld, unprintable, ?_⟩
  intro legal
  exact withheld (legal _ List.mem_cons_self).allowed

end Context

end ResourceServer
