import ResourceServer.Proofs.Text.Numeral
import ResourceServer.Store.Basic

namespace ResourceServer.Store

/-!
# Walking through pages

A client that asks for pages of some size gets a cookie with every page but
the last, and asks for the next page with it. On a store that nobody changes
the pages make up the result of the query without pages: nothing is lost and
nothing comes twice.
-/

/-- The query that asks for the next page. -/
def nextQuery
    (query : Query)
    (cookie : String) :
    Query :=
  { query with cookie := some cookie }

/-- The pages that a client gets who follows the cookies to their end. -/
inductive Walk
    (store : Store) :
    Query → List Page → Prop where
  | last
      {query : Query}
      {page : Page}
      (answered : store.query query = .ok page)
      (ends : page.cookie = none) :
      Walk store query [page]
  | next
      {query : Query}
      {page : Page}
      {cookie : String}
      {pages : List Page}
      (answered : store.query query = .ok page)
      (continues : page.cookie = some cookie)
      (onward : Walk store (nextQuery query cookie) pages) :
      Walk store query (page :: pages)

/-- Following the cookies leads through the same pages every time. -/
theorem Walk.unique
    {store : Store}
    {query : Query}
    {pages others : List Page}
    (walk : store.Walk query pages)
    (other : store.Walk query others) :
    pages = others := by
  induction walk generalizing others with
  | last answered ends =>
      cases other with
      | last answeredAgain =>
          cases answered.symm.trans answeredAgain
          rfl
      | next answeredAgain continues =>
          cases answered.symm.trans answeredAgain
          cases ends.symm.trans continues
  | next answered continues onward inductionHypothesis =>
      cases other with
      | last answeredAgain ends =>
          cases answered.symm.trans answeredAgain
          cases ends.symm.trans continues
      | next answeredAgain continuesAgain onwardAgain =>
          cases answered.symm.trans answeredAgain
          cases continues.symm.trans continuesAgain
          rw [inductionHypothesis onwardAgain]

/-- A query that stores answer. -/
def Supported (query : Query) : Prop :=
  query.filter = some allFilter ∨ query.id = some allIdsQuery

/-- All results of a query, before any page is cut out. -/
def results
    (store : Store)
    (query : Query) :
    List Resource :=
  Resource.sortBy query.sortKeys
    (store.selected (query.filter ≠ some allFilter))

theorem length_results
    (store : Store)
    (query : Query) :
    (store.results query).length = store.size := by
  rw [results, Resource.sortBy, List.length_mergeSort, selected,
    List.length_map]
  rfl

/-- A supported query is answered with a page from its start on. -/
theorem query_of_supported
    {store : Store}
    {query : Query}
    (supported : Supported query)
    {start : Nat}
    (starts : startOf query = .ok start) :
    store.query query = .ok (pageFrom query (store.results query) start) := by
  have selects :
      store.idsOnly query = .ok (decide (query.filter ≠ some allFilter)) := by
    unfold idsOnly
    by_cases filtered : query.filter = some allFilter
    · simp only [filtered, if_true, ne_eq, not_true_eq_false, decide_false]
    · have byId : query.id = some allIdsQuery :=
        supported.resolve_left filtered
      simp only [filtered, byId, if_false, if_true, ne_eq,
        not_false_eq_true, decide_true]
  rw [Store.query, selects]
  show (startOf query >>= _) = _
  rw [starts]
  rfl

/-- A query for all resources fails only for want of a start. -/
theorem query_of_filter
    (store : Store)
    {query : Query}
    (isAll : query.filter = some allFilter) :
    store.query query =
      (startOf query).map
        (pageFrom query (Resource.sortBy query.sortKeys (store.selected false))) := by
  have selects : store.idsOnly query = .ok false :=
    if_pos isAll
  rw [Store.query, selects]
  show (startOf query >>= _) = _
  cases startOf query <;> rfl

/-! ## Single pages -/

theorem total_pageFrom
    {query : Query}
    (counts : query.countPolicy ≠ .none)
    (results : List Resource)
    (start : Nat) :
    (pageFrom query results start).total = results.length := by
  simp only [pageFrom, counts, ne_eq, not_false_eq_true, if_true]

/-- A page without a size holds all results from its start on. -/
theorem pageFrom_unsized
    {query : Query}
    (unsized : query.pageSize = 0)
    (results : List Resource)
    (start : Nat) :
    (pageFrom query results start).resources = results.drop start ∧
      (pageFrom query results start).cookie = none := by
  simp only [pageFrom, unsized, if_true, Nat.lt_irrefl, if_false, and_true]
  rw [← List.length_drop, List.take_length]

/-- A page that reaches the end holds what is left and has no cookie. -/
theorem pageFrom_of_reaches
    {query : Query}
    {results : List Resource}
    {start : Nat}
    (sized : 0 < query.pageSize)
    (reaches : results.length ≤ start + query.pageSize) :
    (pageFrom query results start).resources = results.drop start ∧
      (pageFrom query results start).cookie = none := by
  have hasSize : query.pageSize ≠ 0 := Nat.ne_of_gt sized
  -- A sum past sixty-four bits makes no difference: it is cut at the length.
  have cut : min (start + query.pageSize) results.length = results.length :=
    Nat.min_eq_right reaches
  simp only [pageFrom, hasSize, cut, if_false, Nat.lt_irrefl, and_true]
  rw [← List.length_drop, List.take_length]

/-- A page before the end is full, and its cookie is where it ends. -/
theorem pageFrom_of_more
    {query : Query}
    {results : List Resource}
    {start : Nat}
    (sized : 0 < query.pageSize)
    (more : start + query.pageSize < results.length) :
    (pageFrom query results start).resources =
        (results.drop start).take query.pageSize ∧
      (pageFrom query results start).cookie =
        some (toString (start + query.pageSize)) := by
  have hasSize : query.pageSize ≠ 0 := Nat.ne_of_gt sized
  have cut :
      min (start + query.pageSize) results.length = start + query.pageSize :=
    Nat.min_eq_left (Nat.le_of_lt more)
  simp only [pageFrom, hasSize, cut, if_false, more, if_true,
    Nat.add_sub_cancel_left, and_self]

/-- Where a query starts past the end, its page is empty and the last. -/
theorem pageFrom_of_beyond
    (query : Query)
    {results : List Resource}
    {start : Nat}
    (beyond : results.length ≤ start) :
    (pageFrom query results start).resources = [] ∧
      (pageFrom query results start).cookie = none := by
  rcases Nat.eq_zero_or_pos query.pageSize with unsized | sized
  · rw [← List.drop_eq_nil_of_le beyond]
    exact pageFrom_unsized unsized results start
  · rw [← List.drop_eq_nil_of_le beyond]
    exact pageFrom_of_reaches sized (Nat.le_add_right_of_le beyond)

/-- A page shows the results from its start on, as many as it has room for. -/
theorem resources_pageFrom
    (query : Query)
    (results : List Resource)
    (start : Nat) :
    (pageFrom query results start).resources =
      if query.pageSize = 0 then
        results.drop start
      else
        (results.drop start).take query.pageSize := by
  split
  · rename_i unsized
    exact (pageFrom_unsized unsized results start).1
  · rename_i hasSize
    have sized : 0 < query.pageSize := Nat.pos_of_ne_zero hasSize
    by_cases reaches : results.length ≤ start + query.pageSize
    · have isRest : (results.drop start).length ≤ query.pageSize := by
        rw [List.length_drop]
        omega
      rw [(pageFrom_of_reaches sized reaches).1, List.take_of_length_le isRest]
    · exact (pageFrom_of_more sized (Nat.lt_of_not_le reaches)).1

/-! ## The whole walk -/

/-- The cookie of a page is read back as the place where the page ends. -/
theorem startOf_nextQuery
    {query : Query}
    {start : Nat}
    (isBelow : start < Text.limit64) :
    startOf (nextQuery query (toString start)) = .ok start := by
  simp only [startOf, nextQuery, Text.unsigned?_toString isBelow]

/-- Pages that make up the results of a query from a start on. -/
structure Paged
    (store : Store)
    (query : Query)
    (start : Nat)
    (pages : List Page) : Prop where
  walk : store.Walk query pages
  full :
    ∀ page ∈ pages.dropLast, page.resources.length = query.pageSize
  joined : pages.flatMap Page.resources = (store.results query).drop start
  counted :
    query.countPolicy ≠ .none → ∀ page ∈ pages, page.total = store.size

namespace Paged

variable {store : Store} {query : Query} {start : Nat}

/-- Where the end is near, one page is all. -/
theorem of_reaches
    (supported : Supported query)
    (sized : 0 < query.pageSize)
    (starts : startOf query = .ok start)
    (reaches : store.size ≤ start + query.pageSize) :
    store.Paged query start
      [pageFrom query (store.results query) start] := by
  rw [← length_results store query] at reaches
  obtain ⟨isRest, noCookie⟩ := pageFrom_of_reaches sized reaches
  refine
    {
      walk := .last (query_of_supported supported starts) noCookie
      full := by
        intro page member
        cases member
      joined := ?_
      counted := ?_
    }
  · rw [List.flatMap_singleton, isRest]
  · intro counts page member
    obtain rfl := List.mem_singleton.mp member
    rw [total_pageFrom counts, length_results]

/-- A full page comes before the pages that its cookie leads to. -/
theorem of_more
    (supported : Supported query)
    (sized : 0 < query.pageSize)
    (starts : startOf query = .ok start)
    (more : start + query.pageSize < store.size)
    {pages : List Page}
    (onward :
      store.Paged
        (nextQuery query (toString (start + query.pageSize)))
        (start + query.pageSize)
        pages) :
    store.Paged query start
      (pageFrom query (store.results query) start :: pages) := by
  rw [← length_results store query] at more
  obtain ⟨isFull, hasCookie⟩ := pageFrom_of_more sized more
  have notLast : pages ≠ [] := by
    rintro rfl
    cases onward.walk
  refine
    {
      walk :=
        .next (query_of_supported supported starts) hasCookie onward.walk
      full := ?_
      joined := ?_
      counted := ?_
    }
  · intro page member
    rw [List.dropLast_cons_of_ne_nil notLast] at member
    rcases List.mem_cons.mp member with rfl | isLater
    · rw [isFull, List.length_take, List.length_drop]
      omega
    · exact onward.full page isLater
  · have rest :
        pages.flatMap Page.resources =
          (store.results query).drop (start + query.pageSize) :=
      onward.joined
    rw [List.flatMap_cons, isFull, rest, ← List.drop_drop,
      List.take_append_drop]
  · intro counts page member
    rcases List.mem_cons.mp member with rfl | isLater
    · rw [total_pageFrom counts, length_results]
    · exact onward.counted counts page isLater

end Paged

/-- From every start some pages lead through all results that are left. -/
theorem exists_paged
    {store : Store}
    (representable : store.size < Text.limit64)
    {query : Query}
    (supported : Supported query)
    (sized : 0 < query.pageSize)
    {start : Nat}
    (starts : startOf query = .ok start) :
    ∃ pages, store.Paged query start pages := by
  -- What is left of the results shrinks by a page with every cookie.
  generalize measure : store.size - start = left
  induction left using Nat.strongRecOn generalizing query start with
  | ind left inductionHypothesis =>
      by_cases more : start + query.pageSize < store.size
      · have readable : start + query.pageSize < Text.limit64 :=
          Nat.lt_trans more representable
        have closer : store.size - (start + query.pageSize) < left := by
          omega
        have nextSupported :
            Supported
              (nextQuery query (toString (start + query.pageSize))) :=
          supported
        obtain ⟨pages, onward⟩ :=
          inductionHypothesis _ closer nextSupported sized
            (startOf_nextQuery readable) rfl
        exact ⟨_, .of_more supported sized starts more onward⟩
      · exact ⟨_, .of_reaches supported sized starts (Nat.le_of_not_lt more)⟩

/--
The pages of a query hold what the query answers without pages, in that order:
all but the last are full, and each tells how many resources there are. To
start past the end is no error. A store is representable when its size is a
number of sixty-four bits.
-/
theorem paging_loses_and_repeats_nothing
    {store : Store}
    (representable : store.size < Text.limit64)
    {query : Query}
    (supported : Supported query) :
    (0 < query.pageSize →
      query.cookie = none →
        ∃ whole pages,
          store.query { query with pageSize := 0 } = .ok whole ∧
            store.Walk query pages ∧
            (∀ others, store.Walk query others → others = pages) ∧
            (∀ page ∈ pages.dropLast,
              page.resources.length = query.pageSize) ∧
            pages.flatMap Page.resources = whole.resources ∧
            (query.countPolicy ≠ .none →
              ∀ page ∈ pages, page.total = store.size)) ∧
      ∀ start,
        startOf query = .ok start →
          store.size ≤ start →
            ∃ page,
              store.query query = .ok page ∧
                page.resources = [] ∧
                page.cookie = none := by
  constructor
  · intro sized noCookie
    have starts : startOf query = .ok query.offset := by
      simp only [startOf, noCookie]
    obtain ⟨pages, paged⟩ :=
      exists_paged representable supported sized starts
    have wholeSupported : Supported { query with pageSize := 0 } := supported
    have wholeStarts :
        startOf { query with pageSize := 0 } = .ok query.offset := starts
    refine ⟨_, pages, query_of_supported wholeSupported wholeStarts, ?_⟩
    refine ⟨paged.walk, ?_, paged.full, ?_, paged.counted⟩
    · intro others walk
      exact walk.unique paged.walk
    · rw [paged.joined]
      exact (pageFrom_unsized rfl _ _).1.symm
  · intro start starts beyond
    rw [← length_results store query] at beyond
    exact ⟨_, query_of_supported supported starts,
      pageFrom_of_beyond query beyond⟩

/-- A store with three resources. -/
def three : Store :=
  ["b", "c", "A"].foldl
    (fun store id => store.insert ⟨id, 0, .null⟩)
    (empty "users")

/-- The query for all resources of a store, two to a page. -/
def inPairs : Query :=
  { filter := some allFilter, pageSize := 2, countPolicy := .exact }

/-- The three resources come on a full page and one that holds the last. -/
theorem pages_of_three :
    three.size < Text.limit64 ∧
      Supported inPairs ∧
      ∃ pages,
        three.Walk inPairs pages ∧
          (∀ page ∈ pages.dropLast, page.resources.length = 2) ∧
          pages.flatMap Page.resources =
            [⟨some "A", some "0", .null⟩,
              ⟨some "b", some "0", .null⟩,
              ⟨some "c", some "0", .null⟩] ∧
          ∀ page ∈ pages, page.total = 3 := by
  have representable : three.size < Text.limit64 := by decide
  have supported : Supported inPairs := .inl rfl
  obtain ⟨whole, pages, answered, walk, -, full, joined, counted⟩ :=
    (paging_loses_and_repeats_nothing representable supported).1
      (by decide) rfl
  have inOrder : three.results inPairs = three.selected false :=
    List.mergeSort_of_pairwise (by decide)
  have asked :
      three.query { inPairs with pageSize := 0 } =
        .ok
          (pageFrom { inPairs with pageSize := 0 }
            (three.results inPairs) 0) :=
    query_of_supported (.inl rfl) rfl
  rw [inOrder] at asked
  cases answered.symm.trans asked
  exact
    ⟨representable, supported, pages, walk, full, joined,
      counted (by decide)⟩

end ResourceServer.Store
