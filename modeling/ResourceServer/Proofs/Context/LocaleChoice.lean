import Mathlib.Data.List.Forall2
import Mathlib.Data.List.TakeWhile
import ResourceServer.Context.Locale

namespace ResourceServer.Locales

/-!
# Which locale is chosen

Tags are compared by their one spelling, so comparing them is an equivalence. A
preference whose bare language is listed again after it leaves that language to
the later entry. Nothing is lost by that: whatever means the bare language means
the later entry as well, which is reached unless a tag is chosen before. So a tag
is chosen wherever one means a preference or the bare language of one.
-/

/--
Two characters stand for the same in tags: small and capital ASCII letters do,
and so do the hyphen and the underscore.
-/
inductive AlikeChar : Char → Char → Prop where
  | same
      (char : Char) :
      AlikeChar char char
  | separators
      {left right : Char}
      (leftSeparates : left = '-' ∨ left = '_')
      (rightSeparates : right = '-' ∨ right = '_') :
      AlikeChar left right
  | lowered
      {capital small : Char}
      (isCapital : capital.isUpper = true)
      (isSmall : small.toNat = capital.toNat + 32) :
      AlikeChar capital small
  | raised
      {small capital : Char}
      (isCapital : capital.isUpper = true)
      (isSmall : small.toNat = capital.toNat + 32) :
      AlikeChar small capital

/-- Two tags mean the same: they are alike, character by character. -/
def Alike (left right : String) : Prop :=
  List.Forall₂ AlikeChar left.toList right.toList

/-- The bare language of a tag is what comes before its first separator, if any. -/
structure IsLanguage (tag bare : String) : Prop where
  noSeparator : ∀ char ∈ bare.toList, char ≠ '-' ∧ char ≠ '_'
  isBeginning :
    ∃ rest,
      tag.toList = bare.toList ++ rest ∧
        ∀ char, rest.head? = some char → char = '-' ∨ char = '_'

/-- None of the available tags means the same as a tag. -/
def Lacks (available : List String) (tag : String) : Prop :=
  ∀ candidate ∈ available, ¬ Alike candidate tag

/-- One of the preferences means the same as a tag. -/
def Lists (preferences : List String) (tag : String) : Prop :=
  ∃ preference ∈ preferences, Alike preference tag

/-- A tag means a preference, or the bare language of it. -/
def Suits (tag preference : String) : Prop :=
  Alike tag preference ∨ ∃ bare, IsLanguage preference bare ∧ Alike tag bare

/-- A tag is available, and none before it means the same. -/
def IsFirst (available : List String) (tag : String) : Prop :=
  ∃ before after, available = before ++ tag :: after ∧ Lacks before tag

/-- Nothing is chosen for a preference, with these after it. -/
structure PassedOver
    (available : List String)
    (preference : String)
    (later : List String) :
    Prop where
  lacks : Lacks available preference
  bare : ∃ bare, IsLanguage preference bare ∧ (Lists later bare ∨ Lacks available bare)

/-- A tag is chosen for a preference, with these before and after it. -/
structure ChosenAt
    (available earlier : List String)
    (preference : String)
    (later : List String)
    (tag : String) :
    Prop where
  first : IsFirst available tag
  passed :
    ∀ before other after,
      earlier = before ++ other :: after →
        PassedOver available other (after ++ preference :: later)
  means :
    Alike tag preference ∨
      (Lacks available preference ∧
        ∃ bare,
          IsLanguage preference bare ∧ Alike tag bare ∧ ¬ Lists later bare)

variable
  {available earlier later : List String}
  {preference tag other bare : String}

/-! ## Comparing characters -/

/-- The character that stands for all that are alike. -/
def plain (char : Char) : Char :=
  (if char = '_' then '-' else char).toLower

/-- The code point of the character that stands for one. -/
theorem toNat_plain
    (char : Char) :
    (plain char).toNat =
      if char.toNat = 95 then 45
      else if 65 ≤ char.toNat ∧ char.toNat ≤ 90 then char.toNat + 32
      else char.toNat := by
  have isUnderscore : char = '_' ↔ char.toNat = 95 :=
    Char.toNat_inj.symm
  rw [plain]
  by_cases underscore : char = '_'
  · rw [if_pos underscore, if_pos (isUnderscore.mp underscore)]
    rfl
  · rw [if_neg underscore, if_neg (mt isUnderscore.mpr underscore)]
    by_cases isCapital : 65 ≤ char.toNat ∧ char.toNat ≤ 90
    · have lowered : char.toLower.val = char.val + 32 :=
        Text.val_toLower_of_capital isCapital
      have isSmall : char.val.toNat ≤ 90 := isCapital.2
      rw [if_pos isCapital, Char.toNat, Char.toNat, lowered, UInt32.toNat_add]
      simp only [UInt32.reduceToNat]
      omega
    · rw [if_neg isCapital, Text.toLower_of_not_capital isCapital]

theorem isUpper_iff_toNat
    {char : Char} :
    char.isUpper = true ↔ 65 ≤ char.toNat ∧ char.toNat ≤ 90 :=
  decide_eq_true_iff

theorem separates_iff_toNat
    {char : Char} :
    (char = '-' ∨ char = '_') ↔ char.toNat = 45 ∨ char.toNat = 95 := by
  simp only [← Char.toNat_inj]
  rfl

theorem AlikeChar.plain_eq
    {left right : Char}
    (alike : AlikeChar left right) :
    plain left = plain right := by
  rw [← Char.toNat_inj, toNat_plain, toNat_plain]
  cases alike with
  | same => rfl
  | separators leftSeparates rightSeparates =>
      rw [separates_iff_toNat] at leftSeparates rightSeparates
      grind
  | lowered isCapital isSmall | raised isCapital isSmall =>
      rw [isUpper_iff_toNat] at isCapital
      grind

/-- Characters are alike just if the same one stands for both. -/
theorem alikeChar_iff
    {left right : Char} :
    AlikeChar left right ↔ plain left = plain right := by
  refine ⟨AlikeChar.plain_eq, fun samePlain => ?_⟩
  by_cases same : left.toNat = right.toNat
  · rw [Char.toNat_inj.mp same]
    exact .same right
  · rw [← Char.toNat_inj, toNat_plain, toNat_plain] at samePlain
    have apart :
        ((left.toNat = 45 ∨ left.toNat = 95) ∧
            (right.toNat = 45 ∨ right.toNat = 95)) ∨
          ((65 ≤ left.toNat ∧ left.toNat ≤ 90) ∧
            right.toNat = left.toNat + 32) ∨
          ((65 ≤ right.toNat ∧ right.toNat ≤ 90) ∧
            left.toNat = right.toNat + 32) := by
      grind
    rcases apart with ⟨isLeft, isRight⟩ | ⟨isCapital, isSmall⟩ |
      ⟨isCapital, isSmall⟩
    · exact
        .separators (separates_iff_toNat.mpr isLeft)
          (separates_iff_toNat.mpr isRight)
    · exact .lowered (isUpper_iff_toNat.mpr isCapital) isSmall
    · exact .raised (isUpper_iff_toNat.mpr isCapital) isSmall

/-! ## Comparing tags -/

/-- The one spelling of a tag has the character that stands for each of its own. -/
theorem toList_normalize
    (tag : String) :
    (normalize tag).toList = tag.toList.map plain := by
  rw [normalize, Text.fold, String.toList_ofList, String.toList_ofList,
    List.map_map]
  rfl

/-- Tags mean the same just if they have the same spelling. -/
theorem alike_iff :
    Alike tag other ↔ normalize tag = normalize other := by
  have byPlain : AlikeChar = fun left right => plain left = plain right :=
    funext₂ fun left right => propext alikeChar_iff
  rw [← String.toList_inj, toList_normalize, toList_normalize,
    ← List.forall₂_eq_eq_eq, List.forall₂_map_left_iff,
    List.forall₂_map_right_iff, Alike, byPlain]

/-- Tags are compared for meaning the same. -/
theorem sameTag_iff :
    sameTag tag other = true ↔ Alike tag other :=
  beq_iff_eq.trans alike_iff.symm

instance (tag other : String) : Decidable (Alike tag other) :=
  decidable_of_iff (sameTag tag other = true) sameTag_iff

/-- Tags that mean the same mean the same as every other tag. -/
theorem alike_congr
    (same : Alike tag other)
    (candidate : String) :
    Alike candidate tag ↔ Alike candidate other := by
  rw [alike_iff, alike_iff, alike_iff.mp same]

theorem lacks_congr
    (same : Alike tag other) :
    Lacks available tag ↔ Lacks available other :=
  forall₂_congr fun candidate _ => not_congr (alike_congr same candidate)

instance (available : List String) (tag : String) :
    Decidable (Lacks available tag) :=
  List.decidableBAll (fun candidate => ¬ Alike candidate tag) available

instance (preferences : List String) (tag : String) :
    Decidable (Lists preferences tag) :=
  List.decidableBEx (fun preference => Alike preference tag) preferences

/-- What is first is available. -/
theorem IsFirst.mem
    (first : IsFirst available tag) :
    tag ∈ available := by
  obtain ⟨before, after, rfl, -⟩ := first
  exact List.mem_append_right before List.mem_cons_self

theorem any_sameTag_iff :
    (later.any (sameTag · tag)) = true ↔ Lists later tag := by
  simp only [List.any_eq_true, sameTag_iff, Lists]

/-! ## Bare languages -/

/-- The language is what stands before the first separator. -/
theorem isLanguage_iff :
    IsLanguage tag bare ↔ language tag = bare := by
  have separates :
      ∀ char, isSeparator char = true ↔ char = '-' ∨ char = '_' := by
    intro char
    rw [isSeparator, Bool.or_eq_true, beq_iff_eq, beq_iff_eq]
  rw [← String.toList_inj, language, String.toList_ofList]
  constructor
  · rintro ⟨noSeparator, rest, divided, onward⟩
    have stays :
        ∀ char ∈ bare.toList, (!isSeparator char) = true := by
      intro char member
      rw [Bool.not_eq_true', ← Bool.not_eq_true, separates, not_or]
      exact noSeparator char member
    rw [divided, List.takeWhile_append_of_pos stays]
    cases rest with
    | nil =>
        rw [List.takeWhile_nil, List.append_nil]
    | cons first others =>
        have stops : isSeparator first = true :=
          (separates first).mpr (onward first rfl)
        rw [List.takeWhile_cons_of_neg (by simp [stops]), List.append_nil]
  · intro isTaken
    refine ⟨?_, tag.toList.dropWhile fun char => !isSeparator char, ?_, ?_⟩
    · intro char member
      rw [← isTaken] at member
      have stays := List.mem_takeWhile_imp member
      rw [Bool.not_eq_true', ← Bool.not_eq_true, separates, not_or] at stays
      exact stays
    · rw [← isTaken, List.takeWhile_append_dropWhile]
    · intro char isFirst
      have stops := List.head?_dropWhile_not (fun char => !isSeparator char) tag.toList
      rw [isFirst] at stops
      exact (separates char).mp (by simpa using stops)

/-- A tag suits a preference by itself or by its language. -/
theorem suits_iff :
    Suits tag preference ↔
      Alike tag preference ∨ Alike tag (language preference) := by
  simp only [Suits, isLanguage_iff, exists_eq_left']

instance (tag preference : String) : Decidable (Suits tag preference) :=
  decidable_of_iff
    (Alike tag preference ∨ Alike tag (language preference)) suits_iff.symm

/-- A preference is passed over for want of it, and of its language or for a later entry. -/
theorem passedOver_iff :
    PassedOver available preference later ↔
      Lacks available preference ∧
        (Lists later (language preference) ∨
          Lacks available (language preference)) := by
  constructor
  · rintro ⟨lacks, bare, isLanguage, passed⟩
    rw [isLanguage_iff.mp isLanguage]
    exact ⟨lacks, passed⟩
  · rintro ⟨lacks, passed⟩
    exact ⟨lacks, language preference, isLanguage_iff.mpr rfl, passed⟩

/-! ## Finding a tag -/

/-- No tag is found exactly when none of those available is the same. -/
theorem find?_eq_none_iff :
    find? available tag = none ↔ Lacks available tag := by
  simp only [find?, List.find?_eq_none, sameTag_iff, Lacks]

/-- What is found is the first available tag of its meaning. -/
theorem find?_eq_some_iff :
    find? available other = some tag ↔
      IsFirst available tag ∧ Alike tag other := by
  rw [find?, List.find?_eq_some_iff_append, and_comm, sameTag_iff]
  simp only [Bool.not_eq_true', ← Bool.not_eq_true, sameTag_iff, IsFirst, Lacks]
  constructor
  · rintro ⟨⟨before, after, divided, noneBefore⟩, same⟩
    exact ⟨⟨before, after, divided, (lacks_congr same).mpr noneBefore⟩, same⟩
  · rintro ⟨⟨before, after, divided, noneBefore⟩, same⟩
    exact ⟨⟨before, after, divided, (lacks_congr same).mp noneBefore⟩, same⟩

/-! ## One preference -/

/-- A preference that is available is chosen at once. -/
theorem bestOf?_of_available
    (found : find? available preference = some tag) :
    bestOf? available (preference :: later) = some tag := by
  simp only [bestOf?, found]

/-- A preference that is passed over leaves the choice to the later ones. -/
theorem bestOf?_of_passedOver
    (passed : PassedOver available preference later) :
    bestOf? available (preference :: later) = bestOf? available later := by
  obtain ⟨lacks, passed⟩ := passedOver_iff.mp passed
  simp only [bestOf?, find?_eq_none_iff.mpr lacks]
  split
  · rfl
  · rename_i goesOn
    rw [Bool.or_eq_true, any_sameTag_iff] at goesOn
    have lacksBare := passed.resolve_left fun listed => goesOn (.inr listed)
    rw [find?_eq_none_iff.mpr lacksBare]

/-- The language of a preference is chosen where it is not listed again. -/
theorem bestOf?_of_bare
    (lacks : Lacks available preference)
    (unlisted : ¬ Lists later (language preference))
    (found : find? available (language preference) = some tag) :
    bestOf? available (preference :: later) = some tag := by
  have differs : ¬ Alike (language preference) preference := by
    intro same
    obtain ⟨first, means⟩ := find?_eq_some_iff.mp found
    rw [alike_congr same] at means
    exact lacks tag first.mem means
  simp only [bestOf?, find?_eq_none_iff.mpr lacks, Bool.or_eq_true, sameTag_iff,
    any_sameTag_iff, differs, unlisted, or_self, if_false, found]

/-- No preference that is available is passed over. -/
theorem not_passedOver_of_available
    (found : find? available preference = some tag) :
    ¬ PassedOver available preference later := by
  intro passed
  cases (find?_eq_none_iff.mpr passed.lacks).symm.trans found

theorem not_passedOver_of_bare
    (unlisted : ¬ Lists later (language preference))
    (found : find? available (language preference) = some tag) :
    ¬ PassedOver available preference later := by
  intro passed
  have lacksBare := (passedOver_iff.mp passed).2.resolve_left unlisted
  cases (find?_eq_none_iff.mpr lacksBare).symm.trans found

/-- A preference is available, is passed over or stands for its language. -/
theorem preference_cases
    (available later : List String)
    (preference : String) :
    (∃ tag, find? available preference = some tag) ∨
      PassedOver available preference later ∨
      (Lacks available preference ∧
        ¬ Lists later (language preference) ∧
        ∃ tag, find? available (language preference) = some tag) := by
  cases exactly : find? available preference with
  | some tag =>
      exact .inl ⟨tag, rfl⟩
  | none =>
      have lacks := find?_eq_none_iff.mp exactly
      by_cases listed : Lists later (language preference)
      · exact .inr (.inl (passedOver_iff.mpr ⟨lacks, .inl listed⟩))
      · cases barely : find? available (language preference) with
        | some tag =>
            exact .inr (.inr ⟨lacks, listed, tag, rfl⟩)
        | none =>
            have lacksBare := find?_eq_none_iff.mp barely
            exact .inr (.inl (passedOver_iff.mpr ⟨lacks, .inr lacksBare⟩))

/-- With no preference before it, a tag is chosen for what it means alone. -/
theorem chosenAt_nil_iff :
    ChosenAt available [] preference later tag ↔
      IsFirst available tag ∧
        (Alike tag preference ∨
          (Lacks available preference ∧
            Alike tag (language preference) ∧
            ¬ Lists later (language preference))) := by
  constructor
  · intro chosen
    have means := chosen.means
    simp only [isLanguage_iff, exists_eq_left'] at means
    exact ⟨chosen.first, means⟩
  · rintro ⟨first, means⟩
    refine ⟨first, ?_, ?_⟩
    · intro before other after isNil
      simp at isNil
    · simp only [isLanguage_iff, exists_eq_left']
      exact means

/-- A preference before all others is passed over, and the choice stays. -/
theorem chosenAt_cons_iff :
    ChosenAt available (other :: earlier) preference later tag ↔
      PassedOver available other (earlier ++ preference :: later) ∧
        ChosenAt available earlier preference later tag := by
  constructor
  · intro chosen
    refine ⟨chosen.passed [] other earlier rfl, chosen.first, ?_, chosen.means⟩
    intro before another after divided
    exact chosen.passed (other :: before) another after (by rw [divided]; rfl)
  · rintro ⟨passed, chosen⟩
    refine ⟨chosen.first, ?_, chosen.means⟩
    intro before another after divided
    cases before with
    | nil =>
        cases divided
        exact passed
    | cons head rest =>
        cases divided
        exact chosen.passed rest another after rfl

/-- No tag is chosen for a preference that is passed over. -/
theorem PassedOver.not_chosenAt
    (passed : PassedOver available preference later) :
    ¬ ChosenAt available [] preference later tag := by
  intro chosen
  obtain ⟨lacks, passed⟩ := passedOver_iff.mp passed
  obtain ⟨first, means⟩ := chosenAt_nil_iff.mp chosen
  rcases means with means | ⟨-, meansBare, unlisted⟩
  · exact lacks tag first.mem means
  · exact passed.resolve_left unlisted tag first.mem meansBare

/-! ## All preferences -/

/-- A choice is made for the first preference, or for one after it. -/
theorem exists_chosenAt_cons_iff :
    (∃ earlier preference following,
        other :: later = earlier ++ preference :: following ∧
          ChosenAt available earlier preference following tag) ↔
      ChosenAt available [] other later tag ∨
        (PassedOver available other later ∧
          ∃ earlier preference following,
            later = earlier ++ preference :: following ∧
              ChosenAt available earlier preference following tag) := by
  constructor
  · rintro ⟨earlier, preference, following, divided, chosen⟩
    cases earlier with
    | nil =>
        cases divided
        exact .inl chosen
    | cons first others =>
        cases divided
        obtain ⟨passed, chosenLater⟩ := chosenAt_cons_iff.mp chosen
        exact .inr ⟨passed, others, preference, following, rfl, chosenLater⟩
  · rintro (chosen | ⟨passed, earlier, preference, following, rfl, chosen⟩)
    · exact ⟨[], other, later, rfl, chosen⟩
    · exact
        ⟨other :: earlier, preference, following, rfl,
          chosenAt_cons_iff.mpr ⟨passed, chosen⟩⟩

/-- The choice falls on a tag exactly when some preference chooses it there. -/
theorem bestOf?_eq_some_iff
    {preferences : List String} :
    bestOf? available preferences = some tag ↔
      ∃ earlier preference later,
        preferences = earlier ++ preference :: later ∧
          ChosenAt available earlier preference later tag := by
  induction preferences with
  | nil =>
      simp [bestOf?]
  | cons head rest inductionHypothesis =>
      rw [exists_chosenAt_cons_iff, ← inductionHypothesis, chosenAt_nil_iff]
      rcases preference_cases available rest head with
        ⟨found, isFound⟩ | passed | ⟨lacks, unlisted, found, isFound⟩
      · obtain ⟨first, means⟩ := find?_eq_some_iff.mp isFound
        have notLacks : ¬ Lacks available head :=
          fun lacks => lacks found first.mem means
        have notPassed : ¬ PassedOver available head rest :=
          not_passedOver_of_available isFound
        simp only [bestOf?_of_available isFound, ← isFound, find?_eq_some_iff,
          notLacks, notPassed, false_and, or_false]
      · rw [bestOf?_of_passedOver passed, and_iff_right passed,
          ← chosenAt_nil_iff, or_iff_right passed.not_chosenAt]
      · have notExactly : ¬ (IsFirst available tag ∧ Alike tag head) :=
          fun exactly => lacks tag exactly.1.mem exactly.2
        have notPassed : ¬ PassedOver available head rest :=
          not_passedOver_of_bare unlisted isFound
        simp only [bestOf?_of_bare lacks unlisted isFound, ← isFound,
          find?_eq_some_iff, and_or_left, notExactly, notPassed, lacks,
          unlisted, not_false_eq_true, true_and, and_true, false_and, false_or,
          or_false]

/-- There is no choice exactly when the first is passed over and the later
choose none. -/
theorem bestOf?_cons_eq_none_iff :
    bestOf? available (preference :: later) = none ↔
      PassedOver available preference later ∧
        bestOf? available later = none := by
  rcases preference_cases available later preference with
    ⟨found, isFound⟩ | passed | ⟨lacks, unlisted, found, isFound⟩
  · simp only [bestOf?_of_available isFound,
      not_passedOver_of_available isFound, reduceCtorEq, false_and]
  · rw [bestOf?_of_passedOver passed, and_iff_right passed]
  · simp only [bestOf?_of_bare lacks unlisted isFound,
      not_passedOver_of_bare unlisted isFound, reduceCtorEq, false_and]

/-- What means the bare language of a preference means where it is listed. -/
theorem exists_suits_of_listed
    (listed : Lists later (language preference))
    (means : Alike tag (language preference)) :
    ∃ other ∈ later, Suits tag other := by
  obtain ⟨other, isLater, same⟩ := listed
  exact ⟨other, isLater, .inl ((alike_congr same tag).mpr means)⟩

/-- Nothing is chosen just if no available tag suits a preference. -/
theorem bestOf?_eq_none_iff
    {preferences : List String} :
    bestOf? available preferences = none ↔
      ∀ tag ∈ available, ∀ preference ∈ preferences, ¬ Suits tag preference := by
  induction preferences with
  | nil =>
      simp [bestOf?]
  | cons head rest inductionHypothesis =>
      rw [bestOf?_cons_eq_none_iff, inductionHypothesis, passedOver_iff]
      constructor
      · rintro ⟨⟨lacks, passed⟩, noneLater⟩ tag isAvailable preference isPreferred suits
        rcases List.mem_cons.mp isPreferred with rfl | isLater
        · rcases suits_iff.mp suits with means | meansBare
          · exact lacks tag isAvailable means
          · -- A language that is listed again is met by the later entry.
            rcases passed with listed | lacksBare
            · obtain ⟨other, isLater, suitsOther⟩ :=
                exists_suits_of_listed listed meansBare
              exact noneLater tag isAvailable other isLater suitsOther
            · exact lacksBare tag isAvailable meansBare
        · exact noneLater tag isAvailable preference isLater suits
      · intro noneSuits
        refine ⟨⟨?_, .inr ?_⟩, ?_⟩
        · intro tag isAvailable means
          exact noneSuits tag isAvailable head List.mem_cons_self (.inl means)
        · intro tag isAvailable meansBare
          exact noneSuits tag isAvailable head List.mem_cons_self
            (suits_iff.mpr (.inr meansBare))
        · intro tag isAvailable preference isLater
          exact noneSuits tag isAvailable preference
            (List.mem_cons_of_mem head isLater)

/--
There is no choice if and only if no tag means a preference or the bare language
of one. What is chosen is the first available tag of its meaning, for a
preference that it means or in whose bare language it is, where no tag means the
preference and the language is not listed again; no preference before that one
is available, nor is the bare language of one, unless it is listed after it.
-/
theorem best?_never_misses
    (locales : Locales)
    (available : List String) :
    (locales.best? available = none ↔
        ∀ tag ∈ available, ∀ preference ∈ locales.preferred,
          ¬ Suits tag preference) ∧
      ∀ tag,
        locales.best? available = some tag ↔
          ∃ earlier preference later,
            locales.preferred = earlier ++ preference :: later ∧
              ChosenAt available earlier preference later tag := by
  constructor
  · exact bestOf?_eq_none_iff
  · intro tag
    exact bestOf?_eq_some_iff

/-- French is chosen for the French of France, but Canadian French is not. -/
theorem best?_never_misses_of_bare_language :
    let locales : Locales := ⟨["de-AT", "FR_fr"]⟩
    locales.best? ["en", "fr"] = some "fr" ∧
      locales.best? ["en", "fr-CA"] = none := by
  intro locales
  have noGerman : PassedOver ["en", "fr"] "de-AT" ["FR_fr"] :=
    passedOver_iff.mpr (by decide +kernel)
  have isFirst : IsFirst ["en", "fr"] "fr" :=
    ⟨["en"], [], rfl, by decide +kernel⟩
  have forFrench : ChosenAt ["en", "fr"] [] "FR_fr" [] "fr" :=
    chosenAt_nil_iff.mpr ⟨isFirst, .inr (by decide +kernel)⟩
  constructor
  · apply ((best?_never_misses locales ["en", "fr"]).2 "fr").mpr
    exact
      ⟨["de-AT"], "FR_fr", [], rfl, chosenAt_cons_iff.mpr ⟨noGerman, forFrench⟩⟩
  · apply (best?_never_misses locales ["en", "fr-CA"]).1.mpr
    decide +kernel

/-- French comes before Canadian French, which leaves it to its own entry. -/
example :
    best? ⟨["fr-FR", "FR_ca", "fr"]⟩ ["fr", "fr-CA"] = some "fr-CA" := by
  decide +kernel

end ResourceServer.Locales
