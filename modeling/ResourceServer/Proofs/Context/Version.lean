import ResourceServer.Context.Version
import ResourceServer.Proofs.Text.Trimming

namespace ResourceServer.Version

/-!
# Versions read back

A version is written as two numerals with a point between them, which read as
the version again as long as its numbers are within the limit of the reader.
-/

/-- Both numbers have thirty-two bits. -/
structure Fits (version : Version) : Prop where
  major : version.major < Text.limit32
  minor : version.minor < Text.limit32

instance (version : Version) : Decidable version.Fits :=
  decidable_of_iff
    (version.major < Text.limit32 ∧ version.minor < Text.limit32)
    ⟨fun both => ⟨both.1, both.2⟩, fun fits => ⟨fits.major, fits.minor⟩⟩

theorem display_eq
    (version : Version) :
    version.display =
      String.ofList
        ((toString version.major).toList ++
          '.' :: (toString version.minor).toList) := by
  apply String.toList_inj.mp
  simp only [display, String.toList_append, String.toList_ofList,
    List.append_assoc]
  rfl

/-- There is nothing to trim where a version is written. -/
theorem trim_display
    (version : Version) :
    Text.trim version.display = version.display := by
  have major := Text.isNumeral_toString version.major
  have minor := Text.isNumeral_toString version.minor
  rw [Text.trim, display_eq, String.toList_ofList, Text.trimChars_eq_self]
  · intro char isFirst
    rw [List.head?_append_of_ne_nil _ major.nonempty] at isFirst
    exact Text.isBlank_of_isDigit (major.head isFirst)
  · intro char isLast
    rw [List.getLast?_append_of_ne_nil _ (List.cons_ne_nil _ _),
      List.getLast?_cons_of_ne_nil minor.nonempty] at isLast
    exact Text.isBlank_of_isDigit (minor.last isLast)

theorem splitFirst?_display
    (version : Version) :
    Text.splitFirst? '.' version.display =
      some (toString version.major, toString version.minor) := by
  have major := Text.isNumeral_toString version.major
  rw [display_eq, Text.splitFirst?_of_not_mem _ (major.not_mem rfl),
    String.ofList_toList, String.ofList_toList]

theorem parse_display
    {version : Version}
    (fits : version.Fits) :
    parse version.display = .ok version := by
  unfold parse
  simp only [trim_display, splitFirst?_display,
    Text.unsigned?_toString fits.major, Text.unsigned?_toString fits.minor]

theorem fits_of_parse
    {text : String}
    {version : Version}
    (reads : parse text = .ok version) :
    version.Fits := by
  unfold parse at reads
  dsimp only at reads
  split at reads
  · rename_i majorReads minorReads
    cases reads
    exact ⟨Text.lt_of_unsigned? majorReads, Text.lt_of_unsigned? minorReads⟩
  · cases reads

end ResourceServer.Version
