import ResourceServer.Proofs.Context.Version
import ResourceServer.Proofs.Http.FieldText
import ResourceServer.Proofs.Http.GuardedWrite

namespace ResourceServer

/-!
# Versions that are agreed on again

Clients are told the versions that were agreed on in the way in which they ask
for versions. What they are told reads as a request for just these versions, and
they are what the server agrees to when it is asked for them. So agreeing is
settled after one round, whatever was asked for at first and however it was
written.
-/

namespace Version

theorem serves_refl
    (version : Version) :
    version.serves version = true := by
  simp [serves]

/-- A version is written with digits and a point. -/
theorem isDigit_or_eq_of_mem_display
    {version : Version}
    {char : Char}
    (member : char ∈ version.display.toList) :
    char.isDigit = true ∨ char = '.' := by
  rw [display_eq, String.toList_ofList, List.mem_append, List.mem_cons] at member
  rcases member with inMajor | isPoint | inMinor
  · exact .inl ((Text.isNumeral_toString version.major).digits char inMajor)
  · exact .inr isPoint
  · exact .inl ((Text.isNumeral_toString version.minor).digits char inMinor)

end Version

namespace AcceptedVersions

/-- The part of a header that asks for a version under a key. -/
def part (key : String) (version : Version) : String :=
  String.ofList (key.toList ++ '=' :: version.display.toList)

/-- The parts of a header that asks for these versions. -/
def written (accepted : AcceptedVersions) : List String :=
  (accepted.protocol.map (part "protocol")).toList ++
    (accepted.resource.map (part "resource")).toList

/-- A header that asks for these versions. -/
def header (accepted : AcceptedVersions) : String :=
  String.ofList ([','].intercalate (accepted.written.map String.toList))

/-- All numbers have thirty-two bits. -/
structure Fits (accepted : AcceptedVersions) : Prop where
  protocol : ∀ version, accepted.protocol = some version → version.Fits
  resource : ∀ version, accepted.resource = some version → version.Fits

variable
  {accepted next : AcceptedVersions}
  {key : String}
  {version : Version}

/-! ## Parts that are read -/

/-- A part that is read gives one version, and what else was asked for stays. -/
theorem addPart_eq_ok
    {given : String}
    (isAdded : accepted.addPart given = .ok next) :
    ∃ version,
      version.Fits ∧
        (next = { accepted with protocol := some version } ∨
          next = { accepted with resource := some version }) := by
  unfold addPart at isAdded
  split at isAdded
  · cases isAdded
  · split at isAdded
    · obtain ⟨version, reads, rfl⟩ := Name.map_eq_ok_iff.mp isAdded
      exact ⟨version, Version.fits_of_parse reads, .inl rfl⟩
    · obtain ⟨version, reads, rfl⟩ := Name.map_eq_ok_iff.mp isAdded
      exact ⟨version, Version.fits_of_parse reads, .inr rfl⟩
    · cases isAdded

/-- A part that is added keeps the versions within the machine's numbers. -/
theorem Fits.addPart
    {given : String}
    (fits : accepted.Fits)
    (isAdded : accepted.addPart given = .ok next) :
    next.Fits := by
  obtain ⟨version, versionFits, rfl | rfl⟩ := addPart_eq_ok isAdded
  · refine ⟨?_, fits.resource⟩
    rintro _ ⟨⟩
    exact versionFits
  · refine ⟨fits.protocol, ?_⟩
    rintro _ ⟨⟩
    exact versionFits

theorem Fits.addParts
    {given : List String}
    (fits : accepted.Fits)
    (areAdded : given.foldlM AcceptedVersions.addPart accepted = .ok next) :
    next.Fits := by
  induction given generalizing accepted with
  | nil =>
      cases areAdded
      exact fits
  | cons first rest inductionHypothesis =>
      rw [List.foldlM_cons] at areAdded
      obtain ⟨added, isAdded, areAdded⟩ := Name.bind_eq_ok_iff.mp areAdded
      exact inductionHypothesis (fits.addPart isAdded) areAdded

/-- Only versions of thirty-two bits are read. -/
theorem fits_of_parse
    {text : String}
    (reads : parse text = .ok accepted) :
    accepted.Fits := by
  have anyFits : any.Fits := by
    constructor <;> rintro _ ⟨⟩
  exact anyFits.addParts reads

/-! ## Parts that are written -/

/-- A part is made of its key, an equals sign, digits and a dot. -/
theorem mem_part
    {char : Char}
    (member : char ∈ (part key version).toList) :
    char ∈ key.toList ∨ char = '=' ∨ char.isDigit = true ∨ char = '.' := by
  rw [part, String.toList_ofList, List.mem_append, List.mem_cons] at member
  rcases member with inKey | isEquals | inVersion
  · exact .inl inKey
  · exact .inr (.inl isEquals)
  · exact .inr (.inr (Version.isDigit_or_eq_of_mem_display inVersion))

theorem part_ne_empty :
    part key version ≠ "" := by
  intro isEmpty
  have noChars := congrArg String.toList isEmpty
  rw [part, String.toList_ofList] at noChars
  exact List.append_ne_nil_of_right_ne_nil _ (List.cons_ne_nil _ _) noChars

/-- There is nothing to trim from a part if there is nothing in its key. -/
theorem trim_part
    (noBlank : key.toList.any Text.isBlank = false) :
    Text.trim (part key version) = part key version := by
  have stays : ∀ char ∈ (part key version).toList, Text.isBlank char = false := by
    intro char member
    rcases mem_part member with inKey | rfl | isDigit | rfl
    · exact Bool.eq_false_iff.mpr (List.any_eq_false.mp noBlank char inKey)
    · decide
    · exact Text.isBlank_of_isDigit isDigit
    · decide
  rw [Text.trim, Text.trimChars_eq_self, String.ofList_toList]
  · intro char isFirst
    exact stays char (List.mem_of_head? isFirst)
  · intro char isLast
    exact stays char (List.mem_of_getLast? isLast)

/-- Each written part names one of the two keys and a version. -/
theorem exists_of_mem_written
    {text : String}
    (member : text ∈ accepted.written) :
    ∃ key ∈ ["protocol", "resource"], ∃ version, text = part key version := by
  rw [written, List.mem_append] at member
  simp only [Option.mem_toList, Option.map_eq_some_iff] at member
  rcases member with ⟨version, -, rfl⟩ | ⟨version, -, rfl⟩
  · exact ⟨_, List.mem_cons_self, version, rfl⟩
  · exact ⟨_, List.mem_cons_of_mem _ List.mem_cons_self, version, rfl⟩

/-- The parts of a header are cut and trimmed to what they were written as. -/
theorem parts_header
    (accepted : AcceptedVersions) :
    parts accepted.header = accepted.written := by
  have noComma :
      ∀ chars ∈ accepted.written.map String.toList, ',' ∉ chars := by
    intro chars isPart isIn
    obtain ⟨text, isText, rfl⟩ := List.mem_map.mp isPart
    obtain ⟨key, isKey, version, rfl⟩ := exists_of_mem_written isText
    have notInKey : ∀ key ∈ ["protocol", "resource"], ',' ∉ key.toList := by
      decide
    rcases mem_part isIn with inKey | isEquals | isDigit | isPoint
    · exact notInKey key isKey inKey
    · cases isEquals
    · cases isDigit
    · cases isPoint
  have trimmed : ∀ text ∈ accepted.written, Text.trim text = text := by
    intro text isText
    obtain ⟨key, isKey, version, rfl⟩ := exists_of_mem_written isText
    have noBlank :
        ∀ key ∈ ["protocol", "resource"],
          key.toList.any Text.isBlank = false := by
      decide
    exact trim_part (noBlank key isKey)
  have notEmpty : ∀ text ∈ accepted.written, (text != "") = true := by
    intro text isText
    obtain ⟨key, isKey, version, rfl⟩ := exists_of_mem_written isText
    exact bne_iff_ne.mpr part_ne_empty
  by_cases isNil : accepted.written = []
  · rw [header, isNil]
    decide +kernel
  · have notNil : accepted.written.map String.toList ≠ [] := by
      simpa using isNil
    have pieces : Text.pieces ',' accepted.header = accepted.written := by
      rw [Text.pieces, header, String.toList_ofList,
        List.splitOn_intercalate ',' noComma notNil, List.map_map]
      simp
    rw [parts, pieces, List.map_congr_left trimmed, List.map_id'',
      List.filter_eq_self.mpr notEmpty]
    exact fun text => rfl

/-- A part is split at its equals sign into key and version. -/
theorem splitFirst?_part
    {key : String}
    (noEquals : '=' ∉ key.toList)
    (version : Version) :
    Text.splitFirst? '=' (part key version) = some (key, version.display) := by
  rw [part, Text.splitFirst?_of_not_mem _ noEquals, String.ofList_toList,
    String.ofList_toList]

/-- A protocol part is read as the protocol version that is asked for. -/
theorem addPart_protocol
    (accepted : AcceptedVersions)
    (fits : version.Fits) :
    accepted.addPart (part "protocol" version) =
      .ok { accepted with protocol := some version } := by
  have noEquals : '=' ∉ "protocol".toList := by
    decide
  have isKey : Text.fold (Text.trim "protocol") = "protocol" := by
    decide +kernel
  simp only [addPart, splitFirst?_part noEquals, isKey,
    Version.parse_display fits, Except.map]

theorem addPart_resource
    (accepted : AcceptedVersions)
    (fits : version.Fits) :
    accepted.addPart (part "resource" version) =
      .ok { accepted with resource := some version } := by
  have noEquals : '=' ∉ "resource".toList := by
    decide
  have isKey : Text.fold (Text.trim "resource") = "resource" := by
    decide +kernel
  simp only [addPart, splitFirst?_part noEquals, isKey,
    Version.parse_display fits, Except.map]

/-- A header that asks for versions is read as asking for these. -/
theorem parse_header
    (fits : accepted.Fits) :
    parse accepted.header = .ok accepted := by
  obtain ⟨protocol, resource⟩ := accepted
  have protocolAdded :
      (protocol.map (part "protocol")).toList.foldlM addPart any =
        .ok ⟨protocol, none⟩ := by
    cases protocol with
    | none =>
        rfl
    | some version =>
        rw [Option.map_some, Option.toList_some, List.foldlM_cons,
          addPart_protocol any (fits.protocol version rfl)]
        rfl
  have resourceAdded :
      (resource.map (part "resource")).toList.foldlM addPart ⟨protocol, none⟩ =
        .ok ⟨protocol, resource⟩ := by
    cases resource with
    | none =>
        rfl
    | some version =>
        rw [Option.map_some, Option.toList_some, List.foldlM_cons,
          addPart_resource _ (fits.resource version rfl)]
        rfl
  rw [parse, parts_header, written, List.foldlM_append, protocolAdded]
  exact resourceAdded

end AcceptedVersions

namespace ApiVersion

/-- What a client asks for who wants just these versions. -/
def asked (version : ApiVersion) : AcceptedVersions :=
  ⟨some version.protocol, version.resource⟩

variable
  {protocolName : String}
  {server : Version}
  {accepted : AcceptedVersions}
  {agreed : ApiVersion}

/-- Agreed versions are displayed as the protocol's part and the resource's, if any. -/
theorem toList_display
    (version : ApiVersion) :
    version.display.toList =
      (AcceptedVersions.part "protocol" version.protocol).toList ++
        (version.resource.map fun resource =>
          ',' :: (AcceptedVersions.part "resource" resource).toList).getD [] := by
  obtain ⟨protocolName, protocol, resource⟩ := version
  cases resource with
  | none =>
      simp only [display, AcceptedVersions.part, String.toList_append,
        String.toList_ofList, Option.map_none, Option.getD_none,
        List.append_nil]
      rfl
  | some resource =>
      simp only [display, AcceptedVersions.part, String.toList_append,
        String.toList_ofList, Option.map_some, Option.getD_some,
        List.append_assoc, List.cons_append]
      rfl

/-- Agreed versions are displayed as the header that asks for them. -/
theorem display_eq_header
    (version : ApiVersion) :
    version.display = version.asked.header := by
  apply String.toList_inj.mp
  rw [toList_display, AcceptedVersions.header, String.toList_ofList,
    AcceptedVersions.written, asked]
  cases version.resource with
  | none =>
      simp only [Option.map_none, Option.getD_none, Option.map_some,
        Option.toList_some, Option.toList_none, List.append_nil, List.map_cons,
        List.map_nil, List.intercalate_singleton]
  | some resource =>
      simp only [Option.map_some, Option.getD_some, Option.toList_some,
        List.cons_append, List.nil_append, List.map_cons, List.map_nil,
        List.intercalate_cons_cons, List.intercalate_singleton,
        List.append_assoc]

/-- What clients are told can be read from a header field. -/
theorem readable_display
    (version : ApiVersion) :
    Headers.Readable version.display := by
  have ofPart :
      ∀ key ∈ ["protocol", "resource"], ∀ asked : Version,
        Headers.Readable (AcceptedVersions.part key asked) := by
    intro key isKey asked char member
    have ofKeys :
        ∀ key ∈ ["protocol", "resource"], Headers.Readable key := by
      decide
    rcases AcceptedVersions.mem_part member with inKey | rfl | isDigit | rfl
    · exact ofKeys key isKey char inKey
    · decide
    · exact Headers.isTextChar_of_isDigit isDigit
    · decide
  intro char member
  rw [toList_display, List.mem_append] at member
  rcases member with inProtocol | inResource
  · exact ofPart _ List.mem_cons_self _ char inProtocol
  · cases asks : version.resource with
    | none =>
        rw [asks] at inResource
        cases inResource
    | some resource =>
        rw [asks, Option.map_some, Option.getD_some, List.mem_cons] at inResource
        rcases inResource with rfl | inResource
        · decide
        · exact
            ofPart _ (List.mem_cons_of_mem _ List.mem_cons_self) _ char
              inResource

/-- A server agrees if it serves the version of the protocol that is asked for. -/
theorem negotiate_eq_ok_iff :
    negotiate protocolName server accepted = .ok agreed ↔
      (∀ requested,
          accepted.protocol = some requested →
            server.serves requested = true) ∧
        ⟨protocolName, accepted.protocol.getD server, accepted.resource⟩ =
          agreed := by
  unfold negotiate
  dsimp only
  cases asks : accepted.protocol with
  | none =>
      simp only [Except.ok.injEq, reduceCtorEq, false_implies, implies_true,
        true_and]
  | some requested =>
      by_cases serves : server.serves requested = true
      · simp only [serves, if_true, Except.ok.injEq, Option.some.injEq,
          forall_eq', true_and]
      · simp only [serves, Bool.false_eq_true, if_false, reduceCtorEq,
          Option.some.injEq, forall_eq', false_and]

/-- What was agreed on is agreed on by the same server if it is asked for. -/
theorem negotiate_asked
    (agrees : negotiate protocolName server accepted = .ok agreed) :
    negotiate protocolName server agreed.asked = .ok agreed := by
  obtain ⟨serves, rfl⟩ := negotiate_eq_ok_iff.mp agrees
  rw [negotiate_eq_ok_iff]
  refine ⟨?_, rfl⟩
  rintro _ ⟨⟩
  cases asks : accepted.protocol with
  | none =>
      exact server.serves_refl
  | some requested =>
      exact serves requested asks

/-- The versions that were agreed fit the machine's numbers when asked for again. -/
theorem fits_asked
    (serverFits : server.Fits)
    (fits : accepted.Fits)
    (agrees : negotiate protocolName server accepted = .ok agreed) :
    agreed.asked.Fits := by
  obtain ⟨-, rfl⟩ := negotiate_eq_ok_iff.mp agrees
  refine ⟨?_, fits.resource⟩
  rintro _ ⟨⟩
  cases asks : accepted.protocol with
  | none =>
      exact serverFits
  | some requested =>
      exact fits.protocol requested asks

/--
Whatever versions are agreed on for a header that can be read, the text that the
client is told can be read as well, also from the header field of a request, and
the same server agrees to the same versions for it.
-/
theorem agreed_versions_agreed_again
    (protocolName : String)
    (server : Version)
    (serverFits : server.Fits)
    (header : String)
    (accepted : AcceptedVersions)
    (reads : AcceptedVersions.parse header = .ok accepted)
    (agreed : ApiVersion)
    (agrees : negotiate protocolName server accepted = .ok agreed) :
    (∃ again,
      AcceptedVersions.parse agreed.display = .ok again ∧
        negotiate protocolName server again = .ok agreed) ∧
      ∀ incoming : Incoming,
        incoming.headers.value? "accept-api-version" =
            some (Text.bytes agreed.display) →
          ∃ again,
            incoming.acceptedVersions = .ok again ∧
              negotiate protocolName server again = .ok agreed := by
  have readsAgain :
      AcceptedVersions.parse agreed.display = .ok agreed.asked := by
    rw [display_eq_header]
    exact
      AcceptedVersions.parse_header
        (fits_asked serverFits (AcceptedVersions.fits_of_parse reads) agrees)
  have agreesAgain := negotiate_asked agrees
  refine ⟨⟨_, readsAgain, agreesAgain⟩, ?_⟩
  intro incoming carries
  have isText :
      incoming.headers.text? "accept-api-version" = some agreed.display := by
    rw [Headers.text?_of_value? carries,
      Headers.valueText?_of_readable agreed.readable_display]
  refine ⟨agreed.asked, ?_, agreesAgain⟩
  rw [Incoming.acceptedVersions, isText]
  exact readsAgain

/-- A server agrees to an older version, written with blanks and capitals. -/
theorem agreed_versions_agreed_again_of_resource :
    let server : Version := ⟨2, 1⟩
    let header := " Resource = 03.+1 ,, PROTOCOL=2"
    let agreed : ApiVersion := ⟨"crest", ⟨2, 0⟩, some ⟨3, 1⟩⟩
    server.Fits ∧
      ∃ accepted,
        AcceptedVersions.parse header = .ok accepted ∧
          negotiate "crest" server accepted = .ok agreed ∧
          agreed.display = "protocol=2.0,resource=3.1" ∧
          ∃ again,
            AcceptedVersions.parse agreed.display = .ok again ∧
              negotiate "crest" server again = .ok agreed := by
  intro server header agreed
  have serverFits : server.Fits := by
    decide
  have reads :
      AcceptedVersions.parse header = .ok ⟨some ⟨2, 0⟩, some ⟨3, 1⟩⟩ := by
    decide +kernel
  have agrees :
      negotiate "crest" server ⟨some ⟨2, 0⟩, some ⟨3, 1⟩⟩ = .ok agreed := by
    decide +kernel
  have again :=
    agreed_versions_agreed_again "crest" server serverFits header _ reads agreed
      agrees
  exact ⟨serverFits, _, reads, agrees, by decide +kernel, again.1⟩

end ApiVersion

end ResourceServer
