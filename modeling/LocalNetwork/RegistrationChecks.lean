/-
This file proves what the patterns of `server/protocol.py` let through in the checks of a
registration and of a new network, for every text.

A pattern that is anchored with a dollar sign also matches in front of a line break at the
very end. So a client id with a line break behind it passes, and counts as another client
than the id without it; a name passes in the same way. The last theorem says for which
payloads the checks are exact, under any notion of line break that has `'\n'` among the
line breaks: the dot of the name pattern excludes no other character.
-/

import LocalNetwork.Protocol

namespace LocalNetwork

/-! ### The specification -/

/-- A client id as the error text describes it: 8 to 64 ASCII letters, digits, hyphens and
underscores. -/
def ValidClientId (clientId : List Char) : Prop :=
  (8 ≤ clientId.length ∧ clientId.length ≤ 64) ∧ ∀ char ∈ clientId, isIdChar char

/-- A name of 1 to 64 characters without line breaks. -/
def ValidName (isLineBreak : Char → Prop) (name : List Char) : Prop :=
  (1 ≤ name.length ∧ name.length ≤ 64) ∧ ∀ char ∈ name, ¬ isLineBreak char

/-- The registration is refused, or its client id is valid. -/
def RegisterExact (text : PyText) (payload : Dict String Json) (clientId : String) : Prop :=
  (∃ accepted, validateRegister text payload = .ok accepted) → ValidClientId clientId.toList

/-- The new network is refused, or its name is valid. -/
def CreateNetworkExact (isLineBreak : Char → Prop) (text : PyText) (payload : Dict String Json) :
    Prop :=
  ∀ name password topology, validateCreateNetwork text payload = .ok (name, password, topology) →
    ValidName isLineBreak name.toList

/-- A text that is something valid and a line break behind it. -/
def BreakBehind (Valid : List Char → Prop) (chars : List Char) : Prop :=
  ∃ body, Valid body ∧ chars = body ++ ['\n']

/-- A valid name but for a line break at its end, or for line breaks of another kind. -/
def NameSlips (isLineBreak : Char → Prop) (name : List Char) : Prop :=
  BreakBehind (ValidName (· = '\n')) name ∨
    (ValidName (· = '\n') name ∧ ∃ char ∈ name, isLineBreak char)

/-- Every field of a new network but the name passes its check. -/
def OtherFieldsPass (text : PyText) (payload : Dict String Json) : Prop :=
  ((payload.get? "password").getD .null).missing = false ∧
    (Topology.ofString? (text.str (getOr payload "topology" (.str "mesh")))).isSome

/-! ### The patterns -/

/-- What stands before the dollar sign has a property that no text with a line break has, exactly
if the whole text has it, with or without a line break behind. -/
theorem beforeDollar_iff {Valid : List Char → Prop} (single : ∀ body, Valid body → '\n' ∉ body)
    (chars : List Char) :
    Valid (beforeDollar chars) ↔ Valid chars ∨ BreakBehind Valid chars := by
  unfold beforeDollar
  split
  · rename_i ends
    obtain ⟨front, rfl⟩ := List.getLast?_eq_some_iff.mp ends
    rw [List.dropLast_concat]
    constructor
    · intro valid
      exact Or.inr ⟨front, valid, rfl⟩
    · rintro (valid | ⟨body, valid, same⟩)
      · exact absurd (List.mem_append_right front (List.mem_singleton.mpr rfl)) (single _ valid)
      · rw [(List.append_inj' same rfl).1]
        exact valid
  · rename_i otherEnd
    refine ⟨Or.inl, ?_⟩
    rintro (valid | ⟨body, _, rfl⟩)
    · exact valid
    · exact absurd List.getLast?_concat otherEnd

theorem validClientId_single (clientId : List Char) (valid : ValidClientId clientId) :
    '\n' ∉ clientId := by
  intro member
  exact absurd (valid.2 _ member) (by decide)

theorem validName_single (name : List Char) (valid : ValidName (· = '\n') name) : '\n' ∉ name :=
  fun member => valid.2 _ member rfl

/-- The pattern of client ids. -/
theorem matchesId_iff (clientId : String) :
    matchesId clientId = true ↔
      ValidClientId clientId.toList ∨ BreakBehind ValidClientId clientId.toList := by
  rw [← beforeDollar_iff validClientId_single]
  simp only [matchesId, ValidClientId, Bool.and_eq_true, decide_eq_true_eq, List.all_eq_true]

/-- The pattern of names. -/
theorem matchesName_iff (name : String) :
    matchesName name = true ↔
      ValidName (· = '\n') name.toList ∨ BreakBehind (ValidName (· = '\n')) name.toList := by
  rw [← beforeDollar_iff validName_single]
  simp only [matchesName, ValidName, Bool.and_eq_true, decide_eq_true_eq, List.all_eq_true, ne_eq]

/-! ### The checks -/

theorem require_eq_ok_iff (payload : Dict String Json) (key label : String) (value : Json) :
    require payload key label = .ok value ↔
      (payload.get? key).getD .null = value ∧ value.missing = false := by
  unfold require
  simp only
  split
  · rename_i missing
    simp only [reduceCtorEq, false_iff]
    rintro ⟨rfl, present⟩
    rw [missing] at present
    cases present
  · rename_i present
    simp only [Except.ok.injEq]
    constructor
    · rintro rfl
      exact ⟨rfl, Bool.eq_false_iff.mpr present⟩
    · exact fun found => found.1

theorem except_bind_eq_ok_iff {Failure Value Result : Type} (first : Except Failure Value)
    (next : Value → Except Failure Result) (result : Result) :
    (first >>= next) = .ok result ↔ ∃ value, first = .ok value ∧ next value = .ok result := by
  cases first with
  | error failure => simp [bind, Except.bind]
  | ok value => simp [bind, Except.bind]

/-- A registration with texts in both fields passes exactly if both match. -/
theorem validateRegister_accepts_iff (text : PyText) {payload : Dict String Json}
    {clientId publicKey : String} (hasId : payload.get? "client_id" = some (.str clientId))
    (hasKey : payload.get? "public_key" = some (.str publicKey)) :
    (∃ accepted, validateRegister text payload = .ok accepted) ↔
      matchesId clientId = true ∧ matchesPem publicKey = true := by
  have idPresent : matchesId clientId = true → (Json.str clientId).missing = false := by
    intro matched
    refine decide_eq_false fun empty => ?_
    rw [empty] at matched
    exact absurd matched (by decide)
  have keyPresent : matchesPem publicKey = true → (Json.str publicKey).missing = false := by
    intro matched
    refine decide_eq_false fun empty => ?_
    rw [empty] at matched
    exact absurd matched (by decide)
  have written (value : String) : text.str (.str value) = value := rfl
  simp only [validateRegister, except_bind_eq_ok_iff, require_eq_ok_iff, hasId, hasKey,
    Option.getD_some]
  constructor
  · rintro ⟨accepted, _, ⟨rfl, _⟩, _, ⟨rfl, _⟩, checked⟩
    rw [written, written] at checked
    split at checked
    · cases checked
    · rename_i idMatches
      split at checked
      · cases checked
      · rename_i keyMatches
        exact ⟨by simpa using idMatches, by simpa using keyMatches⟩
  · rintro ⟨idMatches, keyMatches⟩
    refine ⟨(clientId, publicKey), _, ⟨rfl, idPresent idMatches⟩, _,
      ⟨rfl, keyPresent keyMatches⟩, ?_⟩
    rw [written, written, idMatches, keyMatches]
    rfl

/-- A new network passes exactly if the name matches and the other fields pass. -/
theorem validateCreateNetwork_accepts_iff (text : PyText) (payload : Dict String Json)
    (name : String) :
    (∃ password topology, validateCreateNetwork text payload = .ok (name, password, topology)) ↔
      (∃ value, (payload.get? "name").getD .null = value ∧ value.missing = false ∧
        text.str value = name) ∧ matchesName name = true ∧ OtherFieldsPass text payload := by
  simp only [validateCreateNetwork, except_bind_eq_ok_iff, require_eq_ok_iff, OtherFieldsPass]
  constructor
  · rintro ⟨password, topology, value, ⟨found, present⟩, secret, ⟨rfl, secretPresent⟩, checked⟩
    split at checked
    · cases checked
    · rename_i nameMatches
      split at checked
      · cases checked
      · rename_i supported
        cases checked
        exact ⟨⟨value, found, present, rfl⟩, by simpa using nameMatches, secretPresent,
          by simpa [Option.isSome_iff_ne_none] using supported⟩
  · rintro ⟨⟨value, found, present, rfl⟩, nameMatches, secretPresent, supported⟩
    refine ⟨text.str ((payload.get? "password").getD .null),
      text.str (getOr payload "topology" (.str "mesh")), value, ⟨found, present⟩, _,
      ⟨rfl, secretPresent⟩, ?_⟩
    rw [if_neg (by simp [nameMatches]),
      if_neg (by simpa [Option.isSome_iff_ne_none] using supported)]

/-- The check of a registration is exact where a key that passes comes with no id that has a line
break behind it. -/
theorem registerExact_iff (text : PyText) {payload : Dict String Json}
    {clientId publicKey : String} (hasId : payload.get? "client_id" = some (.str clientId))
    (hasKey : payload.get? "public_key" = some (.str publicKey)) :
    RegisterExact text payload clientId ↔
      (matchesPem publicKey = true → ¬ BreakBehind ValidClientId clientId.toList) := by
  rw [RegisterExact, validateRegister_accepts_iff text hasId hasKey, matchesId_iff]
  constructor
  · rintro exactly keyMatches ⟨body, valid, same⟩
    have single := validClientId_single _ (exactly ⟨Or.inr ⟨body, valid, same⟩, keyMatches⟩)
    rw [same] at single
    exact single (List.mem_append_right body (List.mem_singleton.mpr rfl))
  · rintro unbroken ⟨valid | behind, keyMatches⟩
    · exact valid
    · exact absurd behind (unbroken keyMatches)

/-- The check of a new network is exact where no name slips through. -/
theorem createNetworkExact_iff (isLineBreak : Char → Prop) (newline : isLineBreak '\n')
    (text : PyText) (payload : Dict String Json) :
    CreateNetworkExact isLineBreak text payload ↔
      (((payload.get? "name").getD .null).missing = false → OtherFieldsPass text payload →
        ¬ NameSlips isLineBreak (text.str ((payload.get? "name").getD .null)).toList) := by
  have accepts : CreateNetworkExact isLineBreak text payload ↔ ∀ name,
      (∃ password topology, validateCreateNetwork text payload = .ok (name, password, topology)) →
        ValidName isLineBreak name.toList :=
    ⟨fun exactly name ⟨password, topology, accepted⟩ => exactly name password topology accepted,
      fun exactly name password topology accepted => exactly name ⟨password, topology, accepted⟩⟩
  simp only [accepts, validateCreateNetwork_accepts_iff, matchesName_iff]
  generalize (payload.get? "name").getD .null = value
  constructor
  · rintro exactly present others slips
    have matched : ValidName (· = '\n') (text.str value).toList ∨
        BreakBehind (ValidName (· = '\n')) (text.str value).toList := by
      obtain behind | ⟨valid, _⟩ := slips
      · exact Or.inr behind
      · exact Or.inl valid
    have valid := exactly _ ⟨⟨value, rfl, present, rfl⟩, matched, others⟩
    obtain ⟨body, _, same⟩ | ⟨_, char, member, breaks⟩ := slips
    · refine valid.2 '\n' ?_ newline
      rw [same]
      exact List.mem_append_right body (List.mem_singleton.mpr rfl)
    · exact valid.2 char member breaks
  · rintro unslipped name ⟨⟨_, rfl, present, rfl⟩, matched, others⟩
    have noSlip := unslipped present others
    obtain valid | behind := matched
    · refine ⟨valid.1, fun char member breaks => ?_⟩
      exact noSlip (Or.inr ⟨valid, char, member, breaks⟩)
    · exact absurd (Or.inl behind) noSlip

/-- The checks are exact on exactly the payloads without these texts. -/
theorem registrationChecks_iff (isLineBreak : Char → Prop) (newline : isLineBreak '\n')
    (text : PyText) :
    (∀ (payload : Dict String Json) (clientId publicKey : String),
      payload.get? "client_id" = some (.str clientId) →
      payload.get? "public_key" = some (.str publicKey) →
      (RegisterExact text payload clientId ↔
        (matchesPem publicKey = true → ¬ BreakBehind ValidClientId clientId.toList))) ∧
      ∀ payload : Dict String Json,
        (CreateNetworkExact isLineBreak text payload ↔
          (((payload.get? "name").getD .null).missing = false → OtherFieldsPass text payload →
            ¬ NameSlips isLineBreak (text.str ((payload.get? "name").getD .null)).toList)) :=
  ⟨fun _ _ _ hasId hasKey => registerExact_iff text hasId hasKey,
    createNetworkExact_iff isLineBreak newline text⟩

/-- The payload of a registration, with a public key that passes. -/
def registerPayload (clientId : String) : Dict String Json :=
  Dict.ofEntries [("client_id", .str clientId),
    ("public_key", .str "-----BEGIN PUBLIC KEY-----")]

def createNetworkPayload (name : String) : Dict String Json :=
  Dict.ofEntries [("name", .str name), ("password", .str "secret")]

/-- Text operations for payloads of texts. -/
def plainText : PyText where
  repr _ := ""
  lower value := value

theorem registrationChecks_iff_plain :
    (RegisterExact plainText (registerPayload "abcdefgh") "abcdefgh" ↔
      (matchesPem "-----BEGIN PUBLIC KEY-----" = true →
        ¬ BreakBehind ValidClientId "abcdefgh".toList)) ∧
      (CreateNetworkExact (· = '\n') plainText (createNetworkPayload "home") ↔
        ((Json.str "home").missing = false →
          OtherFieldsPass plainText (createNetworkPayload "home") →
          ¬ NameSlips (· = '\n') "home".toList)) :=
  ⟨(registrationChecks_iff (· = '\n') rfl plainText).1 (registerPayload "abcdefgh") "abcdefgh"
      "-----BEGIN PUBLIC KEY-----" rfl rfl,
    (registrationChecks_iff (· = '\n') rfl plainText).2 (createNetworkPayload "home")⟩

/-- An id and a name with a line break behind them pass. -/
theorem registrationChecks_counterexample :
    validateRegister plainText (registerPayload "abcdefgh\n") =
        .ok ("abcdefgh\n", "-----BEGIN PUBLIC KEY-----") ∧
      ¬ RegisterExact plainText (registerPayload "abcdefgh\n") "abcdefgh\n" ∧
      validateCreateNetwork plainText (createNetworkPayload "home\n") =
        .ok ("home\n", "secret", "mesh") ∧
      ¬ CreateNetworkExact (· = '\n') plainText (createNetworkPayload "home\n") := by
  have registered : validateRegister plainText (registerPayload "abcdefgh\n") =
      .ok ("abcdefgh\n", "-----BEGIN PUBLIC KEY-----") := by rfl
  have created : validateCreateNetwork plainText (createNetworkPayload "home\n") =
      .ok ("home\n", "secret", "mesh") := by rfl
  refine ⟨registered, fun exactly => ?_, created, fun exactly => ?_⟩
  · have valid := exactly ⟨_, registered⟩
    exact absurd (valid.2 '\n' (by decide)) (by decide)
  · have valid := exactly _ _ _ created
    exact valid.2 '\n' (by decide) rfl

end LocalNetwork
