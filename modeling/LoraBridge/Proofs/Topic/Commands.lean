import LoraBridge.Proofs.Topic
import LoraBridge.Proofs.Topic.Matching

/-! # The language of command topics

  A handler reads the topics of commands level by level, and subscribes to them by a filter. Both
  agree on what a command topic is: it is a fixed text around two words.

  - `TopicAddress.isWord_iff`: words by their characters.
  - `TopicAddress.accepts_commandFilter_iff`: what the filter of all commands accepts.
  - `TopicAddress.ofCommandTopic?_eq_some_iff`: what is read as a command topic.
  - `TopicAddress.commands_language`: how the two fit together.
-/

namespace LoraBridge.TopicAddress

open Topic (levels)

variable {topic : String} {address : TopicAddress}

/-! ### Words -/

/-- A word: letters, digits and underscores of ASCII, at least one of them. -/
structure IsWord (s : String) : Prop where
  ne_empty : s ≠ ""
  chars : ∀ c ∈ s.toList, 'A' ≤ c ∧ c ≤ 'Z' ∨ 'a' ≤ c ∧ c ≤ 'z' ∨ '0' ≤ c ∧ c ≤ '9' ∨ c = '_'

theorem isWordChar_iff {c : Char} : isWordChar c = true ↔
    'A' ≤ c ∧ c ≤ 'Z' ∨ 'a' ≤ c ∧ c ≤ 'z' ∨ '0' ≤ c ∧ c ≤ '9' ∨ c = '_' := by
  -- letters of either case and digits are intervals of characters
  have hupper : c.isUpper = true ↔ 'A' ≤ c ∧ c ≤ 'Z' := decide_eq_true_iff
  have hlower : c.isLower = true ↔ 'a' ≤ c ∧ c ≤ 'z' :=
    Bool.and_eq_true_iff.trans (and_congr decide_eq_true_iff decide_eq_true_iff)
  have hdigit : c.isDigit = true ↔ '0' ≤ c ∧ c ≤ '9' :=
    Bool.and_eq_true_iff.trans (and_congr decide_eq_true_iff decide_eq_true_iff)
  show (((c.isUpper || c.isLower) || c.isDigit) || decide (c = '_')) = true ↔ _
  rw [Bool.or_eq_true, Bool.or_eq_true, Bool.or_eq_true, hupper, hlower, hdigit, decide_eq_true_iff,
    or_assoc, or_assoc]

theorem isWord_iff {s : String} : isWord s.toList = true ↔ IsWord s := by
  rw [isWord, Bool.and_eq_true, List.all_eq_true]
  constructor
  · rintro ⟨hsome, hall⟩
    refine ⟨?_, fun c hc => isWordChar_iff.mp (hall c hc)⟩
    rintro rfl
    cases hsome
  · rintro ⟨hne, hchars⟩
    refine ⟨?_, fun c hc => isWordChar_iff.mpr (hchars c hc)⟩
    simpa [List.isEmpty_iff] using hne

/-! ### Command topics -/

/-- A command topic: the one for these two identities, which are words. -/
structure IsCommandTopic (topic : String) (address : TopicAddress) : Prop where
  text : topic = "application/" ++ address.application ++ "/node/" ++ address.device ++ "/tx"
  application : IsWord address.application
  device : IsWord address.device

theorem topicFor_commands (address : TopicAddress) : address.topicFor "tx" =
    "application/" ++ address.application ++ "/node/" ++ address.device ++ "/tx" := by
  have hend : "/" ++ "tx" = "/tx" := by decide
  unfold topicFor
  rw [String.append_assoc]
  exact congrArg (_ ++ ·) hend

/-- Command topics by their levels. -/
theorem isCommandTopic_iff : IsCommandTopic topic address ↔
    levels topic = ["application".toList, address.application.toList, "node".toList,
        address.device.toList, "tx".toList] ∧
      IsWord address.application ∧ IsWord address.device := by
  have hwritten (happlication : IsWord address.application) (hdevice : IsWord address.device) :
      levels (address.topicFor "tx") = ["application".toList, address.application.toList,
        "node".toList, address.device.toList, "tx".toList] :=
    levels_topicFor (not_mem_of_isWord rfl (isWord_iff.mpr happlication))
      (not_mem_of_isWord rfl (isWord_iff.mpr hdevice)) (by simp)
  constructor
  · rintro ⟨rfl, happlication, hdevice⟩
    rw [← topicFor_commands]
    exact ⟨hwritten happlication hdevice, happlication, hdevice⟩
  · rintro ⟨hlevels, happlication, hdevice⟩
    refine ⟨?_, happlication, hdevice⟩
    rw [← topicFor_commands, ← Topic.levels_inj, hlevels, hwritten happlication hdevice]

/-- What is read as a command topic, and what is read from it. -/
theorem ofCommandTopic?_eq_some_iff :
    ofCommandTopic? topic = some address ↔ IsCommandTopic topic address := by
  constructor
  · intro h
    obtain ⟨happlication, hdevice⟩ := isWord_of_ofCommandTopic? h
    refine isCommandTopic_iff.mpr ⟨?_, isWord_iff.mp happlication, isWord_iff.mp hdevice⟩
    unfold ofCommandTopic? at h
    split at h
    · next hlevels =>
      split at h
      · next hparts =>
        obtain ⟨rfl, rfl, rfl, -, -⟩ := hparts
        obtain rfl := Option.some.inj h
        simpa using hlevels
      · cases h
    · cases h
  · rintro ⟨rfl, happlication, hdevice⟩
    rw [← topicFor_commands]
    exact ofCommandTopic?_topicFor (isWord_iff.mpr happlication) (isWord_iff.mpr hdevice)

/-! ### The filter of all commands -/

/-- A word in a filter stands for itself. -/
theorem acceptsLevels_word_iff {f : List Char} {F T : List (List Char)} (hf : isWord f = true) :
    Filter.acceptsLevels (f :: F) T = true ↔
      ∃ T', T = f :: T' ∧ Filter.acceptsLevels F T' = true := by
  refine Filter.acceptsLevels_plain_iff ?_ ?_
  · rintro rfl
    cases hf
  · rintro rfl
    cases hf

/-- The filter of all commands accepts topics of five levels, of which the second and the fourth one
    may be anything. -/
theorem accepts_commandFilter_iff : Filter.accepts commandFilter topic = true ↔
    ∃ application device, levels topic =
      ["application".toList, application, "node".toList, device, "tx".toList] := by
  have hfilter : levels commandFilter =
      ["application".toList, Filter.anyLevel, "node".toList, Filter.anyLevel, "tx".toList] := rfl
  have happlication : isWord "application".toList = true := by decide
  have hnode : isWord "node".toList = true := by decide
  have htx : isWord "tx".toList = true := by decide
  rw [Filter.accepts, hfilter]
  simp only [acceptsLevels_word_iff happlication, acceptsLevels_word_iff hnode,
    acceptsLevels_word_iff htx, Filter.acceptsLevels_plus_iff, Filter.acceptsLevels_nil_iff]
  constructor
  · rintro ⟨_, hlevels, application, _, rfl, _, rfl, device, _, rfl, _, rfl, rfl⟩
    exact ⟨application, device, hlevels⟩
  · rintro ⟨application, device, hlevels⟩
    exact ⟨_, hlevels, application, _, rfl, _, rfl, device, _, rfl, _, rfl, rfl⟩

/-- Of the topics that the filter of all commands accepts, those with words in both places are
    command topics. -/
theorem exists_isCommandTopic_iff : (∃ address, IsCommandTopic topic address) ↔
    Filter.accepts commandFilter topic = true ∧
      ∃ application device : String, (levels topic)[1]? = some application.toList ∧
        (levels topic)[3]? = some device.toList ∧ IsWord application ∧ IsWord device := by
  constructor
  · rintro ⟨address, h⟩
    obtain ⟨hlevels, happlication, hdevice⟩ := isCommandTopic_iff.mp h
    refine ⟨accepts_commandFilter_iff.mpr ⟨_, _, hlevels⟩, address.application, address.device, ?_⟩
    rw [hlevels]
    exact ⟨rfl, rfl, happlication, hdevice⟩
  · rintro ⟨haccepts, application, device, hsecond, hfourth, happlication, hdevice⟩
    obtain ⟨second, fourth, hlevels⟩ := accepts_commandFilter_iff.mp haccepts
    rw [hlevels] at hsecond hfourth
    obtain rfl := Option.some.inj hsecond
    obtain rfl := Option.some.inj hfourth
    exact ⟨⟨application, device⟩, isCommandTopic_iff.mpr ⟨hlevels, happlication, hdevice⟩⟩

/-- A topic is read as one for two identities exactly if it is the text that is written for them
    and both are words; there are no two such pairs. The topics that are read are those that the
    filter of all commands accepts and that have words in both places, so every command topic comes
    under what a handler has subscribed to. -/
theorem commands_language (topic : String) :
    (∀ address, ofCommandTopic? topic = some address ↔ IsCommandTopic topic address) ∧
      (∀ address other, IsCommandTopic topic address → IsCommandTopic topic other →
        address = other) ∧
      ((ofCommandTopic? topic).isSome = true ↔
        Filter.accepts commandFilter topic = true ∧
          ∃ application device : String, (levels topic)[1]? = some application.toList ∧
            (levels topic)[3]? = some device.toList ∧ IsWord application ∧ IsWord device) := by
  refine ⟨fun address => ofCommandTopic?_eq_some_iff, fun address other h hother => ?_, ?_⟩
  · have hread := ofCommandTopic?_eq_some_iff.mpr h
    have hreadOther := ofCommandTopic?_eq_some_iff.mpr hother
    exact Option.some.inj (hread.symm.trans hreadOther)
  · rw [Option.isSome_iff_exists, ← exists_isCommandTopic_iff]
    exact exists_congr fun address => ofCommandTopic?_eq_some_iff

/-- A topic with an underscore and with letters of both cases, and what is read from it. -/
theorem commands_language_underscore :
    IsCommandTopic "application/a_1/node/Dev/tx" ⟨"a_1", "Dev"⟩ ∧
      ofCommandTopic? "application/a_1/node/Dev/tx" = some ⟨"a_1", "Dev"⟩ ∧
      (∀ other, IsCommandTopic "application/a_1/node/Dev/tx" other → other = ⟨"a_1", "Dev"⟩) ∧
      Filter.accepts commandFilter "application/a_1/node/Dev/tx" = true := by
  have hwords : IsWord "a_1" ∧ IsWord "Dev" :=
    ⟨isWord_iff.mp (by decide), isWord_iff.mp (by decide)⟩
  have hcommand : IsCommandTopic "application/a_1/node/Dev/tx" ⟨"a_1", "Dev"⟩ :=
    ⟨by decide, hwords.1, hwords.2⟩
  obtain ⟨hread, hunique, hfilter⟩ := commands_language "application/a_1/node/Dev/tx"
  have hsome := (hread _).mpr hcommand
  refine ⟨hcommand, hsome, fun other hother => hunique _ _ hother hcommand, ?_⟩
  exact (hfilter.mp (Option.isSome_iff_exists.mpr ⟨_, hsome⟩)).1

end LoraBridge.TopicAddress
