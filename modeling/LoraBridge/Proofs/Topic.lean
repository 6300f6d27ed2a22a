import LoraBridge.Topic.Address

/-! # Command topics of devices

  A topic is written level by level and read back level by level. Words have no `/` in them, so the
  levels of a topic that was written for two words are the ones that were put there.

  - `TopicAddress.isWord_of_ofCommandTopic?`: what is read from a command topic are two words.
  - `TopicAddress.ofCommandTopic?_topicFor`: the identities of a command topic are read back.
  - `TopicAddress.accepts_commandFilter`: the topic comes under the filter of all commands.
-/

namespace LoraBridge.TopicAddress

variable {address : TopicAddress} {w : List Char}

/-- A word has no characters but those of words. -/
theorem not_mem_of_isWord {c : Char} (hc : isWordChar c = false) (h : isWord w = true) :
    c ∉ w := by
  intro hmem
  rw [isWord, Bool.and_eq_true, List.all_eq_true] at h
  rw [h.2 c hmem] at hc
  cases hc

/-- Both identities of a command topic are words. -/
theorem isWord_of_ofCommandTopic? {topic : String} (h : ofCommandTopic? topic = some address) :
    isWord address.application.toList = true ∧ isWord address.device.toList = true := by
  unfold ofCommandTopic? at h
  split at h
  · split at h
    · next hwords =>
      obtain rfl := Option.some.inj h
      simpa using hwords.2.2.2
    · cases h
  · cases h

/-- The levels of a topic that is written for two identities without `/`. -/
theorem levels_topicFor (happlication : '/' ∉ address.application.toList)
    (hdevice : '/' ∉ address.device.toList) {suffix : String} (hsuffix : '/' ∉ suffix.toList) :
    Topic.levels (address.topicFor suffix) =
      ["application".toList, address.application.toList, "node".toList, address.device.toList,
        suffix.toList] := by
  have hjoined : (address.topicFor suffix).toList =
      ['/'].intercalate ["application".toList, address.application.toList, "node".toList,
        address.device.toList, suffix.toList] := by
    show ("application/" ++ address.application ++ "/node/" ++ address.device ++ "/" ++
      suffix).toList = _
    simp [List.intercalate, List.intersperse]
  rw [Topic.levels, hjoined]
  refine List.splitOn_intercalate '/' ?_ (by simp)
  simp [happlication, hdevice, hsuffix]

/-- The identities of a command topic are read back. -/
theorem ofCommandTopic?_topicFor (happlication : isWord address.application.toList = true)
    (hdevice : isWord address.device.toList = true) :
    ofCommandTopic? (address.topicFor "tx") = some address := by
  have hsuffix : '/' ∉ "tx".toList := by simp
  have hlevels := levels_topicFor (not_mem_of_isWord rfl happlication)
    (not_mem_of_isWord rfl hdevice) hsuffix
  rw [ofCommandTopic?, hlevels]
  simp [happlication, hdevice]

/-- A command topic comes under the filter of all commands. -/
theorem accepts_commandFilter (happlication : isWord address.application.toList = true)
    (hdevice : isWord address.device.toList = true) :
    Filter.accepts commandFilter (address.topicFor "tx") = true := by
  have hsuffix : '/' ∉ "tx".toList := by simp
  have hlevels := levels_topicFor (not_mem_of_isWord rfl happlication)
    (not_mem_of_isWord rfl hdevice) hsuffix
  have hfilter : Topic.levels commandFilter =
      ["application".toList, Filter.anyLevel, "node".toList, Filter.anyLevel, "tx".toList] := rfl
  rw [Filter.accepts, hfilter, hlevels]
  simp [Filter.acceptsLevels]

end LoraBridge.TopicAddress
