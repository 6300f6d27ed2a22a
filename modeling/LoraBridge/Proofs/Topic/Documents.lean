import LoraBridge.Handler.Verdict
import LoraBridge.Proofs.Topic.Commands
import LoraBridge.Transport.Local

/-! # Topics of documents

  Documents go out on topics that are put together without looking at the identities, which may have
  slashes and wildcards in them. What tells documents from commands is the last level alone: no
  identity reaches it, and no kind of document has that of commands. Two documents share a topic only
  if they are of one kind and one device, unless there are slashes in the identities.

  - `TopicAddress.getLast?_levels_topic`: the last level of a topic is the suffix of its kind.
  - `TopicAddress.topic_inj`: what a topic without stray slashes was put together from.
  - `TopicAddress.documents_separated`: documents, commands and each other.
-/

namespace LoraBridge

open Topic (levels)

namespace Kind

theorem slash_not_mem_suffix (kind : Kind) : '/' ∉ kind.suffix.toList := by
  cases kind <;> decide

theorem suffix_ne_tx (kind : Kind) : kind.suffix ≠ "tx" := by
  cases kind <;> decide

theorem suffix_inj {kind other : Kind} : kind.suffix = other.suffix ↔ kind = other := by
  cases kind <;> cases other <;> decide

end Kind

namespace TopicAddress

variable {address other : TopicAddress} {kind otherKind : Kind}

/-- What the topics of all documents and commands of a device begin with. -/
def base (address : TopicAddress) : String :=
  "application/" ++ address.application ++ "/node/" ++ address.device ++ "/"

theorem topicFor_eq_base (address : TopicAddress) (suffix : String) :
    address.topicFor suffix = address.base ++ suffix := rfl

/-! ### Documents and commands -/

/-- Whatever the identities are, the last level of a topic is the suffix of its kind. -/
theorem getLast?_levels_topic (address : TopicAddress) (kind : Kind) :
    (levels (address.topic kind)).getLast? = some kind.suffix.toList := by
  have hsuffix : levels kind.suffix = [kind.suffix.toList] :=
    Topic.levels_eq_singleton.mpr ⟨kind.slash_not_mem_suffix, rfl⟩
  have hparts : levels (address.topic kind) =
      levels ("application/" ++ address.application ++ "/node/" ++ address.device) ++
        [kind.suffix.toList] := by
    rw [← hsuffix]
    exact Topic.levels_append _ _
  rw [hparts, List.getLast?_concat]

/-- A topic whose last level is that of commands is not one of a document. -/
theorem getLast?_ne_tx (address : TopicAddress) (kind : Kind) :
    (levels (address.topic kind)).getLast? ≠ some "tx".toList := by
  rw [getLast?_levels_topic]
  intro h
  exact kind.suffix_ne_tx (String.toList_inj.mp (Option.some.inj h))

/-- The filter of all commands does not accept the topic of a document. -/
theorem accepts_topic (address : TopicAddress) (kind : Kind) :
    Filter.accepts commandFilter (address.topic kind) = false := by
  rw [← Bool.not_eq_true, accepts_commandFilter_iff]
  rintro ⟨application, device, hlevels⟩
  refine address.getLast?_ne_tx kind ?_
  rw [hlevels]
  rfl

/-- The topic of a document is not read as one of a command. -/
theorem ofCommandTopic?_topic (address : TopicAddress) (kind : Kind) :
    ofCommandTopic? (address.topic kind) = none := by
  cases h : ofCommandTopic? (address.topic kind) with
  | none => rfl
  | some found =>
    -- a command topic would come under the filter of all commands
    have haccepts := (exists_isCommandTopic_iff.mp ⟨found, ofCommandTopic?_eq_some_iff.mp h⟩).1
    rw [accepts_topic] at haccepts
    cases haccepts

/-! ### One topic for each device and kind -/

/-- A topic of two identities without slashes is put together in one way only. -/
theorem topic_inj (happlication : '/' ∉ address.application.toList)
    (hdevice : '/' ∉ address.device.toList) (hother : '/' ∉ other.application.toList)
    (hotherDevice : '/' ∉ other.device.toList) (h : address.topic kind = other.topic otherKind) :
    address = other ∧ kind = otherKind := by
  have hlevels := congrArg levels h
  rw [topic, topic, levels_topicFor happlication hdevice kind.slash_not_mem_suffix,
    levels_topicFor hother hotherDevice otherKind.slash_not_mem_suffix] at hlevels
  simp only [List.cons.injEq, String.toList_inj, true_and, and_true] at hlevels
  obtain ⟨hsame, hsameDevice, hsuffix⟩ := hlevels
  refine ⟨?_, Kind.suffix_inj.mp hsuffix⟩
  cases address
  cases other
  exact congr (congrArg mk hsame) hsameDevice

/-- The topic of a document never passes for one of a command, whatever its identities are: it is not
    read as one, the filter of all commands does not accept it, so that nothing is delivered to a
    handler that has subscribed to nothing else, and a message on it is judged to be none. Documents
    about different devices, or of different kinds, have different topics, as long as there are no
    slashes in the identities. With `tx` in place of its suffix, the topic of a document about two
    words is the command topic of the same two words. -/
theorem documents_separated :
    (∀ (address : TopicAddress) (kind : Kind),
      ofCommandTopic? (address.topic kind) = none ∧
        Filter.accepts commandFilter (address.topic kind) = false ∧
        (∀ t : Transport.Local, (∀ s ∈ t.subscriptions, s.1 = commandFilter) →
          t.delivers (address.topic kind) = false) ∧
        ∀ payload, Handler.judge (address.topic kind) payload = .badTopic) ∧
      (∀ (address other : TopicAddress) (kind otherKind : Kind),
        '/' ∉ address.application.toList → '/' ∉ address.device.toList →
        '/' ∉ other.application.toList → '/' ∉ other.device.toList →
        address.topic kind = other.topic otherKind → address = other ∧ kind = otherKind) ∧
      (∀ (address : TopicAddress) (kind : Kind), ∃ base, address.topic kind = base ++ kind.suffix ∧
        (IsWord address.application → IsWord address.device →
          ofCommandTopic? (base ++ "tx") = some address)) := by
  refine ⟨fun address kind => ?_, fun _ _ _ _ => topic_inj, fun address kind => ?_⟩
  · have hread := address.ofCommandTopic?_topic kind
    have haccepts := address.accepts_topic kind
    refine ⟨hread, haccepts, fun t hsubscriptions => ?_, fun payload => ?_⟩
    · have hnone : t.subscribesTo (address.topic kind) = false := by
        rw [Transport.Local.subscribesTo, List.any_eq_false]
        intro s hs
        rw [hsubscriptions s hs, haccepts]
        exact Bool.false_ne_true
      rw [Transport.Local.delivers, hnone, Bool.false_and]
    · rw [Handler.judge, hread]
  · refine ⟨address.base, rfl, fun happlication hdevice => ?_⟩
    rw [← topicFor_eq_base]
    exact ofCommandTopic?_topicFor (isWord_iff.mpr happlication) (isWord_iff.mpr hdevice)

/-- An identity that looks like a command topic does not make one, nor do wildcards. With slashes,
    two devices may share a topic. -/
theorem documents_separated_hostile :
    ofCommandTopic? (topic ⟨"a/node/b/tx", "#"⟩ .ack) = none ∧
      Filter.accepts commandFilter (topic ⟨"a/node/b/tx", "#"⟩ .ack) = false ∧
      ('/' ∉ "+".toList ∧ '/' ∉ "#".toList ∧ topic ⟨"+", "#"⟩ .join ≠ topic ⟨"+", "#"⟩ .ack) ∧
      topic ⟨"a/node/b", "c"⟩ .data = topic ⟨"a", "b/node/c"⟩ .data ∧
      (IsWord "a_1" ∧ IsWord "d1" ∧ ∃ base, topic ⟨"a_1", "d1"⟩ .data = base ++ "rx" ∧
        ofCommandTopic? (base ++ "tx") = some ⟨"a_1", "d1"⟩) := by
  have hwords : IsWord "a_1" ∧ IsWord "d1" :=
    ⟨isWord_iff.mp (by decide), isWord_iff.mp (by decide)⟩
  have hplain : '/' ∉ "+".toList ∧ '/' ∉ "#".toList := by decide
  obtain ⟨hcommands, hinj, hreplaced⟩ := documents_separated
  obtain ⟨hread, haccepts, -⟩ := hcommands ⟨"a/node/b/tx", "#"⟩ .ack
  refine ⟨hread, haccepts, ⟨hplain.1, hplain.2, fun h => ?_⟩, by decide, hwords.1, hwords.2, ?_⟩
  · have hkinds := (hinj ⟨"+", "#"⟩ ⟨"+", "#"⟩ .join .ack hplain.1 hplain.2 hplain.1 hplain.2 h).2
    cases hkinds
  · obtain ⟨base, htopic, hcommand⟩ := hreplaced ⟨"a_1", "d1"⟩ .data
    exact ⟨base, htopic, hcommand hwords.1 hwords.2⟩

end TopicAddress

end LoraBridge
