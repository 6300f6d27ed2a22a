import LoraBridge.Lock.Store
import LoraBridge.Proofs.Lock.History

/-! # The two kinds of stores agree

  The embedded store keeps the time at which a lock expires and compares it with the clock itself;
  the remote one tells a server for how long a key is to exist, and leaves the rest to it. To the
  callers this makes no difference.

  The server is somebody else's program. A `Server` is what is documented of it: what it replies to
  the command that sets a key, and which keys are there afterwards.

  - `Agree`: a server and a tree have the same keys from some time on.
  - `Agree.step`: then they answer alike, and still have the same keys.
  - `stores_agree`: started empty, the two stores answer every call of a history alike.
  - `Server.keyspace`: a server that keeps the promises.
-/

namespace LoraBridge.Lock

open Remote (Request Reply)

variable {σ : Type} {a : Attempt} {s : σ} {t : Tree} {now later : Int} {history : List Attempt}

/-! ### Servers -/

/-- The command that gives a key a value for some milliseconds, unless the key is there. -/
def setCommand (key value : String) (n : Nat) : Request :=
  ["SET", key, value, "PX", toString n, "NX"]

/-- Whether a key may be set at some time for so many milliseconds. -/
structure Settable (now : Int) (n : Nat) : Prop where
  pos : 0 < n
  length_le : n ≤ lastTime
  end_le : now + n ≤ lastTime

/-- A server of the remote store, as documented. To a command that sets a key which is there, it
    replies with nothing, and does nothing. Otherwise it replies with a value, and the key is there
    for as long as the command says. What it does about lengths that are zero or go beyond the last
    time is left open. -/
structure Server (σ : Type) where
  /-- The server without keys. -/
  start : σ
  /-- What it replies to a command that arrives at some time. -/
  answer : σ → Int → Request → Reply × σ
  /-- Whether a key is there at some time, if no more commands arrive until then. -/
  has : σ → String → Int → Bool
  has_start : ∀ key now, has start key now = false
  answer_of_has : ∀ s key value {now n}, Settable now n → has s key now = true →
    (answer s now (setCommand key value n)).1 = .empty
  answer_of_not_has : ∀ s key value {now n}, Settable now n → has s key now = false →
    (answer s now (setCommand key value n)).1 = .value
  has_answer_of_has : ∀ s key value {now n}, Settable now n → has s key now = true →
    ∀ k later, now ≤ later → has (answer s now (setCommand key value n)).2 k later = has s k later
  has_answer_of_not_has : ∀ s key value {now n}, Settable now n → has s key now = false →
    ∀ k later, now ≤ later → has (answer s now (setCommand key value n)).2 k later =
      if k = key then decide (later < now + n) else has s k later

/-- What the remote store does with a server for an attempt. -/
def Server.attempt (server : Server σ) (s : σ) (a : Attempt) : Except StoreError Bool × σ :=
  Remote.setIfAbsent (server.answer s a.now) a.key a.ttl

/-- What a store does for an attempt. -/
def Store.attempt (store : Store) (a : Attempt) : Except StoreError Bool × Store :=
  store.setIfAbsent a.now a.key a.ttl

/-- What is answered to some attempts, one after the other. -/
def answers {α : Type} (attempt : σ → Attempt → α × σ) (s : σ) : List Attempt → List α
  | [] => []
  | a :: history =>
    let (answer, s) := attempt s a
    answer :: answers attempt s history

/-! ### Lengths of time -/

/-- An attempt, at some time, to take a lock for at least a millisecond. Neither the length of the
    lock nor its end goes beyond the last time. From 1970 on, the former follows from the latter. -/
structure Attempt.InRange (a : Attempt) : Prop where
  now : firstTime ≤ a.now
  least : (Duration.ofMillis 1).nanos ≤ a.ttl.nanos
  length : a.ttl.millis ≤ lastTime
  expiry : a.now + a.ttl.millis ≤ lastTime

theorem Attempt.InRange.settable (ha : a.InRange) : Settable a.now a.ttl.millis :=
  ⟨Nat.div_pos ha.least (by decide), ha.length, ha.expiry⟩

/-- Such a length is passed on to the server as it is, -/
theorem Attempt.InRange.ttlArgument_eq (ha : a.InRange) :
    Remote.ttlArgument a.ttl = a.ttl.millis := by
  have hpos := ha.settable.pos
  have hlength : (a.ttl.millis : Int) ≤ 9223372036854775807 := ha.length
  have hbelow : a.ttl.millis ≤ Remote.maxMillis := by
    show a.ttl.millis ≤ 18446744073709551615
    omega
  rw [Remote.ttlArgument, Nat.min_eq_left hbelow, Nat.max_eq_left hpos]

/-- and the embedded store adds it to the time as it is. -/
theorem Attempt.InRange.expiryAt_eq (ha : a.InRange) :
    expiryAt a.now a.ttl = a.now + a.ttl.millis := by
  rw [expiryAt, Int.min_eq_left ha.length, Int.min_eq_left ha.expiry]

theorem Attempt.InRange.setRequest_eq (ha : a.InRange) :
    Remote.setRequest a.key a.ttl = setCommand a.key "lock" a.ttl.millis := by
  rw [Remote.setRequest, ha.ttlArgument_eq, setCommand]

/-! ### Agreement -/

/-- From some time on, a server has the keys that are locked in a tree. -/
def Agree (server : Server σ) (s : σ) (t : Tree) (now : Int) : Prop :=
  ∀ key later, now ≤ later → server.has s key later = t.register.isLive key later

theorem Agree.start (server : Server σ) (now : Int) : Agree server server.start .empty now :=
  fun key later _ => server.has_start key later

theorem Agree.mono {server : Server σ} (h : Agree server s t now) (hle : now ≤ later) :
    Agree server s t later :=
  fun key _ hlater => h key _ (Int.le_trans hle hlater)

theorem Register.isLive_lock (r : Register) (key k : String) (deadline now : Int) :
    (r.lock key deadline).isLive k now =
      if k = key then decide (now < deadline) else r.isLive k now := by
  by_cases hk : k = key
  · subst hk
    rw [if_pos rfl, Register.isLive_of_deadline _ (r.deadline?_lock_self deadline)]
  · rw [if_neg hk, Register.isLive, Register.isLive, r.deadline?_lock_of_ne deadline hk]

/-- Whoever agrees gives the same answer, and agrees afterwards. -/
theorem Agree.step {server : Server σ} (h : Agree server s t a.now) (ha : a.InRange) :
    (server.attempt s a).1 = .ok (t.wins a) ∧
      Agree server (server.attempt s a).2 (t.attempt a) a.now := by
  have hregister := t.register_attempt ha.now
  have hnow := h a.key a.now (Int.le_refl _)
  simp only [Server.attempt, Remote.setIfAbsent, ha.setRequest_eq]
  cases hlive : t.register.isLive a.key a.now with
  | true =>
    -- both have the key, and nothing changes
    rw [hlive] at hnow
    obtain ⟨hwins, hafter⟩ := Prod.mk.inj (hregister.trans (t.register.attempt_of_live hlive))
    constructor
    · rw [server.answer_of_has s _ _ ha.settable hnow, hwins]
      rfl
    · intro key later hlater
      rw [server.has_answer_of_has s _ _ ha.settable hnow key later hlater,
        hafter, h key later hlater]
  | false =>
    -- both take the lock, until the same time
    rw [hlive] at hnow
    obtain ⟨hwins, hafter⟩ := Prod.mk.inj (hregister.trans (t.register.attempt_of_not_live hlive))
    constructor
    · rw [server.answer_of_not_has s _ _ ha.settable hnow, hwins]
      rfl
    · intro key later hlater
      rw [server.has_answer_of_not_has s _ _ ha.settable hnow key later hlater,
        hafter, Register.isLive_lock, ha.expiryAt_eq, h key later hlater]

theorem Agree.answers_eq {server : Server σ} (h : Agree server s t now)
    (hrange : ∀ a ∈ history, a.InRange) (hnow : ∀ a ∈ history, now ≤ a.now)
    (hclock : history.Pairwise fun a b => a.now ≤ b.now) :
    answers server.attempt s history = answers Store.attempt (.embedded t) history := by
  induction history generalizing s t now with
  | nil => rfl
  | cons a history ih =>
    obtain ⟨hlater, hclock⟩ := List.pairwise_cons.mp hclock
    have ha : Agree server s t a.now := h.mono (hnow a List.mem_cons_self)
    obtain ⟨hanswer, hafter⟩ := ha.step (hrange a List.mem_cons_self)
    have hrest := ih hafter (fun b hb => hrange b (List.mem_cons_of_mem a hb)) hlater hclock
    show (server.attempt s a).1 :: answers server.attempt (server.attempt s a).2 history =
      .ok (t.wins a) :: answers Store.attempt (.embedded (t.attempt a)) history
    rw [hanswer, hrest]

/-- The embedded store and the remote one, both started empty, answer alike to every call in a
    history of calls at times that never go back. -/
theorem stores_agree (server : Server σ) (hrange : ∀ a ∈ history, a.InRange)
    (hclock : history.Pairwise fun a b => a.now ≤ b.now) :
    answers server.attempt server.start history =
      answers Store.attempt (.embedded .empty) history :=
  (Agree.start server firstTime).answers_eq hrange (fun a ha => (hrange a ha).now) hclock

/-! ### A server -/

/-- A server that keeps until when each key is there sets a key. -/
def keyspaceSet (r : Register) (now : Int) (key : String) (n : Nat) : Reply × Register :=
  if n = 0 ∨ lastTime < n ∨ lastTime < now + n then (.error, r)
  else if r.isLive key now then (.empty, r)
  else (.value, r.lock key (now + n))

/-- It replies to a command. -/
def keyspaceAnswer (r : Register) (now : Int) : Request → Reply × Register
  | ["PING"] => (.value, r)
  | ["SET", key, _, "PX", n, "NX"] =>
    if n.toList.all Char.isDigit then keyspaceSet r now key (Nat.ofDigitChars 10 n.toList 0)
    else (.error, r)
  | _ => (.error, r)

theorem keyspaceAnswer_setCommand (r : Register) (key value : String) {now : Int} {n : Nat}
    (h : Settable now n) : keyspaceAnswer r now (setCommand key value n) =
      if r.isLive key now then (.empty, r) else (.value, r.lock key (now + n)) := by
  have htext : (toString n).toList = Nat.toDigits 10 n := String.toList_ofList
  have hdigits : (toString n).toList.all Char.isDigit = true := by
    rw [htext, List.all_eq_true]
    exact Text.isDigit_toDigits n
  have hinvalid : ¬ (n = 0 ∨ lastTime < n ∨ lastTime < now + n) := by
    have := h.pos
    have := h.length_le
    have := h.end_le
    omega
  rw [setCommand, keyspaceAnswer, if_pos hdigits, htext, Nat.ofDigitChars_ten_toDigits, keyspaceSet,
    if_neg hinvalid]

/-- Such a server keeps the promises. -/
def keyspace : Server Register where
  start := ⟨fun _ => none⟩
  answer := keyspaceAnswer
  has r key now := r.isLive key now
  has_start _ _ := rfl
  answer_of_has r key value now n h hlive := by
    rw [keyspaceAnswer_setCommand r key value h, if_pos hlive]
  answer_of_not_has r key value now n h hlive := by
    rw [keyspaceAnswer_setCommand r key value h, hlive, if_neg Bool.false_ne_true]
  has_answer_of_has r key value now n h hlive k later _ := by
    rw [keyspaceAnswer_setCommand r key value h, if_pos hlive]
  has_answer_of_not_has r key value now n h hlive k later _ := by
    rw [keyspaceAnswer_setCommand r key value h, hlive, if_neg Bool.false_ne_true,
      Register.isLive_lock]

/-- Attempts at two keys. The locks are to last for a hundred milliseconds and almost one more, which
    neither store counts. -/
def fractions : List Attempt :=
  [⟨0, "k", ⟨100999999⟩⟩, ⟨99, "k", ⟨100999999⟩⟩, ⟨99, "j", ⟨1999999⟩⟩, ⟨100, "k", ⟨100999999⟩⟩,
    ⟨100, "j", ⟨1000000⟩⟩]

theorem stores_agree_fractions :
    (∀ a ∈ fractions, a.InRange) ∧ (fractions.Pairwise fun a b => a.now ≤ b.now) ∧
      answers keyspace.attempt keyspace.start fractions =
        [.ok true, .ok false, .ok true, .ok true, .ok true] := by
  have hrange : ∀ a ∈ fractions, a.InRange := by
    simp only [fractions, List.forall_mem_cons]
    refine ⟨?_, ?_, ?_, ?_, ?_, by simp⟩ <;> constructor <;> decide
  have hclock : fractions.Pairwise fun a b => a.now ≤ b.now := by decide
  refine ⟨hrange, hclock, ?_⟩
  rw [stores_agree keyspace hrange hclock]
  rfl

end LoraBridge.Lock
