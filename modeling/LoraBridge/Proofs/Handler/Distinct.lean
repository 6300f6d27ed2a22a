import LoraBridge.Proofs.Handler.Progress
import LoraBridge.Proofs.Topic
import Mathlib.Data.List.Perm.Subperm

/-! # Distinct commands do not stand in each other's way

  A lock key is two texts with a colon between them, and references may have colons. What makes
  keys of different commands differ nevertheless is that the device comes from a topic, where it
  is a word. So whoever finds a key locked has been anticipated by a command of the same device
  with the same reference.

  - `lockKey_inj`: the key of a command that was judged to be one tells its device and reference.
  - `Peers.winner_of_refused`: a store that does not fail refuses a lock only while one that it
    granted is alive.
  - `Peers.exists_carrying`, `Peers.carries_le`: what is not done can be carried on, and all of it
    comes to an end.
  - `Peers.no_false_duplicates`: only repetitions are dropped, and distinct commands are all
    forwarded.
-/

namespace LoraBridge

/-! ### Keys -/

/-- Where the first part has no separator, it is told from the rest. -/
theorem append_cons_inj {α : Type} {sep : α} {x y v w : List α} (hx : sep ∉ x) (hy : sep ∉ y) :
    x ++ sep :: v = y ++ sep :: w ↔ x = y ∧ v = w := by
  induction x generalizing y with
  | nil =>
    cases y with
    | nil => simp
    | cons b y =>
      have hne : sep ≠ b := fun heq => hy (heq ▸ List.mem_cons_self ..)
      simp [hne]
  | cons a x ih =>
    have hne : a ≠ sep := fun heq => hx (heq ▸ List.mem_cons_self ..)
    cases y with
    | nil => simp [hne]
    | cons b y =>
      have hrest := ih (fun h => hx (List.mem_cons_of_mem _ h))
        (fun h => hy (List.mem_cons_of_mem _ h))
      rw [List.cons_append, List.cons_append, List.cons.injEq, List.cons.injEq, hrest, and_assoc]

/-- A key can be read back if there is no colon in the device. -/
theorem Lock.key_inj {device device' reference reference' : String}
    (hdevice : ':' ∉ device.toList) (hdevice' : ':' ∉ device'.toList) :
    Lock.key device reference = Lock.key device' reference' ↔
      device = device' ∧ reference = reference' := by
  have hparts : ∀ device reference : String, (Lock.key device reference).toList =
      (Lock.keyRoot ++ ":").toList ++ (device.toList ++ ':' :: reference.toList) := by
    intro device reference
    simp [Lock.key]
  -- the first colon behind what all keys begin with is the one behind the device
  rw [← String.toList_inj, hparts, hparts, List.append_cancel_left_eq,
    append_cons_inj hdevice hdevice', String.toList_inj, String.toList_inj]

namespace Handler

/-- The device of a command has no colon, whoever has written its payload. -/
theorem colon_not_mem_device {topic : String} {payload : Bytes} {command : Command}
    (h : judge topic payload = .command command) : ':' ∉ command.device.toList := by
  obtain ⟨address, htopic, -, hdevice⟩ := judge_eq_command.mp h
  rw [hdevice]
  exact TopicAddress.not_mem_of_isWord rfl (TopicAddress.isWord_of_ofCommandTopic? htopic).2

theorem lockKey_inj {topic topic' : String} {payload payload' : Bytes} {c d : Command}
    (hc : judge topic payload = .command c) (hd : judge topic' payload' = .command d) :
    lockKey c = lockKey d ↔ c.device = d.device ∧ c.reference = d.reference :=
  Lock.key_inj (colon_not_mem_device hc) (colon_not_mem_device hd)

namespace Peers

open Lock (commandTtl)

variable {p p' : Peers} {a : Action} {steps : List (Peers × Action)} {i j t u n : Nat}
  {store : Lock.Register} {now : Int} {command c d : Command}

/-! ### Messages and their commands -/

/-- Whether a message that a handler has accepted is this command. -/
def Delivered (steps : List (Peers × Action)) (i t : Nat) (command : Command) : Prop :=
  ∃ topic payload, (i, .accepted t topic payload) ∈ record steps ∧
    judge topic payload = .command command

/-- The message and the command that an entry says were accepted. -/
def delivery? : Nat × Entry → Option (Nat × Nat × Command)
  | (i, .accepted ticket topic payload) =>
    match judge topic payload with
    | .command command => some (i, ticket, command)
    | _ => none
  | _ => none

/-- All commands that have been delivered, each with its message. -/
def deliveries (steps : List (Peers × Action)) : List (Nat × Nat × Command) :=
  (record steps).filterMap delivery?

theorem mem_deliveries : (i, t, command) ∈ deliveries steps ↔ Delivered steps i t command := by
  unfold deliveries Delivered
  rw [List.mem_filterMap]
  constructor
  · rintro ⟨⟨j, e⟩, hmem, hdelivery⟩
    cases e with
    | accepted ticket topic payload =>
      cases hjudge : judge topic payload with
      | command found =>
        simp only [delivery?, hjudge, Option.some.injEq, Prod.mk.injEq] at hdelivery
        obtain ⟨rfl, rfl, rfl⟩ := hdelivery
        exact ⟨topic, payload, hmem, hjudge⟩
      | _ => simp [delivery?, hjudge] at hdelivery
    | _ => simp [delivery?] at hdelivery
  · rintro ⟨topic, payload, hmem, hjudge⟩
    exact ⟨_, hmem, by simp [delivery?, hjudge]⟩

/-- What asks for a lock is a command, and asks for the lock of that command. -/
theorem delivered_of_asked (h : Run step? (start n store now) steps p) {key : String}
    (hasked : (i, .asked t key) ∈ record steps) :
    ∃ command, Delivered steps i t command ∧ key = lockKey command := by
  have hstory := story_of_run (run_part h i) t
  obtain ⟨topic, payload, command, haccepted, hjudge, hkey⟩ :=
    hstory.of_asked (mem_about_part hasked rfl)
  exact ⟨command, ⟨topic, payload, mem_record_of_about haccepted, hjudge⟩, hkey⟩

theorem Delivered.key_of_asked (hc : Delivered steps i t command)
    (h : Run step? (start n store now) steps p) {key : String}
    (hasked : (i, .asked t key) ∈ record steps) : key = lockKey command := by
  obtain ⟨topic, payload, haccepted, hjudge⟩ := hc
  have hstory := story_of_run (run_part h i) t
  obtain ⟨found, hfound, hkey⟩ :=
    (hstory.judged (mem_about_part haccepted rfl)).1 key (mem_about_part hasked rfl)
  rw [Verdict.command.inj (hjudge.symm.trans hfound)]
  exact hkey

theorem Delivered.lockKey_inj (hc : Delivered steps i t c) (hd : Delivered steps j u d) :
    lockKey c = lockKey d ↔ c.device = d.device ∧ c.reference = d.reference := by
  obtain ⟨_, _, -, hc⟩ := hc
  obtain ⟨_, _, -, hd⟩ := hd
  exact Handler.lockKey_inj hc hd

/-- A message that was accepted has a handler, and a story that begins with its acceptance. -/
theorem Delivered.exists_story (hc : Delivered steps i t command)
    (h : Run step? (start n store now) steps p) :
    ∃ s topic payload, p.handlers[i]? = some s ∧
      Story t (s.place t) (about t (Handler.record (part i steps))) ∧
      .accepted t topic payload ∈ about t (Handler.record (part i steps)) ∧
      judge topic payload = .command command := by
  obtain ⟨topic, payload, haccepted, hjudge⟩ := hc
  have hstory := story_of_run (run_part h i) t
  have haccepted := mem_about_part haccepted rfl
  cases hi : p.handlers[i]? with
  | some s =>
    rw [hi, Option.getD_some] at hstory
    exact ⟨s, topic, payload, rfl, hstory, haccepted, hjudge⟩
  | none =>
    -- there is no such handler that could have accepted anything
    rw [hi] at hstory
    generalize about t (Handler.record (part i steps)) = es at hstory haccepted
    cases hstory with
    | unborn => cases haccepted

/-! ### Locks that are held -/

/-- Whether everything that is locked was won by a call. -/
def Backed (p : Peers) : Prop :=
  ∀ key deadline, p.store.deadline? key = some deadline →
    ∃ y ∈ p.calls, y.answer = .ok true ∧ y.key = key ∧ deadline = y.time + commandTtl.millis

/-- The calls that were carried out stay as they are. -/
theorem Step.calls_prefix (h : p.Step a p') : p.calls <+: p'.calls := by
  cases h with
  | tick | handler => exact List.prefix_refl _
  | win | lose | fail | failTaken => exact List.prefix_append _ _

theorem Backed.step (hp : p.Backed) (h : p.Step a p')
    (hanswered : ∀ x ∈ p'.calls, ∃ won, x.answer = .ok won) : p'.Backed := by
  intro key deadline hlocked
  cases h with
  | tick | handler => exact hp key deadline hlocked
  | @win i t key' hasking hfree =>
    by_cases hkey : key = key'
    · -- the lock that was won just now
      subst hkey
      have hnew : p.now + commandTtl.millis = deadline := by simpa [carryOut] using hlocked
      exact ⟨_, List.mem_append_right _ (List.mem_singleton_self _), rfl, rfl, hnew.symm⟩
    · have hbefore : p.store.deadline? key = some deadline := by
        rw [← p.store.deadline?_lock_of_ne _ hkey]
        exact hlocked
      obtain ⟨y, hy, hwon⟩ := hp key deadline hbefore
      exact ⟨y, List.mem_append_left _ hy, hwon⟩
  | lose hasking hlive =>
    obtain ⟨y, hy, hwon⟩ := hp key deadline hlocked
    exact ⟨y, List.mem_append_left _ hy, hwon⟩
  | fail | failTaken =>
    -- such a call is an error, which the store has not given
    obtain ⟨won, hwon⟩ := hanswered _ (List.mem_append_right _ (List.mem_singleton_self _))
    cases hwon

/-- A store that was empty and has not failed has locked what it has granted, and no more. -/
theorem backed_of_run (h : Run step? (start n ⟨fun _ => none⟩ now) steps p)
    (hanswered : ∀ x ∈ p.calls, ∃ won, x.answer = .ok won) : p.Backed := by
  induction h with
  | refl =>
    intro key deadline hlocked
    cases hlocked
  | step _ hnow ih =>
    have hstep := step_cases hnow
    exact (ih fun x hx => hanswered x (hstep.calls_prefix.subset hx)).step hstep hanswered

/-- A message is refused only while the lock of its key is alive, which was granted to another
    call before. -/
theorem winner_of_refused (h : Run step? (start n ⟨fun _ => none⟩ now) steps p)
    (hanswered : ∀ x ∈ p.calls, ∃ won, x.answer = .ok won)
    (hrefused : (i, .answered t (.ok false)) ∈ record steps) :
    ∃ x y, [y, x].Sublist p.calls ∧ x.handler = i ∧ x.ticket = t ∧ y.answer = .ok true ∧
      y.key = x.key ∧ y.time ≤ x.time ∧ x.time < y.time + commandTtl.millis := by
  obtain ⟨x, hx, hhandler, hticket, hanswer⟩ := call_of_answered h hrefused
  obtain ⟨before, after, hcalls⟩ := List.append_of_mem hx
  -- at the time of its call the store says why it refuses the lock
  obtain ⟨q, b, q', hmem, hstep, hbefore, hafter⟩ := step_of_call h hcalls
  obtain ⟨pre, post, hsplit⟩ := List.append_of_mem hmem
  obtain ⟨hrun, -⟩ := (hsplit ▸ h).split_at
  have hlast : ∀ y, q.calls ++ [y] = before ++ [x] → y = x := fun y heq => by
    simpa using (List.append_inj' heq rfl).2
  cases hstep with
  | tick | handler => simp [hbefore] at hafter
  | win | fail | failTaken =>
    obtain rfl := hlast _ hafter
    cases hanswer
  | @lose i' t' key hasking hlive =>
    -- the key was locked, and whatever is locked goes back to a call that won
    obtain rfl := hlast _ hafter
    have hearlier : ∀ y ∈ q.calls, y ∈ p.calls := by
      intro y hy
      rw [hcalls, ← hbefore]
      exact List.mem_append_left _ hy
    obtain ⟨deadline, hdeadline, hlt⟩ := q.store.isLive_iff.mp hlive
    obtain ⟨y, hy, hwon, hkey, hdeadline⟩ :=
      backed_of_run hrun (fun y hy => hanswered y (hearlier y hy)) _ _ hdeadline
    refine ⟨_, y, ?_, hhandler, hticket, hwon, hkey, (held_of_run hrun).past y hy, ?_⟩
    · rw [hcalls, ← List.singleton_append]
      refine List.Sublist.append (List.singleton_sublist.mpr (hbefore ▸ hy)) ?_
      exact List.singleton_sublist.mpr (List.mem_cons_self ..)
    · rw [← hdeadline]
      exact hlt

/-! ### Carrying messages on -/

/-- Whether an action carries a message on. A store that fails does not. -/
def Action.carries : Action → Bool
  | .handler _ action => action.carries
  | .call _ _ => true
  | _ => false

/-- The steps that are left for all messages of some handlers. -/
def loadOf : List State → Nat
  | [] => 0
  | s :: rest => s.load + loadOf rest

/-- The steps that are left for all messages. -/
def load (p : Peers) : Nat := loadOf p.handlers

/-- The messages that have been accepted, each by its handler and its ticket. -/
def accepted (steps : List (Peers × Action)) : List (Nat × Nat) :=
  (record steps).filterMap fun e => e.2.accepted?.map (e.1, ·)

theorem accepted_append (more : List (Peers × Action)) :
    accepted (steps ++ more) = accepted steps ++ accepted more := by
  simp [accepted]

theorem mem_accepted_of_asked (h : Run step? (start n store now) steps p) {key : String}
    (hasked : (i, .asked t key) ∈ record steps) : (i, t) ∈ accepted steps := by
  obtain ⟨_, ⟨topic, payload, haccepted, -⟩, -⟩ := delivered_of_asked h hasked
  exact List.mem_filterMap.mpr ⟨_, haccepted, rfl⟩

theorem load_start (n : Nat) (store : Lock.Register) (now : Int) :
    (start n store now).load = 0 := by
  have hnone : ∀ n, loadOf (List.replicate n {}) = 0 := by
    intro n
    induction n with
    | zero => rfl
    | succ n ih =>
      rw [List.replicate_succ, loadOf, ih]
      rfl
  exact hnone n

theorem loadOf_set {handlers : List State} {s : State} (hi : handlers[i]? = some s)
    (s' : State) : loadOf (handlers.set i s') + s.load = loadOf handlers + s'.load := by
  induction handlers generalizing i with
  | nil => simp at hi
  | cons first rest ih =>
    cases i with
    | zero =>
      obtain rfl : first = s := by simpa using hi
      simp only [List.set_cons_zero, loadOf]
      omega
    | succ i =>
      have hrest := ih (i := i) (by simpa using hi)
      simp only [List.set_cons_succ, loadOf]
      omega

/-- A step that carries a message on leaves less to do, or is a call of the store; and only
    messages that are accepted bring more. -/
theorem load_step (h : Run step? (start n store now) steps p) (hnow : step? p a = some p') :
    a.carries.toNat + p'.load + p.calls.length ≤
      p.load + 5 * (accepted [(p, a)]).length + p'.calls.length := by
  cases step_cases hnow with
  | tick ms =>
    simp only [load, Action.carries, Bool.toNat_false]
    omega
  | win | lose | fail | failTaken =>
    -- a call of the store is no step of a handler, and there is one call more
    simp only [load, carryOut, Action.carries, Bool.toNat_true, Bool.toNat_false,
      List.length_append, List.length_singleton]
    omega
  | @handler i action s s' hi hallows hstep =>
    have hrun : Run State.step? {} (part i steps) s := by simpa [hi] using run_part h i
    have hn := numbered_of_run hrun
    have hcase := State.step_cases hstep
    have hsum := loadOf_set hi s'
    simp only [load, Action.carries]
    cases hcarries : action.carries with
    | true =>
      have hlt := hcase.load_lt hn hcarries
      rw [Bool.toNat_true]
      omega
    | false =>
      rw [Bool.toNat_false]
      rcases hcase.load_le hn with hle | ⟨topic, payload, -, hentries, hle⟩
      · omega
      · -- what the load has grown by is accounted for by the message
        have hone : (accepted [(p, .handler i action)]).length = 1 := by
          simp [accepted, entries, hi, hentries, Entry.accepted?]
        omega

/-- No message calls the store twice. -/
theorem calls_le_accepted (h : Run step? (start n store now) steps p) :
    p.calls.length ≤ (accepted steps).length := by
  have hnodup : (p.calls.map fun x => (x.handler, x.ticket)).Nodup := by
    refine List.pairwise_map.mpr ((held_of_run h).once.imp ?_)
    intro x y hne heq
    obtain ⟨hhandler, hticket⟩ := Prod.mk.inj heq
    exact hne hhandler hticket
  have hsub : (p.calls.map fun x => (x.handler, x.ticket)) ⊆ accepted steps := by
    intro m hm
    obtain ⟨x, hx, rfl⟩ := List.mem_map.mp hm
    exact mem_accepted_of_asked h (asked_of_call h hx)
  simpa using (hnodup.subperm hsub).length_le

/-- No more than six steps carry a message on. -/
theorem carries_le (h : Run step? (start n store now) steps p) :
    steps.countP (·.2.carries) + p.load ≤ 6 * (accepted steps).length := by
  -- by induction on the run, where each call is counted as a step of its own
  have hload : steps.countP (·.2.carries) + p.load ≤
      5 * (accepted steps).length + p.calls.length := by
    induction h with
    | refl => simp [load_start]
    | @step steps p a p' hbefore hnow ih =>
      have hstep := load_step hbefore hnow
      rw [List.countP_append, List.countP_singleton, accepted_append, List.length_append]
      cases hcarries : a.carries <;> simp only [hcarries, if_true, if_false,
        Bool.toNat_true, Bool.toNat_false, Bool.false_eq_true] at hstep ⊢ <;> omega
  have hcalls := calls_le_accepted h
  omega

/-- A message that waits for its lock can ask for it, or get the answer. -/
theorem exists_answer {s : State} (hi : p.handlers[i]? = some s)
    (hlocking : s.locking? t = some command) :
    ∃ a p', a.carries = true ∧ step? p a = some p' := by
  obtain ⟨task, htask, hphase⟩ := State.locking?_eq_some.mp hlocking
  cases hcalled : p.hasCalled i t with
  | false =>
    -- the store can carry out the call
    have hasking : p.asking? i t = some (lockKey command) :=
      asking?_eq_some.mpr ⟨s, task, command, hi, htask, hphase, hcalled, rfl⟩
    exact ⟨.call i t, _, rfl, by simp only [step?, hasking]; rfl⟩
  | true =>
    -- the call has been answered, and the handler can get the answer whatever it is
    obtain ⟨x, hx, hcall⟩ := List.any_eq_true.mp hcalled
    obtain ⟨hhandler, hticket⟩ : x.handler = i ∧ x.ticket = t := by simpa using hcall
    have hallows : p.allows i (.lockReply t x.answer) = true :=
      List.any_eq_true.mpr ⟨x, hx, by simp [hhandler, hticket]⟩
    by_cases hwon : x.answer = .ok true
    · rw [hwon] at hallows
      exact ⟨_, _, rfl, step?_handler hi hallows (State.Step.acquire htask hphase).possible⟩
    · exact ⟨_, _, rfl, step?_handler hi hallows (State.Step.refuse htask hphase hwon).possible⟩

/-- While the network server receives, a message that is not done is a reason to go on, which
    takes no failure of the store. -/
theorem exists_carrying {s : State} (hi : p.handlers[i]? = some s)
    (hheld : (s.place t).isHeld = true) (hreceiver : s.receiver = true) :
    ∃ a p', a.carries = true ∧ step? p a = some p' := by
  rcases State.exists_carrying hheld hreceiver with ⟨command, hlocking⟩ | hown
  · exact exists_answer hi hlocking
  · obtain ⟨b, s', hcarries, hown, hstep⟩ := hown
    exact ⟨.handler i b, _, hcarries, step?_handler hi (allows_of_isOwn hown) hstep⟩

/-! ### Distinct commands -/

/-- Whether no two messages are commands of one device with one reference. -/
def Distinct (steps : List (Peers × Action)) : Prop :=
  ∀ i t c j u d, Delivered steps i t c → Delivered steps j u d →
    c.device = d.device → c.reference = d.reference → i = j ∧ t = u

theorem distinct_of_pairwise (h : (deliveries steps).Pairwise fun x y =>
    x.2.2.device = y.2.2.device → x.2.2.reference ≠ y.2.2.reference) : Distinct steps := by
  intro i t c j u d hc hd hdevice hreference
  rcases rel_of_pairwise h (mem_deliveries.mpr hc) (mem_deliveries.mpr hd) with heq | hne | hne
  · obtain ⟨hi, ht, -⟩ : i = j ∧ t = u ∧ c = d := by simpa using heq
    exact ⟨hi, ht⟩
  · exact absurd hreference (hne hdevice)
  · exact absurd hreference.symm (hne hdevice.symm)

/-- Whoever is refused has been anticipated by the same command. -/
theorem Delivered.anticipated (hc : Delivered steps i t c)
    (h : Run step? (start n ⟨fun _ => none⟩ now) steps p)
    (hanswered : ∀ x ∈ p.calls, ∃ won, x.answer = .ok won)
    (hrefused : (i, .answered t (.ok false)) ∈ record steps) :
    ∃ x y d, [y, x].Sublist p.calls ∧ x.handler = i ∧ x.ticket = t ∧ y.answer = .ok true ∧
      Delivered steps y.handler y.ticket d ∧ d.device = c.device ∧ d.reference = c.reference ∧
      y.time ≤ x.time ∧ x.time < y.time + commandTtl.millis := by
  obtain ⟨x, y, hsub, rfl, rfl, hwon, hkey, hpast, hlt⟩ := winner_of_refused h hanswered hrefused
  have hx : x ∈ p.calls := hsub.subset (by simp)
  have hy : y ∈ p.calls := hsub.subset (by simp)
  obtain ⟨d, hd, hdkey⟩ := delivered_of_asked h (asked_of_call h hy)
  have hckey := hc.key_of_asked h (asked_of_call h hx)
  -- the two calls are for one key, and a key belongs to one device and one reference
  obtain ⟨hdevice, hreference⟩ := (hd.lockKey_inj hc).mp (by rw [← hdkey, ← hckey, hkey])
  exact ⟨x, y, d, hsub, rfl, rfl, hwon, hd, hdevice, hreference, hpast, hlt⟩

/-- Where commands are distinct, none is refused. -/
theorem Distinct.not_refused (hdistinct : Distinct steps) (hc : Delivered steps i t c)
    (h : Run step? (start n ⟨fun _ => none⟩ now) steps p)
    (hanswered : ∀ x ∈ p.calls, ∃ won, x.answer = .ok won) :
    (i, .answered t (.ok false)) ∉ record steps := by
  intro hrefused
  obtain ⟨x, y, d, hsub, hhandler, hticket, -, hd, hdevice, hreference, -⟩ :=
    hc.anticipated h hanswered hrefused
  -- the command that came first is the refused one itself, which calls only once
  obtain ⟨hhandler', hticket'⟩ := hdistinct _ _ _ _ _ _ hd hc hdevice hreference
  have honce := (held_of_run h).once.sublist hsub
  have hne := (List.pairwise_cons.mp honce).1 x (List.mem_singleton_self _)
  exact hne (hhandler'.trans hhandler.symm) (hticket'.trans hticket.symm)

/-- A command that is not refused is forwarded when its message has come to its end, unless nobody
    receives. -/
theorem Delivered.forwarded_of_done (hc : Delivered steps i t c)
    (h : Run step? (start n store now) steps p)
    (hanswered : ∀ x ∈ p.calls, ∃ won, x.answer = .ok won)
    (hnot : (i, .answered t (.ok false)) ∉ record steps) {s : State}
    (hi : p.handlers[i]? = some s)
    (hplace : s.place t = .unborn ∨ s.place t = .gone ∨ ∃ command, s.place t = .queue command) :
    (i, .forwarded t c) ∈ record steps ∨
      s.receiver = false ∧ (i, .discarded t c) ∈ record steps := by
  obtain ⟨s', topic, payload, hi', hstory, haccepted, hjudge⟩ := hc.exists_story h
  obtain rfl := Option.some.inj (hi.symm.trans hi')
  obtain ⟨-, ⟨answer, hanswer, hrefused⟩ | ⟨-, hforwarded | hdiscarded⟩⟩ :=
    hstory.of_done hplace haccepted hjudge
  · -- the store has not failed, so it must have refused the lock
    have hrefused := mem_record_of_about hrefused
    obtain ⟨x, hx, -, -, rfl⟩ := call_of_answered h hrefused
    obtain ⟨won, hwon⟩ := hanswered x hx
    rw [hwon] at hanswer hrefused
    cases won with
    | false => exact absurd hrefused hnot
    | true => exact absurd rfl hanswer
  · exact .inl (mem_record_of_about hforwarded)
  · right
    have hdiscarded := mem_record_of_about hdiscarded
    refine ⟨?_, hdiscarded⟩
    have hrun : Run State.step? {} (part i steps) s := by simpa [hi] using run_part h i
    cases hreceiver : s.receiver with
    | false => rfl
    | true => exact absurd (mem_record_part.mpr hdiscarded) (not_discarded hrun hreceiver t c).1

/-- The locks of two messages, in whichever handlers, have one key exactly if their commands have
    one device and one reference. So with a store that starts empty and does not fail, a command is
    dropped as a repetition only if the lock was granted less than its lifetime before to another
    message with this very device and reference. Distinct commands are never dropped as
    repetitions: as long as one of them is not forwarded and the network server receives, messages
    can be carried on, which comes to an end after six steps for each message that was accepted;
    and when nothing is in flight, each of them has been forwarded, unless nobody receives. What is
    forwarded has been put on a queue. -/
theorem no_false_duplicates (h : Run step? (start n store now) steps p) :
    (∀ i t key j u key', (i, .asked t key) ∈ record steps → (j, .asked u key') ∈ record steps →
      ∃ c d, Delivered steps i t c ∧ Delivered steps j u d ∧
        (key = key' ↔ c.device = d.device ∧ c.reference = d.reference)) ∧
      steps.countP (·.2.carries) ≤ 6 * (accepted steps).length ∧
      QueuesKept steps p ∧
      (store = ⟨fun _ => none⟩ → (∀ x ∈ p.calls, ∃ won, x.answer = .ok won) →
        (∀ i t c, Delivered steps i t c → (i, .answered t (.ok false)) ∈ record steps →
          ∃ x y d, [y, x].Sublist p.calls ∧ x.handler = i ∧ x.ticket = t ∧
            y.answer = .ok true ∧ Delivered steps y.handler y.ticket d ∧
            d.device = c.device ∧ d.reference = c.reference ∧
            y.time ≤ x.time ∧ x.time < y.time + commandTtl.millis) ∧
        (Distinct steps → ∀ i t c, Delivered steps i t c →
          (i, .answered t (.ok false)) ∉ record steps ∧
          ∃ s, p.handlers[i]? = some s ∧
            (s.receiver = true → (i, .forwarded t c) ∈ record steps ∨
              ∃ a p', a.carries = true ∧ step? p a = some p') ∧
            (s.inFlight = 0 → (i, .forwarded t c) ∈ record steps ∨
              s.receiver = false ∧ (i, .discarded t c) ∈ record steps))) := by
  refine ⟨?_, Nat.le_trans (Nat.le_add_right ..) (carries_le h), queuesKept_of_run h, ?_⟩
  · intro i t key j u key' hasked hasked'
    obtain ⟨c, hc, rfl⟩ := delivered_of_asked h hasked
    obtain ⟨d, hd, rfl⟩ := delivered_of_asked h hasked'
    exact ⟨c, d, hc, hd, hc.lockKey_inj hd⟩
  · rintro rfl hanswered
    refine ⟨fun i t c hc hrefused => hc.anticipated h hanswered hrefused, ?_⟩
    intro hdistinct i t c hc
    have hnot := hdistinct.not_refused hc h hanswered
    obtain ⟨s, topic, payload, hi, hstory, haccepted, -⟩ := hc.exists_story h
    refine ⟨hnot, s, hi, ?_, ?_⟩
    · intro hreceiver
      cases hheld : (s.place t).isHeld with
      | true => exact .inr (exists_carrying hi hheld hreceiver)
      | false =>
        -- what is not held any more has come to its end
        have hplace : s.place t = .unborn ∨ s.place t = .gone := by
          cases hplace : s.place t <;> simp_all [Place.isHeld]
        left
        rcases hc.forwarded_of_done h hanswered hnot hi (hplace.imp_right .inl) with
          hforwarded | ⟨hshut, -⟩
        · exact hforwarded
        · simp [hreceiver] at hshut
    · intro hidle
      exact hc.forwarded_of_done h hanswered hnot hi (State.place_of_idle hidle t)

/-! ### An example -/

/-- A command whose reference begins like that of the sample, and goes on with a colon. -/
def colonPayload : Bytes := Text.bytes "\x7b\"devEUI\":\"d1\",\"reference\":\"r1:\"\x7d"

/-- The same command as a record. -/
def colonCommand : Command := { reference := "r1:", device := "d1" }

/-- Two handlers get a command each, whose references differ by a colon. -/
def twoReferences : List Action :=
  [.handler 0 (.dispatch (.message sampleTopic samplePayload)),
    .handler 1 (.dispatch (.message sampleTopic colonPayload)),
    .handler 0 (.judge 0), .handler 1 (.judge 0), .call 0 0, .call 1 0,
    .handler 0 (.lockReply 0 (.ok true)), .handler 1 (.lockReply 0 (.ok true)),
    .handler 0 (.queueUp 0), .handler 1 (.queueUp 0), .handler 0 .send, .handler 1 .send]

theorem exists_won_of_answers {wins : List Bool} (h : p.calls.map (·.answer) = wins.map .ok) :
    ∀ x ∈ p.calls, ∃ won, x.answer = .ok won := by
  intro x hx
  have hanswer := List.mem_map_of_mem (f := StoreCall.answer) hx
  rw [h] at hanswer
  obtain ⟨won, -, hwon⟩ := List.mem_map.mp hanswer
  exact ⟨won, hwon.symm⟩

/-- With two references both commands are forwarded. With two copies, the one that is dropped has
    been anticipated by the same command. -/
theorem no_false_duplicates_twoReferences :
    (∃ steps p, Run step? (start 2 ⟨fun _ => none⟩ 0) steps p ∧ Distinct steps ∧
      (0, .forwarded 0 sampleCommand) ∈ record steps ∧
      (1, .forwarded 0 colonCommand) ∈ record steps) ∧
    ∃ steps p, Run step? (start 2 ⟨fun _ => none⟩ 0) steps p ∧
      (0, .answered 0 (.ok false)) ∈ record steps ∧
      ∃ y ∈ p.calls, ∃ d, y.answer = .ok true ∧ Delivered steps y.handler y.ticket d ∧
        d.device = "d1" ∧ d.reference = "r1" := by
  constructor
  · have hcomputed : (Run.steps? step? (start 2 ⟨fun _ => none⟩ 0) twoReferences).map (fun run =>
        (deliveries run.1, run.2.calls.map (·.answer),
          run.2.handlers.map fun s => (s.inFlight, s.receiver))) =
        some ([(0, 0, sampleCommand), (1, 0, colonCommand)], [true, true].map .ok,
          [(0, true), (0, true)]) := rfl
    obtain ⟨⟨steps, p⟩, hrun, hfacts⟩ := Option.map_eq_some_iff.mp hcomputed
    simp only [Prod.mk.injEq] at hfacts
    obtain ⟨hdeliveries, hanswers, hhandlers⟩ := hfacts
    have hdistinct : Distinct steps := by
      apply distinct_of_pairwise
      rw [hdeliveries]
      decide
    obtain ⟨-, -, -, hstore⟩ := no_false_duplicates (Run.of_steps? hrun)
    obtain ⟨-, hall⟩ := hstore rfl (exists_won_of_answers hanswers)
    have hforwarded : ∀ i t c, Delivered steps i t c → (i, .forwarded t c) ∈ record steps := by
      intro i t c hc
      obtain ⟨-, s, hi, -, hend⟩ := hall hdistinct i t c hc
      have hidle : (s.inFlight, s.receiver) = (0, true) := by
        have hmem := List.mem_map_of_mem (f := fun s : State => (s.inFlight, s.receiver))
          (List.mem_of_getElem? hi)
        rw [hhandlers] at hmem
        simpa using hmem
      obtain ⟨hflight, hreceiver⟩ := Prod.mk.inj hidle
      rcases hend hflight with hforwarded | ⟨hshut, -⟩
      · exact hforwarded
      · simp [hreceiver] at hshut
    refine ⟨steps, p, Run.of_steps? hrun, hdistinct, ?_, ?_⟩
    · exact hforwarded 0 0 _ (mem_deliveries.mp (by simp [hdeliveries]))
    · exact hforwarded 1 0 _ (mem_deliveries.mp (by simp [hdeliveries]))
  · have hcomputed : (Run.steps? step? (start 2 ⟨fun _ => none⟩ 0) twoHandlers).map (fun run =>
        (deliveries run.1, ((record run.1).drop 4).take 1, run.2.calls.map (·.answer))) =
        some ([(0, 0, sampleCommand), (1, 0, sampleCommand)], [(0, .answered 0 (.ok false))],
          [true, false].map .ok) := rfl
    obtain ⟨⟨steps, p⟩, hrun, hfacts⟩ := Option.map_eq_some_iff.mp hcomputed
    simp only [Prod.mk.injEq] at hfacts
    obtain ⟨hdeliveries, hrefused, hanswers⟩ := hfacts
    have hdelivered : Delivered steps 0 0 sampleCommand := by
      rw [← mem_deliveries, hdeliveries]
      exact List.mem_cons_self ..
    have hrefused : (0, .answered 0 (.ok false)) ∈ record steps := by
      refine List.mem_of_mem_drop (i := 4) (List.mem_of_mem_take (i := 1) ?_)
      rw [hrefused]
      exact List.mem_singleton_self _
    obtain ⟨-, -, -, hstore⟩ := no_false_duplicates (Run.of_steps? hrun)
    obtain ⟨hanticipated, -⟩ := hstore rfl (exists_won_of_answers hanswers)
    obtain ⟨x, y, d, hsub, -, -, hwon, hd, hdevice, hreference, -⟩ :=
      hanticipated 0 0 _ hdelivered hrefused
    exact ⟨steps, p, Run.of_steps? hrun, hrefused, y, hsub.subset (List.mem_cons_self ..), d, hwon,
      hd, hdevice, hreference⟩

end Peers

end Handler

end LoraBridge
