import LoraBridge.Broker.Address
import LoraBridge.Proofs.Decimal
import Mathlib.Data.List.DropRight

/-! # The grammar of broker addresses

  Reading an address cuts one text three times: the scheme off at the first `://`, the slashes off at
  the end, and the port off at the last colon. Where a cut finds what another one has left, as in
  `tcp://`, `a:/` or `tcp://tcp://x`, it is their order that counts. Here it is said which texts are
  addresses, and of which host and port, without the cuts.

  - `splitScheme?_eq_none_iff`, `trimSlashes_eq_iff`, `splitPort?_eq_some_iff`: one lemma for each cut.
  - `parse?_eq_some_iff`: an address is read from the texts that `IsWritten` names.
  - `parse?_written`: with a scheme or without, and with any number of slashes, an address is read back.
  - `addresses_grammar`: both, and what was read may be written anew.
-/

namespace LoraBridge.Broker.Address

variable {s rest scheme host port d : List Char} {a : Address} {p : UInt16} {server : String}

/-! ### The scheme -/

/-- What follows the scheme of a server. Any text before the first `://` is a scheme, and two of them
    are known. -/
def FollowsScheme (server rest : List Char) : Prop :=
  server = "tcp://".toList ++ rest ∨ server = "mqtt://".toList ++ rest ∨
    (server = rest ∧ ¬ "://".toList <:+: server)

theorem eq_of_splitScheme? (h : splitScheme? s = some (scheme, rest)) :
    s = scheme ++ "://".toList ++ rest := by
  fun_induction splitScheme? s generalizing scheme with
  | case1 => cases h
  | case2 =>
    obtain ⟨rfl, rfl⟩ := Prod.mk.inj (Option.some.inj h)
    rfl
  | case3 c s _ ih =>
    obtain ⟨⟨scheme', rest'⟩, hsplit, hcons⟩ := Option.map_eq_some_iff.mp h
    obtain ⟨rfl, rfl⟩ := Prod.mk.inj hcons
    rw [ih hsplit]
    rfl

theorem splitScheme?_eq_none_iff : splitScheme? s = none ↔ ¬ "://".toList <:+: s := by
  fun_induction splitScheme? s with
  | case1 => simp
  | case2 => exact iff_of_false nofun fun h => h (List.prefix_append _ _).isInfix
  | case3 c s hfirst ih =>
    have hprefix : ¬ "://".toList <+: c :: s := by
      rintro ⟨more, heq⟩
      obtain ⟨rfl, rfl⟩ := List.cons.inj heq
      exact hfirst more rfl rfl
    rw [Option.map_eq_none_iff, ih, List.infix_cons_iff, not_or, and_iff_right hprefix]

theorem afterScheme?_eq_some_iff : afterScheme? s = some rest ↔ FollowsScheme s rest := by
  unfold afterScheme? FollowsScheme
  split
  · next hnone =>
    have hno := splitScheme?_eq_none_iff.mp hnone
    have hscheme (scheme : List Char) : s ≠ scheme ++ "://".toList ++ rest := by
      rintro rfl
      exact hno ⟨scheme, rest, rfl⟩
    have htcp : s ≠ "tcp://".toList ++ rest := hscheme "tcp".toList
    have hmqtt : s ≠ "mqtt://".toList ++ rest := hscheme "mqtt".toList
    simp only [Option.some.injEq, htcp, hmqtt, hno, not_false_eq_true, and_true, false_or]
  · next scheme found hsome =>
    have hsplit := eq_of_splitScheme? hsome
    have hwithin : "://".toList <:+: s := ⟨scheme, found, hsplit.symm⟩
    simp only [hwithin, not_true, and_false, or_false]
    constructor
    · intro h
      split at h
      · next hknown =>
        obtain rfl := Option.some.inj h
        rw [hsplit]
        rcases hknown with rfl | rfl
        · exact .inl rfl
        · exact .inr rfl
      · cases h
    · -- a text that begins with a scheme is split right after it
      rintro (rfl | rfl)
      · obtain ⟨rfl, rfl⟩ := Prod.mk.inj (Option.some.inj hsome)
        exact if_pos (.inl rfl)
      · obtain ⟨rfl, rfl⟩ := Prod.mk.inj (Option.some.inj hsome)
        exact if_pos (.inr rfl)

/-! ### The slashes at the end -/

theorem trimSlashes_eq_rdropWhile (s : List Char) : trimSlashes s = s.rdropWhile (· = '/') := rfl

/-- Trimming takes away the slashes at the end, all of them and nothing else. -/
theorem trimSlashes_eq_iff : trimSlashes s = rest ↔
    (∃ k, s = rest ++ List.replicate k '/') ∧ rest.getLast? ≠ some '/' := by
  rw [trimSlashes_eq_rdropWhile]
  constructor
  · rintro rfl
    constructor
    · refine ⟨(s.rtakeWhile (· = '/')).length, ?_⟩
      have hslashes : s.rtakeWhile (· = '/') =
          List.replicate (s.rtakeWhile (· = '/')).length '/' :=
        List.eq_replicate_of_mem fun c hc => by simpa using List.mem_rtakeWhile_imp hc
      rw [← hslashes, List.rdropWhile_append_rtakeWhile]
    · intro hlast
      refine List.rdropWhile_last_not (· = '/') s (fun hnil => ?_) ?_
      · simp [hnil] at hlast
      · simp [List.getLast_of_getLast?_eq_some hlast]
  · rintro ⟨⟨k, rfl⟩, hlast⟩
    -- by induction on the slashes, the last of which goes first
    induction k with
    | zero =>
      rw [List.replicate_zero, List.append_nil, List.rdropWhile_eq_self_iff]
      intro hne hslash
      rw [List.getLast?_eq_some_getLast hne] at hlast
      exact hlast (congrArg some (by simpa using hslash))
    | succ k ih =>
      rw [List.replicate_succ', ← List.append_assoc, List.rdropWhile_concat_pos _ _ _ (by simp)]
      exact ih

/-! ### The port -/

theorem splitPort?_eq_none_iff : splitPort? s = none ↔ ':' ∉ s := by
  fun_induction splitPort? s with
  | case1 => simp
  | case2 c s host port hrest ih =>
    have hmem : ':' ∈ s := by simpa [hrest] using ih
    simp [hmem]
  | case3 s _ _ => simp
  | case4 c s hrest hc ih =>
    have hno := ih.mp hrest
    simp [hno, Ne.symm hc]

theorem splitPort?_append (hport : ':' ∉ port) :
    splitPort? (host ++ ':' :: port) = some (host, port) := by
  induction host with
  | nil => simp [splitPort?, splitPort?_eq_none_iff.mpr hport]
  | cons c host ih => simp [splitPort?, ih]

/-- A text is split at its last colon. -/
theorem splitPort?_eq_some_iff :
    splitPort? s = some (host, port) ↔ s = host ++ ':' :: port ∧ ':' ∉ port := by
  constructor
  · intro h
    fun_induction splitPort? s generalizing host with
    | case1 => cases h
    | case2 c s host' port' hrest ih =>
      obtain ⟨rfl, rfl⟩ := Prod.mk.inj (Option.some.inj h)
      obtain ⟨rfl, hport⟩ := ih hrest
      exact ⟨rfl, hport⟩
    | case3 s hrest _ =>
      obtain ⟨rfl, rfl⟩ := Prod.mk.inj (Option.some.inj h)
      exact ⟨rfl, splitPort?_eq_none_iff.mp hrest⟩
    | case4 => cases h
  · rintro ⟨rfl, hport⟩
    exact splitPort?_append hport

theorem readPort?_eq_some_iff : readPort? d = some p ↔ Decimal.Writes d p.toNat := by
  rw [readPort?, Option.map_eq_some_iff]
  simp only [Decimal.readUnsigned?_eq_some_iff]
  constructor
  · rintro ⟨n, ⟨hwrites, hle⟩, rfl⟩
    rwa [UInt16.toNat_ofNat', Nat.mod_eq_of_lt (by omega)]
  · intro hwrites
    exact ⟨p.toNat, ⟨hwrites, Nat.le_of_lt_succ p.toNat_lt⟩, UInt16.ofNat_toNat⟩

/-! ### Addresses -/

/-- A host: any text that is not empty and has no slash in it. -/
structure IsHost (host : String) : Prop where
  ne_empty : host ≠ ""
  no_slash : '/' ∉ host.toList

/-- Whether a text names the host and port of an address: both of them with a colon between, or the
    host alone for the port 1883. -/
def Names (body : List Char) (a : Address) : Prop :=
  (∃ d, body = a.host.toList ++ ':' :: d ∧ ':' ∉ d ∧ Decimal.Writes d a.port.toNat) ∨
    (body = a.host.toList ∧ ':' ∉ body ∧ a.port = 1883)

/-- Whether a text is one of this address: without its scheme and then without the slashes at its end
    it names the host and port. -/
structure IsWritten (server : String) (a : Address) : Prop where
  host : IsHost a.host
  named : ∃ rest body k, FollowsScheme server.toList rest ∧
    rest = body ++ List.replicate k '/' ∧ body.getLast? ≠ some '/' ∧ Names body a

theorem splitHost?_eq_some_iff : splitHost? s = some (a.host.toList, a.port) ↔ Names s a := by
  unfold splitHost? Names
  split
  · next host port hsome =>
    obtain ⟨hs, hport⟩ := splitPort?_eq_some_iff.mp hsome
    have hcolon : ':' ∈ s := by simp [hs]
    simp only [hcolon, not_true, false_and, and_false, or_false, Option.map_eq_some_iff,
      Prod.mk.injEq, readPort?_eq_some_iff]
    constructor
    · rintro ⟨p, hwrites, rfl, rfl⟩
      exact ⟨port, hs, hport, hwrites⟩
    · rintro ⟨d, hs', hd, hwrites⟩
      have hsplit := splitPort?_eq_some_iff.mpr ⟨hs', hd⟩
      rw [hsome] at hsplit
      obtain ⟨rfl, rfl⟩ := Prod.mk.inj (Option.some.inj hsplit)
      exact ⟨a.port, hwrites, rfl, rfl⟩
  · next hnone =>
    have hcolon := splitPort?_eq_none_iff.mp hnone
    have hnot (d : List Char) : s ≠ a.host.toList ++ ':' :: d := by
      rintro rfl
      exact hcolon (by simp)
    simp only [hnot, false_and, exists_false, false_or, hcolon, not_false_eq_true, true_and,
      Option.some.injEq, Prod.mk.injEq, defaultPort, eq_comm]

theorem isHost_iff {host : String} : IsHost host ↔ ¬ (host.toList = [] ∨ '/' ∈ host.toList) := by
  rw [not_or, String.toList_eq_nil_iff]
  exact ⟨fun h => ⟨h.ne_empty, h.no_slash⟩, fun h => ⟨h.1, h.2⟩⟩

/-- An address is read in three cuts, and its host has to be one. -/
theorem parse?_eq_some_iff_cuts : parse? server = some a ↔ IsHost a.host ∧
    ∃ rest, afterScheme? server.toList = some rest ∧
      splitHost? (trimSlashes rest) = some (a.host.toList, a.port) := by
  simp only [parse?, Option.bind_eq_bind, Option.bind_eq_some_iff, Option.ite_none_left_eq_some,
    isHost_iff, Prod.exists]
  constructor
  · rintro ⟨rest, hrest, host, port, hsplit, hhost, ha⟩
    obtain rfl := Option.some.inj ha
    exact ⟨by simpa using hhost, rest, hrest, by simpa using hsplit⟩
  · rintro ⟨hhost, rest, hrest, hsplit⟩
    exact ⟨rest, hrest, _, _, hsplit, hhost, by simp⟩

/-- The texts from which an address is read. -/
theorem parse?_eq_some_iff : parse? server = some a ↔ IsWritten server a := by
  simp only [parse?_eq_some_iff_cuts, afterScheme?_eq_some_iff, splitHost?_eq_some_iff]
  constructor
  · rintro ⟨hhost, rest, hrest, hnames⟩
    obtain ⟨⟨k, hbody⟩, hlast⟩ := trimSlashes_eq_iff.mp (rfl : trimSlashes rest = _)
    exact ⟨hhost, rest, _, k, hrest, hbody, hlast, hnames⟩
  · rintro ⟨hhost, rest, body, k, hrest, hbody, hlast, hnames⟩
    refine ⟨hhost, rest, hrest, ?_⟩
    rwa [trimSlashes_eq_iff.mpr ⟨⟨k, hbody⟩, hlast⟩]

/-! ### Addresses that are written -/

section Written

variable {ds : List Char} (hds : ∀ c ∈ ds, c.isDigit = true)
include hds

theorem slash_not_mem_body (hhost : '/' ∉ host) : '/' ∉ host ++ ':' :: ds := by
  intro hmem
  rcases List.mem_append.mp hmem with hmem | hmem
  · exact hhost hmem
  · rcases List.mem_cons.mp hmem with hmem | hmem
    · cases hmem
    · cases hds _ hmem

/-- A text that ends with its port does not end with a colon. -/
theorem body_ne_concat_colon (hnil : ds ≠ []) (front : List Char) :
    host ++ ':' :: ds ≠ front ++ [':'] := by
  intro h
  obtain ⟨ds', d, rfl⟩ := (List.eq_nil_or_concat ds).resolve_left hnil
  rw [List.concat_eq_append, ← List.cons_append, ← List.append_assoc] at h
  obtain rfl := List.singleton_inj.mp (List.append_inj' h rfl).2
  cases hds ':' (by simp)

/-- There is no `://` where slashes come after a port alone. -/
theorem not_infix_body (hhost : '/' ∉ host) (hnil : ds ≠ []) (k : Nat) :
    ¬ "://".toList <:+: host ++ ':' :: ds ++ List.replicate k '/' := by
  rintro ⟨front, back, h⟩
  have hparts : front ++ "://".toList ++ back = front ++ [':'] ++ ('/' :: '/' :: back) := by simp
  rw [hparts, List.append_eq_append_iff] at h
  -- the slashes begin after the colon of `://`, or before it
  rcases h with ⟨middle, hbody, hslash⟩ | ⟨middle, hcolon, hslash⟩
  · cases middle with
    | nil => exact body_ne_concat_colon hds hnil front (by simpa using hbody)
    | cons c middle =>
      obtain ⟨rfl, -⟩ := List.cons.inj hslash
      exact slash_not_mem_body hds hhost (by rw [hbody]; simp)
  · rcases List.eq_nil_or_concat middle with rfl | ⟨middle, c, rfl⟩
    · exact body_ne_concat_colon hds hnil front (by simpa using hcolon.symm)
    · rw [List.concat_eq_append, ← List.append_assoc] at hcolon
      obtain rfl := List.singleton_inj.mp (List.append_inj' hcolon rfl).2
      have hmem : ':' ∈ List.replicate k '/' := by rw [hslash]; simp
      cases (List.mem_replicate.mp hmem).2

end Written

/-- An address that is written with or without a scheme, with its port, and with any number of
    slashes at its end is read back. -/
theorem parse?_written {scheme host : String} (hhost : IsHost host)
    (hscheme : scheme = "tcp://" ∨ scheme = "mqtt://" ∨ scheme = "") (p : UInt16) (k : Nat) :
    parse? (scheme ++ host ++ ":" ++ toString p.toNat ++ String.ofList (List.replicate k '/')) =
      some ⟨host, p⟩ := by
  have hdigits := Text.isDigit_toDigits p.toNat
  have hnil : Nat.toDigits 10 p.toNat ≠ [] := Nat.toDigits_ne_nil
  have hcolon : ':' ∉ Nat.toDigits 10 p.toNat := fun hmem => by cases hdigits _ hmem
  refine parse?_eq_some_iff.mpr ⟨hhost, _, host.toList ++ ':' :: Nat.toDigits 10 p.toNat, k, ?_, rfl,
    fun hlast => ?_, .inl ⟨_, rfl, hcolon, Decimal.writes_toDigits _⟩⟩
  · rcases hscheme with rfl | rfl | rfl
    · exact .inl (by simp)
    · exact .inr (.inl (by simp))
    · have hserver : ("" ++ host ++ ":" ++ toString p.toNat ++
          String.ofList (List.replicate k '/')).toList =
          host.toList ++ ':' :: Nat.toDigits 10 p.toNat ++ List.replicate k '/' := by
        simp
      rw [hserver]
      exact .inr (.inr ⟨rfl, not_infix_body hdigits hhost.no_slash hnil k⟩)
  · exact slash_not_mem_body hdigits hhost.no_slash (List.mem_of_getLast? hlast)

/-- An address is read from a text exactly if the text is one of this address: without its scheme,
    which may be `tcp` or `mqtt` or missing, and without the slashes at its end it is the host, a
    colon and a port in decimal, or the host alone for the port 1883. So every address is read back
    from each way to write it with its port, and what was read may be written anew. -/
theorem addresses_grammar :
    (∀ server a, parse? server = some a ↔ IsWritten server a) ∧
      (∀ (scheme host : String) (port : UInt16) (k : Nat), IsHost host →
        scheme = "tcp://" ∨ scheme = "mqtt://" ∨ scheme = "" →
        parse? (scheme ++ host ++ ":" ++ toString port.toNat ++
          String.ofList (List.replicate k '/')) = some ⟨host, port⟩) ∧
      (∀ server a, parse? server = some a →
        parse? (a.host ++ ":" ++ toString a.port.toNat) = some a) := by
  refine ⟨fun _ _ => parse?_eq_some_iff,
    fun _ _ port k hhost hscheme => parse?_written hhost hscheme port k, fun server a h => ?_⟩
  have hhost := (parse?_eq_some_iff.mp h).host
  simpa using parse?_written hhost (.inr (.inr rfl)) a.port 0

/-- A host may have colons in it, since the port comes after the last one; and a port may be written
    with a sign and zeros. -/
theorem addresses_grammar_colons :
    IsWritten "mqtt://[::1]:+08883//" ⟨"[::1]", 8883⟩ ∧
      parse? "mqtt://[::1]:+08883//" = some ⟨"[::1]", 8883⟩ ∧
      parse? "[::1]:8883" = some ⟨"[::1]", 8883⟩ ∧
      (IsHost "tcp" ∧ parse? "tcp://tcp:65535/" = some ⟨"tcp", 65535⟩) := by
  obtain ⟨hgrammar, hwritten, hanew⟩ := addresses_grammar
  have hread : parse? "mqtt://[::1]:+08883//" = some ⟨"[::1]", 8883⟩ := by decide
  have hhost : IsHost "tcp" := ⟨by decide, by decide⟩
  exact ⟨(hgrammar _ _).mp hread, hread, hanew _ _ hread, hhost,
    hwritten "tcp://" "tcp" 65535 1 hhost (.inl rfl)⟩

example : parse? "tcp://tcp://x" = none ∧ parse? "a:/" = none ∧ parse? "://h" = none := by decide

end LoraBridge.Broker.Address
