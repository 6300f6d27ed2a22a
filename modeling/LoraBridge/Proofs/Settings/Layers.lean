import Mathlib
import LoraBridge.Proofs.Settings.Keys

/-! # Settings in layers

  Every setting has a place in the tree, a variable of the environment and a default. What the
  environment gives for it goes before what the file gives, and that before the default; no
  setting has a part in another one.

  - `Setting` lists the settings; `Setting.inFile?` and `Setting.inEnvironment?` are what the two
    sources give for one of them.
  - `ofTree_eq`: a tree is read setting by setting.
  - `at?_addFile` and `addEnvironment_spec`: what a source puts at the place of a setting.
  - `load_layered` is the main result. It speaks of files in which only the sections themselves
    give settings: every key at the top of a file is a path, so others may lead to settings as well
    (`password_of_stray_key`).
-/

namespace LoraBridge.Settings

/-! ### The settings -/

/-- The settings. -/
inductive Setting where
  | server | username | password
  | backend | url | path | purgeInterval
  | level
deriving DecidableEq, Repr

namespace Setting

/-- What a setting may be. -/
abbrev Kind : Setting → Type
  | .backend => Lock.Backend
  | .purgeInterval => Nat
  | .server | .username | .password | .url | .path | .level => String

/-- The value of a setting. -/
def get : (x : Setting) → Settings → x.Kind
  | .server, s => s.broker.server
  | .username, s => s.broker.username
  | .password, s => s.broker.password
  | .backend, s => s.lock.backend
  | .url, s => s.lock.url
  | .path, s => s.lock.path
  | .purgeInterval, s => s.lock.purgeInterval
  | .level, s => s.log.level

/-! ### Names -/

/-- The section that a setting is in. -/
def home : Setting → Section
  | .server | .username | .password => brokerSection
  | .backend | .url | .path | .purgeInterval => lockSection
  | .level => logSection

/-- The number of a setting in its section. -/
def index : Setting → Nat
  | .server | .backend | .level => 0
  | .username | .url => 1
  | .password | .path => 2
  | .purgeInterval => 3

/-- The key of a setting in its section. -/
def key (x : Setting) : String := x.home.fields.getD x.index ""

/-- The name of the variable that gives a setting. -/
def variableName (x : Setting) : String :=
  let upper (s : String) := s.toList.map Char.toUpper
  String.ofList ("NODELINK_".toList ++ upper x.home.key ++ "__".toList ++ upper x.key)

example : purgeInterval.variableName = "NODELINK_LOCK__PURGE_INTERVAL_SECS" := by decide

theorem ofName_key (x : Setting) :
    Path.ofName (x.home.key ++ "." ++ x.key) = ⟨x.home.key, [.key x.key]⟩ := by
  cases x <;> decide

theorem ofName_home (x : Setting) : Path.ofName x.home.key = ⟨x.home.key, []⟩ := by
  cases x <;> decide

theorem isPrefixOf_variableName (x : Setting) :
    variableMark.isPrefixOf (Text.lower x.variableName.toList) := by
  cases x <;> decide

theorem pointed_variableName (x : Setting) :
    String.ofList (pointed ((Text.lower x.variableName.toList).drop variableMark.length)) =
      x.home.key ++ "." ++ x.key := by
  cases x <;> decide

theorem ofVariable?_variableName (x : Setting) (value : String) :
    ofVariable? x.variableName value =
      some (x.home.key ++ "." ++ x.key, .scalar (some environmentOrigin) (.text value)) := by
  simp only [ofVariable?, if_pos x.isPrefixOf_variableName, pointed_variableName]

theorem eq_of_variableName_eq {x y : Setting} (h : x.variableName = y.variableName) : x = y := by
  revert h
  cases x <;> cases y <;> decide

theorem key_mem_fields (x : Setting) : x.key ∈ x.home.fields := by
  cases x <;> decide

theorem eq_of_key_eq {x y : Setting} (hhome : x.home.key = y.home.key) (hkey : x.key = y.key) :
    x = y := by
  revert hhome hkey
  cases x <;> cases y <;> decide

/-! ### Values -/

/-- Reads a setting, where faults are reported at a key. -/
def readAs : (x : Setting) → String → Value → Except Fault (Option x.Kind)
  | .backend => readBackend
  | .purgeInterval => readCount
  | .server | .username | .password | .url | .path | .level => readText

/-- Reads a setting that is at its place. -/
def read (x : Setting) : Value → Except Fault (Option x.Kind) :=
  x.readAs (x.home.key ++ "." ++ x.key)

/-- What a text means as the value of a setting. -/
def ofText? : (x : Setting) → String → Option x.Kind
  | .backend => Lock.Backend.ofName?
  | .purgeInterval => countOfText?
  | .server | .username | .password | .url | .path | .level => some

theorem read_text {x : Setting} {s : String} {a : x.Kind} (h : x.ofText? s = some a)
    (origin? : Option String) : x.read (.scalar origin? (.text s)) = .ok (some a) := by
  cases x with
  | backend =>
    have h : Lock.Backend.ofName? s = some a := h
    simp only [read, readAs, readBackend, backendOfName, h]
  | purgeInterval =>
    have h : countOfText? s = some a := h
    simp only [read, readAs, readCount, h]
  | _ => exact congrArg Except.ok h

/-- A value stays readable when it is put where nothing has been. -/
theorem read_join {x : Setting} {v : Value} {a? : Option x.Kind} (h : x.read v = .ok a?) :
    x.read (Value.nothing.join v) = .ok a? := by
  cases v with
  | scalar origin? s => exact h
  | list origin? items => exact h
  | table origin? members =>
    cases x with
    | backend =>
      -- of tables only those with one key name a backend, and they keep it
      match members, h with
      | [_], h => exact h
    | _ => cases h

/-- What a tree gives for a setting. -/
def inTree? (x : Setting) (tree : Value) : Option x.Kind :=
  (tree.at? x.home.key x.key).bind fun v => (x.read v).toOption.join

/-- What a tree gives for a setting, if anything, is valid. -/
def ValidIn (x : Setting) (tree : Value) : Prop :=
  ∀ v, tree.at? x.home.key x.key = some v → ∃ a?, x.read v = .ok a?

theorem inTree?_eq {x : Setting} {tree v : Value} {a? : Option x.Kind}
    (hat : tree.at? x.home.key x.key = some v) (hread : x.read v = .ok a?) :
    x.inTree? tree = a? := by
  rw [inTree?, hat, Option.bind_some, hread]
  rfl

theorem inTree?_eq_none {x : Setting} {tree : Value} (hat : tree.at? x.home.key x.key = none) :
    x.inTree? tree = none := by
  rw [inTree?, hat]
  rfl

theorem readField_table {x : Setting} (origin? : Option String)
    (members : List (String × Value)) :
    x.home.readField (.table origin? members) x.index x.readAs =
      match (Value.table origin? members).member? x.key with
      | some v => x.read v
      | none => .ok none := rfl

theorem readField_eq {x : Setting} {tree : Value} (hsection : tree.IsSection x.home.key)
    (hvalid : x.ValidIn tree) :
    x.home.readField (x.home.of tree) x.index x.readAs = .ok (x.inTree? tree) := by
  unfold Section.of
  cases hmember : tree.member? x.home.key with
  | none =>
    rw [inTree?_eq_none (by rw [Value.at?, hmember, Option.bind_none])]
    rfl
  | some v =>
    obtain ⟨origin?, members, rfl⟩ := hsection v hmember
    have hat : tree.at? x.home.key x.key = (Value.table origin? members).member? x.key := by
      rw [Value.at?, hmember, Option.bind_some]
    rw [Option.getD_some, readField_table]
    cases hv : (Value.table origin? members).member? x.key with
    | none => rw [inTree?_eq_none (hat.trans hv)]
    | some v =>
      obtain ⟨a?, hread⟩ := hvalid v (hat.trans hv)
      rw [inTree?_eq (hat.trans hv) hread]
      exact hread

/-- The settings with these values. -/
def all (f : (x : Setting) → x.Kind) : Settings :=
  { broker := { server := f .server, username := f .username, password := f .password }
    lock := { backend := f .backend, url := f .url, path := f .path,
              purgeInterval := f .purgeInterval }
    log := { level := f .level } }

theorem get_all (f : (x : Setting) → x.Kind) (x : Setting) : x.get (all f) = f x := by
  cases x <;> rfl

end Setting

/-- A tree of valid settings is read setting by setting. -/
theorem ofTree_eq {tree : Value} (hsections : ∀ x : Setting, tree.IsSection x.home.key)
    (hvalid : ∀ x : Setting, x.ValidIn tree) :
    ofTree tree = .ok (Setting.all fun x => (x.inTree? tree).getD (x.get {})) := by
  have hfield (x : Setting) := Setting.readField_eq (hsections x) (hvalid x)
  have hserver : brokerSection.readField (brokerSection.of tree) 0 readText = .ok _ :=
    hfield .server
  have husername : brokerSection.readField (brokerSection.of tree) 1 readText = .ok _ :=
    hfield .username
  have hpassword : brokerSection.readField (brokerSection.of tree) 2 readText = .ok _ :=
    hfield .password
  have hbackend : lockSection.readField (lockSection.of tree) 0 readBackend = .ok _ :=
    hfield .backend
  have hurl : lockSection.readField (lockSection.of tree) 1 readText = .ok _ := hfield .url
  have hpath : lockSection.readField (lockSection.of tree) 2 readText = .ok _ := hfield .path
  have hpurge : lockSection.readField (lockSection.of tree) 3 readCount = .ok _ :=
    hfield .purgeInterval
  have hlevel : logSection.readField (logSection.of tree) 0 readText = .ok _ := hfield .level
  simp only [ofTree, readBroker, readLock, readLog, hserver, husername, hpassword, hbackend, hurl,
    hpath, hpurge, hlevel]
  rfl

/-! ### The file -/

/-- The members of a file as it is meant to be. Sections are tables with valid settings, and no
    other key of the file leads to a setting, nor by an index into a section. All else is free:
    sections may be missing or have settings that nobody knows, and so may the file, also by keys
    that lead to them. -/
structure IsTidy (file : List (String × Value)) : Prop where
  sections : ∀ e ∈ file, ∀ x : Setting, x.home.Admits e
  valid : ∀ x : Setting, x.ValidIn (.table none file)

/-- What a file gives for a setting. -/
def Setting.inFile? (x : Setting) (file : List (String × Value)) : Option x.Kind :=
  x.inTree? (.table none file)

variable {dir : Directory} {path : String} {file : List (String × Value)}

theorem isSection_addFile (hfile : IsTidy file) (x : Setting) :
    (addSource (.table none []) file).IsSection x.home.key := by
  have hempty : (Value.table none []).IsSection x.home.key := fun v hv => by cases hv
  exact hempty.addSource x.ofName_home fun e he => hfile.sections e he x

section File

variable (hread : fileSource dir path = .ok file) (hfile : IsTidy file)
include hread hfile

/-- After the file has been added, a setting is what the file has in its place. -/
theorem at?_addFile (x : Setting) :
    (addSource (.table none []) file).at? x.home.key x.key =
      ((Value.table none file).at? x.home.key x.key).map Value.nothing.join := by
  have hkeyed := keyed_fileSource hread 1
  rw [at?_addSource x.ofName_home hkeyed.nodup (fun e he => (hkeyed.each e he).nodup_members)
    (fun e he => hfile.sections e he x) x.key_mem_fields]
  cases (Value.table none file).at? x.home.key x.key <;> rfl

theorem validIn_addFile (x : Setting) : x.ValidIn (addSource (.table none []) file) := by
  intro v hv
  rw [at?_addFile hread hfile] at hv
  obtain ⟨v, hat, rfl⟩ := Option.map_eq_some_iff.mp hv
  exact (hfile.valid x v hat).imp fun _ => Setting.read_join

theorem inTree?_addFile (x : Setting) :
    x.inTree? (addSource (.table none []) file) = x.inFile? file := by
  have hat := at?_addFile hread hfile x
  cases hv : (Value.table none file).at? x.home.key x.key with
  | none =>
    rw [hv, Option.map_none] at hat
    rw [Setting.inFile?, Setting.inTree?_eq_none hv, Setting.inTree?_eq_none hat]
  | some v =>
    rw [hv, Option.map_some] at hat
    obtain ⟨a?, hok⟩ := hfile.valid x v hv
    rw [Setting.inFile?, Setting.inTree?_eq hv hok,
      Setting.inTree?_eq hat (Setting.read_join hok)]

end File

/-! ### The environment -/

/-- An environment as it is meant to be. Variables that are there for settings are those with
    their names, and they are valid. -/
structure IsTidyEnvironment (environment : List (String × String)) : Prop where
  nodup : (environment.map (·.1)).Nodup
  valid : ∀ e ∈ environment,
    (∃ x : Setting, e.1 = x.variableName ∧ (x.ofText? e.2).isSome) ∨
      ¬ variableMark.isPrefixOf (Text.lower e.1.toList)

/-- What the environment gives for a setting. -/
def Setting.inEnvironment? (x : Setting) (environment : List (String × String)) :
    Option x.Kind :=
  (environment.lookup x.variableName).bind x.ofText?

section Environment

variable {environment : List (String × String)} {tree : Value}

/-- The value of a setting that a variable gives. -/
def environmentText (value : String) : Value := .scalar (some environmentOrigin) (.text value)

theorem ofEnvironment_cons_variableName (x : Setting) (value : String)
    (environment : List (String × String)) :
    ofEnvironment ((x.variableName, value) :: environment) =
      (x.home.key ++ "." ++ x.key, environmentText value) :: ofEnvironment environment :=
  List.filterMap_cons_some (x.ofVariable?_variableName value)

theorem ofEnvironment_cons_of_not_isPrefixOf {e : String × String}
    (h : ¬ variableMark.isPrefixOf (Text.lower e.1.toList))
    (environment : List (String × String)) :
    ofEnvironment (e :: environment) = ofEnvironment environment :=
  List.filterMap_cons_none (if_neg h)

theorem lookup_eq_none {name : String} (h : name ∉ environment.map (·.1)) :
    environment.lookup name = none := by
  rw [List.lookup_eq_none_iff]
  intro e he
  rw [bne_iff_ne]
  rintro rfl
  exact h (List.mem_map_of_mem he)

theorem IsTidyEnvironment.tail {e : String × String}
    (h : IsTidyEnvironment (e :: environment)) : IsTidyEnvironment environment :=
  ⟨(List.nodup_cons.mp h.nodup).2, fun e' he => h.valid e' (List.mem_cons_of_mem _ he)⟩

/-- By induction on the environment: each variable puts one setting into the tree, and no other
    one gives the same. -/
theorem addEnvironment_spec (henv : IsTidyEnvironment environment)
    (hsections : ∀ x : Setting, tree.IsSection x.home.key) (x : Setting) :
    (addSource tree (ofEnvironment environment)).IsSection x.home.key ∧
    (addSource tree (ofEnvironment environment)).at? x.home.key x.key =
      ((environment.lookup x.variableName).map environmentText).or
        (tree.at? x.home.key x.key) := by
  induction environment generalizing tree with
  | nil => exact ⟨hsections x, rfl⟩
  | cons e rest ih =>
    obtain ⟨name, value⟩ := e
    rcases henv.valid _ List.mem_cons_self with ⟨y, rfl, -⟩ | hother
    · rw [ofEnvironment_cons_variableName, addSource_cons]
      obtain ⟨hsection, hat⟩ := ih henv.tail
        fun z => (hsections z).set_field y.ofName_key (some environmentOrigin) (.text value)
      have hset := Value.at?_set tree y.ofName_key (some environmentOrigin) (.text value)
        x.home.key x.key
      refine ⟨hsection, hat.trans ?_⟩
      rw [hset]
      by_cases hxy : y = x
      · -- the setting is not given again
        subst hxy
        have hnew := (List.nodup_cons.mp henv.nodup).1
        rw [lookup_eq_none hnew, List.lookup_cons_self, if_pos ⟨rfl, rfl⟩]
        rfl
      · have hname : x.variableName ≠ y.variableName :=
          fun h => hxy (Setting.eq_of_variableName_eq h).symm
        rw [if_neg fun h => hxy (Setting.eq_of_key_eq h.1 h.2), List.lookup_cons,
          beq_false_of_ne hname]
    · -- the variable is none of the program's
      have hname : x.variableName ≠ name := fun h => hother (h ▸ x.isPrefixOf_variableName)
      rw [ofEnvironment_cons_of_not_isPrefixOf hother, List.lookup_cons, beq_false_of_ne hname]
      exact ih henv.tail hsections

theorem IsTidyEnvironment.exists_of_lookup (henv : IsTidyEnvironment environment) {x : Setting}
    {value : String} (h : environment.lookup x.variableName = some value) :
    ∃ a, x.ofText? value = some a := by
  obtain ⟨front, back, rfl, -⟩ := List.lookup_eq_some_iff.mp h
  have hmem : (x.variableName, value) ∈ front ++ (x.variableName, value) :: back :=
    List.mem_append_right _ List.mem_cons_self
  rcases henv.valid _ hmem with ⟨y, hname, hvalid⟩ | hother
  · obtain rfl := Setting.eq_of_variableName_eq hname
    exact Option.isSome_iff_exists.mp hvalid
  · exact absurd x.isPrefixOf_variableName hother

/-- The environment goes before what is in the tree. -/
theorem inTree?_addEnvironment (henv : IsTidyEnvironment environment)
    (hsections : ∀ x : Setting, tree.IsSection x.home.key) {x : Setting}
    (hvalid : x.ValidIn tree) :
    x.ValidIn (addSource tree (ofEnvironment environment)) ∧
    x.inTree? (addSource tree (ofEnvironment environment)) =
      (x.inEnvironment? environment).or (x.inTree? tree) := by
  have hat := (addEnvironment_spec henv hsections x).2
  cases hlookup : environment.lookup x.variableName with
  | none =>
    -- what is at the place of the setting stays
    rw [hlookup, Option.map_none, Option.none_or] at hat
    constructor
    · unfold Setting.ValidIn
      rw [hat]
      exact hvalid
    · rw [Setting.inEnvironment?, hlookup, Option.bind_none, Option.none_or, Setting.inTree?, hat]
      rfl
  | some value =>
    rw [hlookup, Option.map_some, Option.some_or] at hat
    obtain ⟨a, ha⟩ := henv.exists_of_lookup hlookup
    have hread := Setting.read_text ha (some environmentOrigin)
    constructor
    · intro v hv
      obtain rfl := Option.some.inj (hat.symm.trans hv)
      exact ⟨_, hread⟩
    · rw [Setting.inTree?_eq hat hread, Setting.inEnvironment?, hlookup, Option.bind_some, ha,
        Option.some_or]

end Environment

/-! ### Loading -/

theorem load_eq {environment : List (String × String)} (hread : fileSource dir path = .ok file)
    (hfile : IsTidy file) (henv : IsTidyEnvironment environment) :
    load dir environment path = .ok (Setting.all fun x =>
      ((x.inEnvironment? environment).or (x.inFile? file)).getD (x.get {})) := by
  have hsections := isSection_addFile hfile
  have htree (x : Setting) :=
    inTree?_addEnvironment henv hsections (validIn_addFile hread hfile x)
  rw [load, hread]
  change ofTree _ = _
  rw [ofTree_eq (fun x => (addEnvironment_spec henv hsections x).1) fun x => (htree x).1]
  congr 2
  funext x
  rw [(htree x).2, inTree?_addFile hread hfile]

/-- Settings are layered one by one: each of them has the value that the environment gives, or
    else that of the file, or else its default. So a source of one setting has no part in any
    other: settings for which two loads have the same sources come out the same. -/
theorem load_layered {environment : List (String × String)}
    (hread : fileSource dir path = .ok file) (hfile : IsTidy file)
    (henv : IsTidyEnvironment environment) :
    ∃ s, load dir environment path = .ok s ∧
      (∀ x : Setting, x.get s =
        ((x.inEnvironment? environment).or (x.inFile? file)).getD (x.get {})) ∧
      ∀ dir' environment' path' file' s', fileSource dir' path' = .ok file' → IsTidy file' →
        IsTidyEnvironment environment' → load dir' environment' path' = .ok s' →
        ∀ x : Setting, x.inEnvironment? environment' = x.inEnvironment? environment →
          x.inFile? file' = x.inFile? file → x.get s' = x.get s := by
  refine ⟨_, load_eq hread hfile henv, Setting.get_all _, ?_⟩
  intro dir' environment' path' file' s' hread' hfile' henv' hload x hsame hsame'
  rw [load_eq hread' hfile' henv'] at hload
  cases hload
  rw [Setting.get_all, Setting.get_all, hsame, hsame']

/-- The working directory with a file of this text. -/
def directoryOf (text : String) : Directory := [(["nodelink.toml"], Text.bytes text)]

theorem fileSource_directoryOf {text : String} {table : List (String × Toml.Value)}
    (hfind : find? (directoryOf text) "nodelink" =
      some ("nodelink.toml", ["nodelink.toml"], .toml))
    (htext : textOf (Text.bytes text) = text) (hparse : Toml.parse? text = some table) :
    fileSource (directoryOf text) "nodelink" =
      .ok (Value.membersOfToml (some "nodelink.toml") table) := by
  have horigin : originOf "nodelink.toml" = "nodelink.toml" := by decide +kernel
  have hcontent : textOf (((directoryOf text).file? ["nodelink.toml"]).getD []) = text := htext
  simp only [fileSource, hfind, hcontent, horigin, Format.read?, hparse, Option.map_some]

/-- A text from a file. -/
def fileText (s : String) : Value := .scalar (some "nodelink.toml") (.text s)

/-- A file with two settings, and with settings that nobody knows, in sections and elsewhere. -/
def sampleFile : List (String × Value) :=
  [("colour", fileText "c"), ("lock.colour", fileText "d"),
    ("mqtt", .table (some "nodelink.toml")
      [("server", fileText "b"), ("username", fileText "u"), ("x", fileText "y")])]

/-- How it is written. -/
def sampleText : String :=
  "colour = \"c\"\n\"lock.colour\" = \"d\"\n[mqtt]\nserver = \"b\"\nusername = \"u\"\nx = \"y\"\n"

/-- An environment with one of these settings and another one. -/
def sampleEnvironment : List (String × String) :=
  [("PATH", "/bin"), ("NODELINK_MQTT__USERNAME", "v"), ("NODELINK_LOCK__PURGE_INTERVAL_SECS", "5")]

theorem fileSource_sample : fileSource (directoryOf sampleText) "nodelink" = .ok sampleFile := by
  have hparse : Toml.parse? sampleText = some [("colour", .text "c"), ("lock.colour", .text "d"),
      ("mqtt", .table [("server", .text "b"), ("username", .text "u"), ("x", .text "y")])] := by
    cbv
  exact fileSource_directoryOf (by decide +kernel) (by decide +kernel) hparse

theorem isTidy_sample : IsTidy sampleFile where
  sections := by
    intro e he x hroot
    simp only [sampleFile, List.mem_cons, List.not_mem_nil, or_false] at he
    rcases he with rfl | rfl | rfl
    · cases x <;> exact absurd hroot (by decide)
    · have hname : Path.ofName "lock.colour" = ⟨"lock", [.key "colour"]⟩ := by decide
      refine .inr ⟨"colour", [], by rw [hname], ?_⟩
      cases x <;> decide
    · refine .inl ⟨?_, _, _, rfl⟩
      cases x <;> first | rfl | exact absurd hroot (by decide)
  valid := by
    intro x v hv
    cases x <;> cases hv <;> exact ⟨_, rfl⟩

theorem isTidy_sampleEnvironment : IsTidyEnvironment sampleEnvironment where
  nodup := by decide
  valid := by
    intro e he
    simp only [sampleEnvironment, List.mem_cons, List.not_mem_nil, or_false] at he
    rcases he with rfl | rfl | rfl
    · exact .inr (by decide)
    · exact .inl ⟨.username, by decide, by decide⟩
    · exact .inl ⟨.purgeInterval, by decide, by decide⟩

theorem load_layered_sample :
    fileSource (directoryOf sampleText) "nodelink" = .ok sampleFile ∧ IsTidy sampleFile ∧
    IsTidyEnvironment sampleEnvironment ∧
    ∃ s, load (directoryOf sampleText) sampleEnvironment "nodelink" = .ok s ∧
      s = { broker := { server := "b", username := "v" }, lock := { purgeInterval := 5 } } := by
  obtain ⟨s, hload, hget, -⟩ :=
    load_layered fileSource_sample isTidy_sample isTidy_sampleEnvironment
  refine ⟨fileSource_sample, isTidy_sample, isTidy_sampleEnvironment, s, hload, ?_⟩
  have hall : s = Setting.all fun x => x.get s := rfl
  rw [hall]
  simp only [hget]
  decide

/-- A file without any section. Its key is a path to the third setting of the broker. -/
def strayText : String := "\"mqtt[2]\" = \"c\"\n"

/-- Keys that lead into a section from outside set what the section itself does not give. -/
theorem password_of_stray_key :
    ∃ file s, fileSource (directoryOf strayText) "nodelink" = .ok file ∧
      load (directoryOf strayText) [] "nodelink" = .ok s ∧ file.map (·.1) = ["mqtt[2]"] ∧
      Setting.password.get s ≠ ((Setting.password.inEnvironment? []).or
        (Setting.password.inFile? file)).getD (Setting.password.get {}) := by
  have hparse : Toml.parse? strayText = some [("mqtt[2]", .text "c")] := by cbv
  have hread : fileSource (directoryOf strayText) "nodelink" = .ok [("mqtt[2]", fileText "c")] :=
    fileSource_directoryOf (by decide +kernel) (by decide +kernel) hparse
  refine ⟨_, { broker := { password := "c" } }, hread, ?_, rfl, by decide⟩
  rw [load, hread]
  rfl

end LoraBridge.Settings
