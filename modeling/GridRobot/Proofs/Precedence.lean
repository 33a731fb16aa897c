import GridRobot.Program
import GridRobot.Proofs.Schema

/-!
# Which settings count

A setting comes from the flag for it, if there is one that says something, else from the
configuration file, if that says something about it, and else from the defaults. `Chosen` says so of
one setting and `Settings.Merges` of all of them, in terms of what a file gives
(`Config.Schema.Gives`) and not of how it is read. The settings that a file makes of the defaults are
merged in this sense (`Settings.merges_ofContents`), and flags keep them so (`Merges.override`).

Flags that were accepted on the command line hold nothing that the check of the settings would
refuse (`CommandLine.checked_of_read`), so that settings which have passed it pass it again with the
flags on top (`Settings.problems_override`). Hence a file that is accepted is never refused later.
-/

namespace GridRobot

/-! ## Flags that were accepted -/

namespace CommandLine

/-- Flags with names of formats and levels, or none, and with a tick that can be waited for. -/
structure Flags.Checked (fs : Flags) : Prop where
  logFormat_mem : fs.logFormat ∈ logFormats
  logLevel_mem : fs.logLevel ∈ logLevels
  tick_nonneg : 0 ≤ fs.tick.nanoseconds

theorem Flags.checked_of_check {fs gs : Flags} (h : fs.check = .ok gs) : gs.Checked := by
  unfold check at h
  dsimp only at h
  split_ifs at h with hformat hlevel htick
  cases h
  exact ⟨by simpa using hformat, by simpa using hlevel, Int64.not_lt.1 htick⟩

theorem checked_of_read {arguments : List Text} {o : Options} (h : read arguments = .run o) :
    o.toFlags.Checked := by
  unfold read at h
  split at h
  · cases h
  · cases h
  · cases h
  · cases h
  · split at h
    · cases h
    · next hcheck =>
      cases h
      exact Flags.checked_of_check hcheck

end CommandLine

/-! ## One setting -/

open Config (BlockType Datum)

/-- The value of a setting: what a flag says; else what the file says, as `means` reads it; else
another value. -/
def Chosen {α : Type} (flag : Option α) (given : Datum → Prop) (means : Datum → α → Prop)
    (other a : α) : Prop :=
  (∀ x, flag = some x → a = x) ∧
    (flag = none → (∀ d, given d → means d a) ∧ ((∀ d, ¬ given d) → a = other))

section Chosen

variable {α : Type} {given : Datum → Prop} {means : Datum → α → Prop} {other a : α}

theorem Chosen.of_lookup {data : Config.Schema.Data} {name : Text}
    (hgiven : ∀ d, data.lookup name = some d ↔ given d)
    (hnone : data.lookup name = none → a = other)
    (hsome : ∀ d, data.lookup name = some d → means d a) : Chosen none given means other a := by
  refine ⟨by simp, fun _ => ⟨fun d hd => hsome d ((hgiven d).2 hd), fun hnothing => hnone ?_⟩⟩
  exact Option.eq_none_iff_forall_ne_some.2 fun d hd => hnothing d ((hgiven d).1 hd)

theorem Chosen.override (h : Chosen none given means other a) (flag : Option α) :
    Chosen flag given means other (flag.getD a) := by
  cases flag with
  | none => exact h
  | some x => exact ⟨fun y hy => Option.some.inj hy, by simp⟩

end Chosen

/-- The text of a flag, unless it is empty. -/
def CommandLine.nonempty? (t : Text) : Option Text :=
  if t = [] then none else some t

/-- The duration of a flag, unless it is zero. -/
def CommandLine.nonzero? (d : Duration) : Option Duration :=
  if d.nanoseconds = 0 then none else some d

/-! ## All settings -/

namespace Settings

open CommandLine (Flags nonempty? nonzero?)

/-- Each setting is what its flag says; else what the file says, if it says something; else the
default. The seed is the number in the file modulo the number of words. -/
structure Merges (given : BlockType → String → Datum → Prop) (fs : Flags) (s : Settings) : Prop where
  layout : Chosen (nonempty? fs.board) (given .board "layout") (fun d t => d = .text t)
    default.layout s.layout
  logLevel : Chosen (nonempty? fs.logLevel) (given .log "level") (fun d t => d = .text t)
    default.logLevel s.logLevel
  logFormat : Chosen (nonempty? fs.logFormat) (given .log "format") (fun d t => d = .text t)
    default.logFormat s.logFormat
  tick : Chosen (nonzero? fs.tick) (given .scheduler "tick")
    (fun d v => ∃ t, d = .text t ∧ Duration.read t = .ok v) default.tick s.tick
  boardSize : Chosen none (given .board "size") (fun d n => d = .int n) default.boardSize s.boardSize
  obstacles : Chosen none (given .board "obstacles") (fun d n => d = .int n)
    default.obstacles s.obstacles
  seed : Chosen none (given .board "seed")
    (fun d u => ∃ n : Int64, d = .int n ∧ (u.toNat : Int) = n.toInt % UInt64.size)
    default.seed s.seed
  robot : Chosen none (given .board "robot") (fun d p => d = .ints [p.x, p.y]) default.robot s.robot
  target : Chosen none (given .board "target") (fun d p => d = .ints [p.x, p.y])
    default.target s.target
  solvable : Chosen none (given .board "solvable") (fun d b => d = .bool b)
    default.solvable s.solvable

theorem orElse_eq_getD (t other : Text) : orElse t other = (nonempty? t).getD other := by
  cases t <;> rfl

theorem override_eq {fs : Flags} (hfs : 0 ≤ fs.tick.nanoseconds) (s : Settings) :
    s.override fs = { s with
      layout := (nonempty? fs.board).getD s.layout
      logLevel := (nonempty? fs.logLevel).getD s.logLevel
      logFormat := (nonempty? fs.logFormat).getD s.logFormat
      tick := (nonzero? fs.tick).getD s.tick } := by
  have htick : (if 0 < fs.tick.nanoseconds then fs.tick else s.tick) =
      (nonzero? fs.tick).getD s.tick := by
    unfold nonzero?
    split_ifs with hpos hzero hzero
    · rw [hzero] at hpos
      exact absurd hpos (by decide)
    · rfl
    · rfl
    · exact absurd (Int64.le_antisymm (Int64.not_lt.1 hpos) hfs) hzero
  simp only [Settings.override, orElse_eq_getD, htick]

/-- Flags on top of settings that were merged without any. -/
theorem Merges.override {given : BlockType → String → Datum → Prop} {s : Settings} {fs : Flags}
    (h : s.Merges given .none) (hfs : 0 ≤ fs.tick.nanoseconds) :
    (s.override fs).Merges given fs := by
  rw [override_eq hfs]
  exact { h with
    layout := h.layout.override _
    logLevel := h.logLevel.override _
    logFormat := h.logFormat.override _
    tick := h.tick.override _ }

/-- Accepted flags give nothing that the check refuses. -/
theorem problems_override {s : Settings} {fs : Flags} (hs : s.problems = []) (hfs : fs.Checked) :
    (s.override fs).problems = [] := by
  obtain ⟨hboard, htick, hformat, hlevel⟩ := problems_eq_nil_iff.1 hs
  have hchoice {names allowed : List Text} {t other : Text} (hnames : names = [] :: allowed)
      (ht : t ∈ names) (hother : other ∈ allowed) : orElse t other ∈ allowed := by
    subst hnames
    rcases List.mem_cons.1 ht with rfl | ht
    · exact hother
    · cases t with
      | nil => exact hother
      | cons b t => exact ht
  refine problems_eq_nil_iff.2 ⟨fun hlayout => ?_, ?_, ?_, ?_⟩
  · -- no board file is named only if neither the flag nor the file names one
    have hnone : s.layout = [] := by
      simp only [Settings.override, orElse] at hlayout
      split_ifs at hlayout with hempty
      · exact hlayout
      · rw [hlayout] at hempty
        exact absurd rfl hempty
    exact hboard hnone
  · simp only [Settings.override]
    split_ifs with hpos
    · exact hpos
    · exact htick
  · exact hchoice rfl hfs.logFormat_mem hformat
  · exact hchoice rfl hfs.logLevel_mem hlevel

theorem toNat_toUInt64 (n : Int64) : (n.toUInt64.toNat : Int) = n.toInt % UInt64.size := by
  have hbits : n.toInt = Int.bmod n.toUInt64.toNat UInt64.size := n.toBitVec.toInt_eq_toNat_bmod
  rw [hbits, Int.bmod_emod]
  exact (Int.emod_eq_of_lt (Int.natCast_nonneg _) (Int.ofNat_lt.2 n.toUInt64.toNat_lt_size)).symm

/-! ### Settings by their types -/

open Config.Schema (Contents Data)

section Types

variable {given : Datum → Prop} {data : Data} {name : String}

theorem chosen_text (hgiven : ∀ d, data.lookup (Text.ofString name) = some d ↔ given d)
    (hsuits : ∀ d, given d → d.Suits .text) (other : Text) :
    Chosen none given (fun d t => d = .text t) other ((text? data name).getD other) := by
  refine .of_lookup hgiven (fun hnone => by simp [text?, hnone]) fun d hd => ?_
  obtain ⟨t, rfl⟩ := (hsuits d ((hgiven d).1 hd)).exists_text
  simp [text?, hd]

theorem chosen_bool (hgiven : ∀ d, data.lookup (Text.ofString name) = some d ↔ given d)
    (hsuits : ∀ d, given d → d.Suits .bool) (other : Bool) :
    Chosen none given (fun d b => d = .bool b) other ((bool? data name).getD other) := by
  refine .of_lookup hgiven (fun hnone => by simp [bool?, hnone]) fun d hd => ?_
  obtain ⟨b, rfl⟩ := (hsuits d ((hgiven d).1 hd)).exists_bool
  simp [bool?, hd]

theorem chosen_int (hgiven : ∀ d, data.lookup (Text.ofString name) = some d ↔ given d)
    (hsuits : ∀ d, given d → d.Suits .number) (other : Int64) :
    Chosen none given (fun d n => d = .int n) other ((int? data name).getD other) := by
  refine .of_lookup hgiven (fun hnone => by simp [int?, hnone]) fun d hd => ?_
  obtain ⟨n, rfl⟩ := (hsuits d ((hgiven d).1 hd)).exists_int
  simp [int?, hd]

theorem chosen_word (hgiven : ∀ d, data.lookup (Text.ofString name) = some d ↔ given d)
    (hsuits : ∀ d, given d → d.Suits .number) (other : UInt64) :
    Chosen none given
      (fun d u => ∃ n : Int64, d = .int n ∧ (u.toNat : Int) = n.toInt % UInt64.size) other
      (((int? data name).map Int64.toUInt64).getD other) := by
  refine .of_lookup hgiven (fun hnone => by simp [int?, hnone]) fun d hd => ?_
  obtain ⟨n, rfl⟩ := (hsuits d ((hgiven d).1 hd)).exists_int
  refine ⟨n, rfl, ?_⟩
  simp only [int?, hd, Option.map_some, Option.getD_some]
  exact toNat_toUInt64 n

theorem chosen_position {p other : Position}
    (hgiven : ∀ d, data.lookup (Text.ofString name) = some d ↔ given d)
    (hsuits : ∀ d, given d → d.Suits (.list .number)) (h : position data name other = .ok p) :
    Chosen none given (fun d p => d = .ints [p.x, p.y]) other p := by
  unfold position at h
  refine .of_lookup hgiven (fun hnone => ?_) fun d hd => ?_
  · rw [hnone] at h
    exact (Except.ok.inj h).symm
  · obtain ⟨ns, rfl⟩ := (hsuits d ((hgiven d).1 hd)).exists_ints
    rw [hd] at h
    rcases ns with _ | ⟨x, _ | ⟨y, _ | ⟨z, ns⟩⟩⟩
    · cases h
    · cases h
    · cases h
      rfl
    · cases h

theorem chosen_duration {v other : Duration}
    (hgiven : ∀ d, data.lookup (Text.ofString name) = some d ↔ given d)
    (hsuits : ∀ d, given d → d.Suits .text) (h : duration data name other = .ok v) :
    Chosen none given (fun d v => ∃ t, d = .text t ∧ Duration.read t = .ok v) other v := by
  unfold duration text? at h
  refine .of_lookup hgiven (fun hnone => ?_) fun d hd => ?_
  · rw [hnone] at h
    exact (Except.ok.inj h).symm
  · obtain ⟨t, rfl⟩ := (hsuits d ((hgiven d).1 hd)).exists_text
    rw [hd] at h
    refine ⟨t, rfl, ?_⟩
    rcases hread : Duration.read t with e | v'
    · simp [hread, Except.mapError] at h
    · simpa [hread, Except.mapError] using h

end Types

theorem ofFile_eq_ok {t : Text} {s : Settings} (h : ofFile t = .ok s) :
    ∃ body c, Config.Body.read? t = some body ∧ Config.Schema.decode body = .ok c ∧
      ofContents default c = .ok s ∧ s.problems = [] := by
  unfold ofFile at h
  split at h
  · cases h
  · next body hbody =>
    obtain ⟨c, hdecode, h⟩ := Config.exists_of_bind_eq_ok h
    obtain ⟨s', hcontents, hcheck⟩ := Config.exists_of_bind_eq_ok h
    obtain ⟨hproblems, rfl⟩ := check_eq_ok_iff.1 hcheck
    exact ⟨body, c, hbody, Config.mapError_eq_ok_iff.1 hdecode, hcontents, hproblems⟩

/-- What a file makes of the defaults is merged from what it gives. -/
theorem merges_ofContents {given : BlockType → String → Datum → Prop} {c : Contents} {s : Settings}
    (hgiven : ∀ t name d, (c.of t).lookup (Text.ofString name) = some d ↔ given t name d)
    (hsuits : ∀ t name ty d, t.attributes.lookup (Text.ofString name) = some ty →
      given t name d → d.Suits ty)
    (h : ofContents default c = .ok s) : s.Merges given .none := by
  obtain ⟨robot, hrobot, h⟩ := Config.exists_of_bind_eq_ok h
  obtain ⟨target, htarget, h⟩ := Config.exists_of_bind_eq_ok h
  obtain ⟨tick, htick, h⟩ := Config.exists_of_bind_eq_ok h
  cases h
  exact {
    layout := chosen_text (hgiven .board _) (hsuits .board _ _ · rfl) _
    logLevel := chosen_text (hgiven .log _) (hsuits .log _ _ · rfl) _
    logFormat := chosen_text (hgiven .log _) (hsuits .log _ _ · rfl) _
    tick := chosen_duration (hgiven .scheduler _) (hsuits .scheduler _ _ · rfl) htick
    boardSize := chosen_int (hgiven .board _) (hsuits .board _ _ · rfl) _
    obstacles := chosen_int (hgiven .board _) (hsuits .board _ _ · rfl) _
    seed := chosen_word (hgiven .board _) (hsuits .board _ _ · rfl) _
    robot := chosen_position (hgiven .board _) (hsuits .board _ _ · rfl) hrobot
    target := chosen_position (hgiven .board _) (hsuits .board _ _ · rfl) htarget
    solvable := chosen_bool (hgiven .board _) (hsuits .board _ _ · rfl) _ }

end Settings

/-! ## The program -/

namespace Program

open Config (Body Schema.Gives)

/-- A configuration file gives an attribute of a block a value; where no file is named, nothing is
given. -/
def FileGives (files : Files) (path : Text) (t : BlockType) (name : String) (d : Datum) : Prop :=
  path ≠ [] ∧ ∃ text body, files path = .ok (.file text) ∧ Body.read? text = some body ∧
    Schema.Gives body t (Text.ofString name) d

/-- The settings of a file that is accepted are merged from what it gives, and pass the check. -/
theorem merges_fileSettings {files : Files} {path : Text} {base : Settings}
    (h : fileSettings files path = .ok base) :
    base.Merges (FileGives files path) .none ∧ base.problems = [] := by
  unfold fileSettings at h
  split_ifs at h with hpath
  · -- without a file the settings are those of an empty one
    cases h
    have hempty : path = [] := List.isEmpty_iff.1 hpath
    have hgiven (t : BlockType) (name : String) (d : Datum) :
        ((⟨[], [], []⟩ : Config.Schema.Contents).of t).lookup (Text.ofString name) = some d ↔
          FileGives files path t name d := by
      cases t <;> simp [Config.Schema.Contents.of, FileGives, hempty]
    refine ⟨Settings.merges_ofContents hgiven (fun t name ty d _ hd => ?_) rfl, by decide⟩
    exact absurd hempty hd.1
  · have hpath' : path ≠ [] := fun hempty => hpath (List.isEmpty_iff.2 hempty)
    split at h
    · next text hfile =>
      obtain ⟨body, c, hbody, hdecode, hcontents, hproblems⟩ :=
        Settings.ofFile_eq_ok (Config.mapError_eq_ok_iff.1 h)
      have hgives (t : BlockType) (name : String) (d : Datum) :
          Schema.Gives body t (Text.ofString name) d ↔ FileGives files path t name d := by
        simp [FileGives, hpath', hfile, hbody]
      have hgiven (t : BlockType) (name : String) (d : Datum) :
          (c.of t).lookup (Text.ofString name) = some d ↔ FileGives files path t name d := by
        rw [← hgives]
        exact Config.Schema.lookup_decode_iff (Body.tidy_of_read? hbody) hdecode t
      refine ⟨Settings.merges_ofContents hgiven (fun t name ty d hty hd => ?_) hcontents, hproblems⟩
      exact ((hgives t name d).2 hd).suits hty
    · cases h

/-- Which settings count, for every argument list that is accepted and every configuration file or
none. If the file is accepted on its own, so are the settings with the flags on top: they pass the
check, and each is the flag's where it gives a text that is not empty or a duration that is not zero,
else the file's where it gives a value, else the default. If the file is refused, so it is whatever
the flags say. -/
theorem settings_precedence {arguments : List Text} {o : CommandLine.Options}
    (hread : CommandLine.read arguments = .run o) (files : Files) :
    (∀ base, fileSettings files o.config = .ok base →
      ∃ s, settings files o = .ok s ∧ s.check = .ok s ∧
        s.Merges (FileGives files o.config) o.toFlags) ∧
    ∀ e, fileSettings files o.config = .error e →
      ∀ other : CommandLine.Options, other.config = o.config →
        settings files other = .error e := by
  have hflags := CommandLine.checked_of_read hread
  constructor
  · intro base hbase
    obtain ⟨hmerges, hproblems⟩ := merges_fileSettings hbase
    have hcheck : (base.override o.toFlags).check = .ok (base.override o.toFlags) :=
      Settings.check_eq_ok_iff.2 ⟨Settings.problems_override hproblems hflags, rfl⟩
    refine ⟨_, ?_, hcheck, hmerges.override hflags.tick_nonneg⟩
    unfold settings
    rw [hbase]
    exact Config.mapError_eq_ok_iff.2 hcheck
  · intro e he other hother
    unfold settings
    rw [hother, he]
    rfl

/-- A flag with its level in upper case and a tick in milliseconds count more than the file, whose
negative seed counts as the word that it is. -/
theorem flags_count_before_file :
    let text := Text.ofString ("board \x7b\n  seed = -1\n  layout = null\n\x7d\n" ++
      "scheduler \x7b tick = \"3s\" \x7d\nlog \x7b level = \"warn\" \x7d\n")
    let files := Files.ofList [(Text.ofString "conf", .ok (.file text))]
    let o : CommandLine.Options :=
      { config := Text.ofString "conf"
        board := []
        logLevel := Text.ofString "debug"
        logFormat := []
        tick := ⟨200000000⟩
        render := false
        direct := false
        script := Text.ofString "script" }
    CommandLine.read (["-config", "conf", "-log-level", "DEBUG", "-tick=200ms", "script"].map
      Text.ofString) = .run o ∧
    ∃ s, settings files o = .ok s ∧ s.check = .ok s ∧ s.logLevel = Text.ofString "debug" ∧
      s.tick = ⟨200000000⟩ ∧ (s.seed.toNat : Int) = 18446744073709551615 := by
  intro text files o
  have hread : CommandLine.read (["-config", "conf", "-log-level", "DEBUG", "-tick=200ms",
      "script"].map Text.ofString) = .run o := by decide +kernel
  have hok : (fileSettings files o.config).isOk = true := by decide +kernel
  have hseed : ((Body.read? text).bind fun body => (Config.Schema.decode body).toOption.bind
      fun c => (c.of .board).lookup (Text.ofString "seed")) = some (.int (-1)) := by
    decide +kernel
  simp only [Option.bind_eq_some_iff] at hseed
  obtain ⟨body, hbody, c, hdecode, hlookup⟩ := hseed
  have hdecode' : Config.Schema.decode body = .ok c := by
    rcases hd : Config.Schema.decode body with ds | c' <;> simp [hd, Except.toOption] at hdecode
    rw [hdecode]
  have hgives : FileGives files o.config .board "seed" (.int (-1)) :=
    ⟨by decide, text, body, rfl, hbody,
      (Config.Schema.lookup_decode_iff (Body.tidy_of_read? hbody) hdecode' .board).1 hlookup⟩
  rcases hbase : fileSettings files o.config with e | base
  · rw [hbase] at hok
    cases hok
  · obtain ⟨s, hs, hcheck, hmerges⟩ := (settings_precedence hread files).1 base hbase
    obtain ⟨n, hn, hmod⟩ := (hmerges.seed.2 rfl).1 _ hgives
    cases hn
    exact ⟨hread, s, hs, hcheck, hmerges.logLevel.1 _ rfl, hmerges.tick.1 _ rfl, hmod⟩

end Program

end GridRobot
