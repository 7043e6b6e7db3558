import DurableFlow.Command.Run
import DurableFlow.Proofs.Settings.Override

/-!
Changing a setting from the command line. The command reads the settings, applies the overrides of the
environment, replaces one setting and writes everything back. Main statement: what the file holds
afterwards is the settings with the overrides and the new value, so the other settings are kept exactly
where no override changes them.
-/

namespace DurableFlow.Command

/-! ### What an action gives and leaves -/

/-- The action, started on the one files, ends with that result and leaves the other files, whatever
was printed before it. -/
def Ends {α : Type} (a : Action α) (fs : Files) (r : Except Stop α) (fs' : Files) : Prop :=
  ∀ s : Session, s.files = fs → ∃ s', a.run.run s = (r, s') ∧ s'.files = fs'

theorem run_bind {α β : Type} (a : Action α) (f : α → Action β) (s : Session) :
    (a >>= f).run.run s =
      match a.run.run s with
      | (.ok x, s') => (f x).run.run s'
      | (.error e, s') => (.error e, s') := by
  show (ExceptT.bindCont f (a.run.run s).1).run (a.run.run s).2 = _
  cases a.run.run s with
  | mk r s' => cases r <;> rfl

namespace Ends

variable {α β : Type} {a : Action α} {f : α → Action β} {fs fs' fs'' : Files}

theorem pure (x : α) (fs : Files) : Ends (Pure.pure x) fs (.ok x) fs := fun s hs => ⟨s, rfl, hs⟩

theorem throw (e : Stop) (fs : Files) : Ends (α := α) (throw e) fs (.error e) fs :=
  fun s hs => ⟨s, rfl, hs⟩

theorem bind {x : α} {r : Except Stop β} (ha : Ends a fs (.ok x) fs') (hf : Ends (f x) fs' r fs'') :
    Ends (a >>= f) fs r fs'' := by
  intro s hs
  obtain ⟨s', ha, hs'⟩ := ha s hs
  obtain ⟨s'', hf, hs''⟩ := hf s' hs'
  refine ⟨s'', ?_, hs''⟩
  rw [run_bind, ha]
  exact hf

theorem files (fs : Files) : Ends files fs (.ok fs) fs := by
  intro s hs
  exact ⟨s, by rw [← hs]; rfl, hs⟩

theorem setFiles (fs fs' : Files) : Ends (setFiles fs') fs (.ok ()) fs' :=
  fun s _ => ⟨{ s with files := fs' }, rfl, rfl⟩

theorem echo (line : String) (fs : Files) : Ends (echo line) fs (.ok ()) fs :=
  fun _ hs => ⟨_, rfl, hs⟩

theorem note (line : String) (fs : Files) : Ends (note line) fs (.ok ()) fs :=
  fun _ hs => ⟨_, rfl, hs⟩

theorem failWith (message : String) (fs : Files) :
    Ends (α := α) (failWith message) fs (.error (.exit 1)) fs :=
  .bind (note _ fs) (throw _ fs)

theorem report (w : World) (notices : List Notice) (fs : Files) :
    Ends (report w notices) fs (.ok ()) fs := by
  induction notices with
  | nil => exact .pure () fs
  | cons n notices ih =>
      refine .bind (x := ()) ?_ ih
      dsimp only
      split
      · exact note _ fs
      · split
        · exact note _ fs
        · exact .pure () fs

end Ends

/-! ### Getting to the command -/

/-- A word that is no option is an operand, and ends the options. -/
theorem parse_word (specs : List OptionSpec) {word : String} (hword : word.toList.head? ≠ some '-')
    (args : List String) : parse specs false (word :: args) = some { operands := word :: args } := by
  have hdashes : word ≠ "--" := by
    rintro rfl
    exact hword rfl
  simp [parse, parseArguments, hdashes, hword]

theorem runMain_settings (w : World) (args : List String) :
    runMain w ("settings" :: args) = runGroup { w with verbose := false } settingsGroup args := by
  simp only [runMain, parse_word _ (show "settings".toList.head? ≠ some '-' by decide)]
  rfl

theorem runGroup_set (w : World) (args : List String) :
    runGroup w settingsGroup ("set" :: args) = runSpec w "main settings" setSpec args := by
  simp only [runGroup, parse_word _ (show "set".toList.head? ≠ some '-' by decide)]
  rfl

theorem mem_settingNames {key : String} : key ∈ settingNames ↔ key ∈ CompilerSettings.keys :=
  List.mem_mergeSort

/-- The operands of the command are the name of a setting and any text. -/
theorem Ends.checkParsed_set {p : Parsed} {key value : String} (hops : p.operands = [key, value])
    (hkey : key ∈ CompilerSettings.keys) (fs : Files) :
    Ends (checkParsed setSpec p) fs (.ok ()) fs := by
  have hchoice : settingNames.contains key = true := by
    rw [List.contains_iff_mem]
    exact mem_settingNames.mpr hkey
  have hoptions : p.optionValues setSpec.options = [] := by simp [Parsed.optionValues, setSpec]
  have hoperands : p.operandValues setSpec.operands =
      [(.choice settingNames, some key), (.text, some value)] := by
    simp [Parsed.operandValues, setSpec, hops]
  have hlength : ¬setSpec.operands.length < p.operands.length := by simp [setSpec, hops]
  have hfirst : Ends (checkValue (.choice settingNames) key) fs (.ok ()) fs := by
    simp only [checkValue, hchoice]
    exact .pure () fs
  unfold checkParsed
  rw [hoptions, hoperands, if_neg hlength]
  refine .bind (.pure () fs) (.bind (x := ()) ?_ (.pure () fs))
  exact .bind hfirst (.bind (.pure () fs) (.pure () fs))

theorem Ends.runMain_set {w : World} {args : List String} {p : Parsed} {key value : String}
    (hparse : parse [helpOption] true args = some p) (hhelp : p.has "--help" = false)
    (hops : p.operands = [key, value]) (hkey : key ∈ CompilerSettings.keys) {fs fs' : Files}
    {r : Except Stop Unit} (h : Ends (setSpec.run { w with verbose := false } p) fs r fs') :
    Ends (runMain w ("settings" :: "set" :: args)) fs r fs' := by
  rw [runMain_settings, runGroup_set]
  have hoptions : setSpec.options ++ [helpOption] = [helpOption] := rfl
  unfold runSpec
  rw [hoptions, hparse]
  dsimp only
  rw [if_neg (by simp [hhelp])]
  exact .bind (.checkParsed_set hops hkey fs) h

theorem run_of_ends {w : World} {args : List String} {fs fs' : Files} {r : Except Stop Unit}
    (h : Ends (runMain w args) fs r fs') :
    (run w fs args).files = fs' ∧
      match r with
      | .ok () => (run w fs args).exit = 0 ∧ (run w fs args).escaped = none
      | .error (.exit code) => (run w fs args).exit = code ∧ (run w fs args).escaped = none
      | .error .usage => (run w fs args).exit = 2 ∧ (run w fs args).escaped = none
      | .error (.escaped e) => (run w fs args).exit = 1 ∧ (run w fs args).escaped = some e := by
  obtain ⟨s', hrun, hfiles⟩ := h { files := fs } rfl
  simp only [run, hrun]
  split
  all_goals exact ⟨hfiles, rfl, rfl⟩

/-! ### Changing a setting -/

section Set

variable {w : World} {fs : Files} {p : Parsed} {key value : String} {before : Settings}

/-- The command starts from what the file holds, with the overrides. -/
theorem reload_of_holds (hbefore : (settingsStore w).Holds fs before) :
    (settingsStore w).reload fs w.env =
      ({ settingsStore w with cached := some before }, SettingsStore.override w.env before) := by
  have hread : ({ settingsStore w with cached := none } : SettingsStore).remembered fs =
      (before, []) := hbefore
  simp only [SettingsStore.reload, SettingsStore.load, hread, List.nil_append]

theorem operand_of_pair (hops : p.operands = [key, value]) :
    operand p 0 = key ∧ operand p 1 = value := by
  simp [operand, hops]

/-- An override that cannot be read ends the command before anything is written. -/
theorem Ends.set_of_fault {f : Fault} (hbefore : (settingsStore w).Holds fs before)
    (hoverride : (SettingsStore.override w.env before).result = .error f) :
    Ends (setSpec.run w p) fs (.error (.escaped (.fault f))) fs := by
  refine .bind (.files fs) ?_
  rw [reload_of_holds hbefore]
  dsimp only
  refine .bind (.report w _ fs) ?_
  rw [hoverride]
  exact .throw _ fs

variable {current : Settings}

/-- A text that stands for no value of the setting is refused before anything is written. -/
theorem Ends.set_of_refused (hbefore : (settingsStore w).Holds fs before)
    (hoverride : (SettingsStore.override w.env before).result = .ok current)
    (hops : p.operands = [key, value]) (hkey : key ∈ CompilerSettings.keys)
    (hrefused : current.compiler.replace? key value = none) :
    Ends (setSpec.run w p) fs (.error (.exit 1)) fs := by
  have hvalid := (SettingsStore.valid_override (hbefore.valid) hoverride).1
  have hread (c : CompilerSettings) :
      CompilerSettings.readMembers (Members.set key (.str value) current.compiler.toMembers) ≠
        .ok c := by
    rw [Ne, CompilerSettings.readMembers_set_eq_ok_iff hvalid hkey, hrefused]
    simp
  obtain ⟨hfirst, hsecond⟩ := operand_of_pair hops
  refine .bind (.files fs) ?_
  rw [reload_of_holds hbefore]
  dsimp only
  refine .bind (.report w _ fs) ?_
  rw [hoverride, hfirst, hsecond]
  dsimp only
  split
  next c hc => exact absurd hc (hread c)
  · exact .failWith _ fs
  · exact .failWith _ fs

/-- A text that stands for a value of the setting is written with the overrides. -/
theorem Ends.set_of_accepted (hbefore : (settingsStore w).Holds fs before)
    (hroom : (settingsStore w).HasRoom fs)
    (hoverride : (SettingsStore.override w.env before).result = .ok current)
    (hops : p.operands = [key, value]) (hkey : key ∈ CompilerSettings.keys) {c : CompilerSettings}
    (hc : current.compiler.replace? key value = some c) :
    ∃ fs', Ends (setSpec.run w p) fs (.ok ()) fs' ∧
      (settingsStore w).Holds fs' { before with compiler := c } := by
  obtain ⟨hvalid, hversion⟩ := SettingsStore.valid_override (hbefore.valid) hoverride
  have hread := (CompilerSettings.readMembers_set_eq_ok_iff hvalid hkey value).mpr hc
  obtain ⟨hfirst, hsecond⟩ := operand_of_pair hops
  have hroom : ({ settingsStore w with cached := some before } : SettingsStore).HasRoom fs := hroom
  have hupdated : { current with compiler := c } = { before with compiler := c } := by rw [hversion]
  obtain ⟨fs', hwrite, hholds⟩ := SettingsStore.write_of_hasRoom hroom
    (s := { before with compiler := c }) (CompilerSettings.valid_of_replace? hvalid hkey hc)
  refine ⟨fs', ?_, hholds⟩
  refine .bind (.files fs) ?_
  rw [reload_of_holds hbefore]
  dsimp only
  refine .bind (.report w _ fs) ?_
  rw [hoverride, hfirst, hsecond]
  dsimp only
  rw [hread]
  dsimp only
  rw [hupdated]
  refine .bind (.files fs) ?_
  simp only [SettingsStore.save, hwrite]
  exact .bind (.setFiles fs fs') (.echo _ fs')

end Set

/-- The path of the settings file is tidy, so there is room for a file that can be used. -/
theorem hasRoom_settingsStore {w : World} {fs : Files} {before : Settings}
    (hbefore : (settingsStore w).Holds fs before)
    (hroom : fs.contains (settingsStore w).path = true ∨ (settingsStore w).HasRoom fs) :
    (settingsStore w).HasRoom fs := by
  rcases hroom with hthere | hroom
  · exact SettingsStore.hasRoom_of_holds (tidyPath_tidyPath _) hthere hbefore
  · exact hroom

section Run

variable {w : World} {fs : Files} {args : List String} {p : Parsed} {key value : String}
  {before current : Settings}

theorem run_set_of_fault (hparse : parse [helpOption] true args = some p)
    (hhelp : p.has "--help" = false) (hops : p.operands = [key, value])
    (hkey : key ∈ CompilerSettings.keys) (hbefore : (settingsStore w).Holds fs before) {f : Fault}
    (hoverride : (SettingsStore.override w.env before).result = .error f) :
    (run w fs ("settings" :: "set" :: args)).files = fs ∧
      (run w fs ("settings" :: "set" :: args)).exit = 1 ∧
      (run w fs ("settings" :: "set" :: args)).escaped = some (.fault f) :=
  run_of_ends (.runMain_set hparse hhelp hops hkey (.set_of_fault hbefore hoverride))

theorem run_set_of_refused (hparse : parse [helpOption] true args = some p)
    (hhelp : p.has "--help" = false) (hops : p.operands = [key, value])
    (hkey : key ∈ CompilerSettings.keys) (hbefore : (settingsStore w).Holds fs before)
    (hoverride : (SettingsStore.override w.env before).result = .ok current)
    (hrefused : current.compiler.replace? key value = none) :
    (run w fs ("settings" :: "set" :: args)).files = fs ∧
      (run w fs ("settings" :: "set" :: args)).exit = 1 ∧
      (run w fs ("settings" :: "set" :: args)).escaped = none :=
  run_of_ends (.runMain_set hparse hhelp hops hkey
    (.set_of_refused hbefore hoverride hops hkey hrefused))

theorem run_set_of_accepted (hparse : parse [helpOption] true args = some p)
    (hhelp : p.has "--help" = false) (hops : p.operands = [key, value])
    (hkey : key ∈ CompilerSettings.keys) (hbefore : (settingsStore w).Holds fs before)
    (hroom : (settingsStore w).HasRoom fs)
    (hoverride : (SettingsStore.override w.env before).result = .ok current) {c : CompilerSettings}
    (hc : current.compiler.replace? key value = some c) :
    (run w fs ("settings" :: "set" :: args)).exit = 0 ∧
      (settingsStore w).Holds (run w fs ("settings" :: "set" :: args)).files
        { before with compiler := c } := by
  -- The command runs in a world that is told to be quiet, which has the same store.
  obtain ⟨fs', hends, hholds⟩ :=
    Ends.set_of_accepted (w := { w with verbose := false }) hbefore hroom hoverride hops hkey hc
  have hending : (run w fs ("settings" :: "set" :: args)).files = fs' ∧
      (run w fs ("settings" :: "set" :: args)).exit = 0 ∧
      (run w fs ("settings" :: "set" :: args)).escaped = none :=
    run_of_ends (.runMain_set hparse hhelp hops hkey hends)
  rw [hending.1]
  exact ⟨hending.2.1, hholds⟩

/-- Setting a value writes the settings with the overrides of the environment and the new value. So it
changes nothing but that setting exactly when the overrides can be read and leave all other settings as
they are in the file; a text that stands for no value leaves the files as they were. The file is there
already, or there is room for it. -/
theorem set_keeps_others_iff (hparse : parse [helpOption] true args = some p)
    (hhelp : p.has "--help" = false) (hops : p.operands = [key, value])
    (hkey : key ∈ CompilerSettings.keys) (hbefore : (settingsStore w).Holds fs before)
    (hroom : fs.contains (settingsStore w).path = true ∨ (settingsStore w).HasRoom fs) :
    let ending := run w fs ("settings" :: "set" :: args)
    let overridden := (SettingsStore.override w.env before).result
    (before.compiler.replace? key value = none → ending.exit = 1 ∧ ending.files = fs) ∧
    (∀ f, overridden = .error f → ending.escaped = some (.fault f) ∧ ending.files = fs) ∧
    (∀ current, overridden = .ok current → ∀ c, current.compiler.replace? key value = some c →
      ending.exit = 0 ∧ (settingsStore w).Holds ending.files { before with compiler := c }) ∧
    ∀ c, before.compiler.replace? key value = some c →
      (ending.exit = 0 ∧ (settingsStore w).Holds ending.files { before with compiler := c } ↔
        ∃ current, overridden = .ok current ∧
          CompilerSettings.AgreeBut key current.compiler before.compiler) := by
  have hroom := hasRoom_settingsStore hbefore hroom
  have hfault := @run_set_of_fault w fs args p key value before hparse hhelp hops hkey hbefore
  have hrefused := fun current =>
    @run_set_of_refused w fs args p key value before current hparse hhelp hops hkey hbefore
  have haccepted := fun current =>
    @run_set_of_accepted w fs args p key value before current hparse hhelp hops hkey hbefore hroom
  generalize run w fs ("settings" :: "set" :: args) = ending at hfault hrefused haccepted ⊢
  generalize (SettingsStore.override w.env before).result = overridden at hfault hrefused haccepted ⊢
  dsimp only
  refine ⟨fun hnone => ?_, fun f hf => ?_, fun current hcurrent c hc => haccepted current hcurrent hc,
    fun c hc => ⟨fun h => ?_, ?_⟩⟩
  · cases overridden with
    | error f =>
        obtain ⟨hfiles, hexit, -⟩ := hfault rfl
        exact ⟨hexit, hfiles⟩
    | ok current =>
        obtain ⟨hfiles, hexit, -⟩ := hrefused current rfl
          ((CompilerSettings.replace?_eq_none_iff _ _).mp hnone)
        exact ⟨hexit, hfiles⟩
  · obtain ⟨hfiles, -, hescaped⟩ := hfault hf
    exact ⟨hescaped, hfiles⟩
  · cases overridden with
    | error f =>
        have hexit := (hfault rfl).2.1
        rw [h.1] at hexit
        contradiction
    | ok current =>
        refine ⟨current, rfl, ?_⟩
        cases hc' : current.compiler.replace? key value with
        | none =>
            rw [(CompilerSettings.replace?_eq_none_iff _ before.compiler).mp hc'] at hc
            contradiction
        | some c' =>
            -- The file holds one settings only.
            have hsame : ({ before with compiler := c } : Settings) = { before with compiler := c' } :=
              congrArg Prod.fst (h.2.symm.trans (haccepted current rfl hc').2)
            obtain rfl : c = c' := congrArg Settings.compiler hsame
            exact (CompilerSettings.replace?_eq_iff hkey hc').mp hc
  · rintro ⟨current, hcurrent, hagree⟩
    exact haccepted current hcurrent
      ((CompilerSettings.replace?_eq_iff hkey hc).mpr (CompilerSettings.AgreeBut.symm hagree))

end Run

/-- A home without a settings file, and the variables of the environment. -/
def emptyHome (env : Environment) : World where
  env := env
  home := "."
  shownHome := "."
  describe _ := ""

theorem path_emptyHome (env : Environment) :
    (settingsStore (emptyHome env)).path = ".stepflow/settings.json" := by
  simp only [settingsStore, emptyHome]
  decide

theorem hasRoom_emptyHome (env : Environment) : (settingsStore (emptyHome env)).HasRoom {} := by
  rw [SettingsStore.HasRoom, path_emptyHome]
  exact ⟨{ entries := [([".stepflow"], .directory)] }, [".stepflow", "settings.json"],
    by decide, by decide, by decide⟩

theorem holds_emptyHome (env : Environment) : (settingsStore (emptyHome env)).Holds {} {} := by
  have hmissing : ({} : Files).contains (settingsStore (emptyHome env)).path = false := by
    rw [path_emptyHome]
    decide
  simp [SettingsStore.Holds, SettingsStore.readFile, hmissing]

/-- The one override is of the setting that is changed, and the new value stands. -/
theorem set_keeps_others_timeout :
    let w := emptyHome [("STEPFLOW_HTTP_TIMEOUT_MS", "5000")]
    let ending := run w {} ["settings", "set", "default_http_timeout_ms", "250"]
    ending.exit = 0 ∧
      (settingsStore w).Holds ending.files { compiler := { httpTimeoutMs := 250 } } := by
  intro w ending
  have hparse : parse [helpOption] true ["default_http_timeout_ms", "250"] =
      some { operands := ["default_http_timeout_ms", "250"] } := rfl
  have hoverride : (SettingsStore.override w.env {}).result =
      .ok { compiler := { httpTimeoutMs := 5000 } } := by decide
  have hagree : CompilerSettings.AgreeBut "default_http_timeout_ms" { httpTimeoutMs := 5000 } {} := by
    simp [CompilerSettings.agreeBut_iff]
  have hset := set_keeps_others_iff hparse (by decide) rfl (by decide) (holds_emptyHome _)
    (.inr (hasRoom_emptyHome _)) (w := w)
  exact (hset.2.2.2 { httpTimeoutMs := 250 } (by decide)).mpr ⟨_, hoverride, hagree⟩

/-- An override of another setting gets into the file, and stays there without the variable. -/
theorem set_writes_override :
    let w := emptyHome [("STEPFLOW_CYCLE_POLICY", "fallback")]
    let ending := run w {} ["settings", "set", "ai_cache_ttl", "60"]
    (settingsStore w).Holds {} {} ∧ ending.exit = 0 ∧
      (settingsStore w).Holds ending.files
        { compiler := { aiCacheTtl := 60, cyclePolicy := .fallback } } ∧
      ¬(settingsStore w).Holds ending.files { compiler := { aiCacheTtl := 60 } } := by
  intro w ending
  have hparse : parse [helpOption] true ["ai_cache_ttl", "60"] =
      some { operands := ["ai_cache_ttl", "60"] } := rfl
  have hoverride : (SettingsStore.override w.env {}).result =
      .ok { compiler := { cyclePolicy := .fallback } } := by decide +kernel
  have hreplace : ({ cyclePolicy := .fallback } : CompilerSettings).replace? "ai_cache_ttl" "60" =
      some { aiCacheTtl := 60, cyclePolicy := .fallback } := by decide
  have hset := run_set_of_accepted hparse (by decide) rfl (by decide) (holds_emptyHome _)
    (hasRoom_emptyHome _) hoverride hreplace (w := w)
  refine ⟨holds_emptyHome _, hset.1, hset.2, fun hclaimed => ?_⟩
  have hpolicy : CyclePolicy.fallback = CyclePolicy.error :=
    congrArg (fun found => found.1.compiler.cyclePolicy) (hset.2.symm.trans hclaimed)
  exact absurd hpolicy (by decide)

end DurableFlow.Command
