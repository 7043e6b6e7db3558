import DurableFlow.Proofs.Files.Replacing
import DurableFlow.Proofs.Json.Written
import DurableFlow.Proofs.Record.Reading
import DurableFlow.Settings.Store

/-!
Settings in their file. Settings that were read from a file, and the defaults, keep the rules of their
fields. Main statement: settings that keep the rules are read back from the file they were written to.
Replacing one setting by what a text stands for is described field by field, apart from the reader of
records.
-/

namespace DurableFlow

namespace CyclePolicy

theorem ofName?_name (p : CyclePolicy) : ofName? p.name = some p := by
  cases p <;> rfl

theorem ofName?_eq_some_iff {s : String} {p : CyclePolicy} : ofName? s = some p ↔ s = p.name := by
  refine ⟨fun h => ?_, fun h => h ▸ ofName?_name p⟩
  rw [ofName?] at h
  split at h
  next hs => exact Option.some.inj h ▸ hs
  split at h
  next hs => exact Option.some.inj h ▸ hs
  · contradiction

theorem name_inj {p q : CyclePolicy} : p.name = q.name ↔ p = q := by
  cases p <;> cases q <;> decide

theorem read_eq_ok_iff {v : Json} {p : CyclePolicy} : read v = .ok p ↔ v = .str p.name := by
  rw [read, Checked.andThen_eq_ok_iff]
  constructor
  · rintro ⟨s, hs, h⟩
    have hv : v = .str s := by
      cases v with
      | str t =>
          rw [Checked.choice] at hs
          split at hs
          · exact congrArg Json.str (Checked.ok.inj hs)
          · contradiction
      | _ => contradiction
    split at h
    next q hq =>
      obtain rfl := Checked.ok.inj h
      rw [hv, ofName?_eq_some_iff.mp hq]
    · contradiction
  · rintro rfl
    refine ⟨p.name, ?_, ?_⟩
    · cases p <;> rfl
    · rw [ofName?_name]

end CyclePolicy

namespace CompilerSettings

open Checked

theorem readDate_eq_ok_iff {v : Json} {s : String} :
    readDate v = .ok s ↔ v = .str s ∧ isDate s = true := by
  simp only [readDate, andThen_eq_ok_iff, string_eq_ok_iff]
  constructor
  · rintro ⟨t, rfl, h⟩
    split at h
    next hdate =>
      obtain rfl := Checked.ok.inj h
      exact ⟨rfl, hdate⟩
    · contradiction
  · rintro ⟨rfl, hdate⟩
    exact ⟨s, rfl, if_pos hdate⟩

theorem readMainModule_eq_ok_iff {v : Json} {s : String} :
    readMainModule v = .ok s ↔ v = .str s ∧ s.toList.head? ≠ some '/' := by
  simp only [readMainModule, andThen_eq_ok_iff, string_eq_ok_iff]
  constructor
  · rintro ⟨t, rfl, h⟩
    split at h
    · contradiction
    next hhead =>
      obtain rfl := Checked.ok.inj h
      exact ⟨rfl, hhead⟩
  · rintro ⟨rfl, hhead⟩
    exact ⟨s, rfl, if_neg hhead⟩

theorem readTimeout_eq_ok_iff {v : Json} {n : Int} :
    (int v).andThen (above 0) = .ok n ↔ int v = .ok n ∧ 0 < n := by
  simp only [andThen_eq_ok_iff, above_eq_ok_iff]
  constructor
  · rintro ⟨m, hm, rfl, hpos⟩
    exact ⟨hm, hpos⟩
  · rintro ⟨hn, hpos⟩
    exact ⟨n, hn, rfl, hpos⟩

theorem readTtl_eq_ok_iff {v : Json} {n : Int} :
    (int v).andThen (notBelow 0) = .ok n ↔ int v = .ok n ∧ 0 ≤ n := by
  simp only [andThen_eq_ok_iff, notBelow_eq_ok_iff]
  constructor
  · rintro ⟨m, hm, rfl, hle⟩
    exact ⟨hm, hle⟩
  · rintro ⟨hn, hle⟩
    exact ⟨n, hn, rfl, hle⟩

theorem readMembers_eq_ok_iff {ms : Members} {s : CompilerSettings} :
    readMembers ms = .ok s ↔
      fieldD ms ["compatibility_date"] readDate "2024-01-01" = .ok s.compatibilityDate ∧
      fieldD ms ["main_module"] readMainModule "src/index.ts" = .ok s.mainModule ∧
      fieldD ms ["cycle_policy"] CyclePolicy.read .error = .ok s.cyclePolicy ∧
      fieldD ms ["default_http_timeout_ms"] (fun v => (int v).andThen (above 0)) 30000 =
        .ok s.httpTimeoutMs ∧
      fieldD ms ["ai_cache_ttl"] (fun v => (int v).andThen (notBelow 0)) 3600 = .ok s.aiCacheTtl ∧
      fieldD ms ["default_ai_model"] string "@cf/meta/llama-3.1-8b-instruct" = .ok s.aiModel := by
  simp only [readMembers, seq_eq_ok_iff, map_eq_ok_iff]
  constructor
  · rintro ⟨_, ⟨_, ⟨_, ⟨_, ⟨_, ⟨date, hdate, rfl⟩, main, hmain, rfl⟩, policy, hpolicy, rfl⟩, timeout,
      htimeout, rfl⟩, ttl, httl, rfl⟩, model, hmodel, rfl⟩
    exact ⟨hdate, hmain, hpolicy, htimeout, httl, hmodel⟩
  · rintro ⟨hdate, hmain, hpolicy, htimeout, httl, hmodel⟩
    exact ⟨_, ⟨_, ⟨_, ⟨_, ⟨_, ⟨_, hdate, rfl⟩, _, hmain, rfl⟩, _, hpolicy, rfl⟩, _, htimeout, rfl⟩, _,
      httl, rfl⟩, _, hmodel, rfl⟩

/-! ### Rules of the settings -/

structure Valid (s : CompilerSettings) : Prop where
  date : isDate s.compatibilityDate = true
  relative : s.mainModule.toList.head? ≠ some '/'
  timeout_pos : 0 < s.httpTimeoutMs
  timeout_limited : Decimal.Limited s.httpTimeoutMs
  ttl_nonneg : 0 ≤ s.aiCacheTtl
  ttl_limited : Decimal.Limited s.aiCacheTtl

/-- No number of the settings is too long to be written. -/
def Writable (s : CompilerSettings) : Prop :=
  Decimal.Limited s.httpTimeoutMs ∧ Decimal.Limited s.aiCacheTtl

theorem Valid.writable {s : CompilerSettings} (h : s.Valid) : s.Writable :=
  ⟨h.timeout_limited, h.ttl_limited⟩

theorem valid_default : Valid {} where
  date := by decide
  relative := by decide
  timeout_pos := by decide
  timeout_limited := Decimal.limited_of_lt_pow (by decide)
  ttl_nonneg := by decide
  ttl_limited := Decimal.limited_of_lt_pow (by decide)

/-- A field has a property when its default has it and everything that is read for it has it. -/
theorem fieldD_induction {α : Type} (P : α → Prop) {ms : Members} (hms : Json.LimitedMembers ms)
    {name : String} {read : Json → Checked α} {default a : α} (h : fieldD ms [name] read default = .ok a)
    (hdefault : P default) (hread : ∀ v, v.Limited → read v = .ok a → P a) : P a := by
  rw [fieldD_eq_ok_iff] at h
  split at h
  next v hv => exact hread v (hms.get? hv) h
  next => exact h ▸ hdefault

theorem valid_of_readMembers {ms : Members} {s : CompilerSettings} (hms : Json.LimitedMembers ms)
    (h : readMembers ms = .ok s) : s.Valid := by
  obtain ⟨hdate, hmain, -, htimeout, httl, -⟩ := readMembers_eq_ok_iff.mp h
  have hdefault := valid_default
  refine ⟨?_, ?_, ?_, ?_, ?_, ?_⟩
  · exact fieldD_induction (isDate · = true) hms hdate hdefault.date fun v _ hv =>
      (readDate_eq_ok_iff.mp hv).2
  · exact fieldD_induction (·.toList.head? ≠ some '/') hms hmain hdefault.relative fun v _ hv =>
      (readMainModule_eq_ok_iff.mp hv).2
  · exact fieldD_induction (0 < ·) hms htimeout hdefault.timeout_pos fun v _ hv =>
      (readTimeout_eq_ok_iff.mp hv).2
  · exact fieldD_induction Decimal.Limited hms htimeout hdefault.timeout_limited fun v hlimited hv =>
      limited_of_int hlimited (readTimeout_eq_ok_iff.mp hv).1
  · exact fieldD_induction (0 ≤ ·) hms httl hdefault.ttl_nonneg fun v _ hv =>
      (readTtl_eq_ok_iff.mp hv).2
  · exact fieldD_induction Decimal.Limited hms httl hdefault.ttl_limited fun v hlimited hv =>
      limited_of_int hlimited (readTtl_eq_ok_iff.mp hv).1

theorem readMembers_toMembers {s : CompilerSettings} (h : s.Valid) :
    readMembers s.toMembers = .ok s := by
  simp only [readMembers_eq_ok_iff, fieldD_eq_ok_iff]
  exact ⟨readDate_eq_ok_iff.mpr ⟨rfl, h.date⟩, readMainModule_eq_ok_iff.mpr ⟨rfl, h.relative⟩,
    CyclePolicy.read_eq_ok_iff.mpr rfl, readTimeout_eq_ok_iff.mpr ⟨rfl, h.timeout_pos⟩,
    readTtl_eq_ok_iff.mpr ⟨rfl, h.ttl_nonneg⟩, rfl⟩

/-! ### Replacing one setting -/

/-- The settings with the one of that name replaced by what a text stands for; nothing when the text
does not stand for a value of it. -/
def replace? (s : CompilerSettings) (key value : String) : Option CompilerSettings :=
  match key with
  | "compatibility_date" => if isDate value then some { s with compatibilityDate := value } else none
  | "main_module" =>
    if value.toList.head? = some '/' then none else some { s with mainModule := value }
  | "cycle_policy" => (CyclePolicy.ofName? value).map fun p => { s with cyclePolicy := p }
  | "default_http_timeout_ms" =>
    (Numeral.int value).toOption.bind fun n => if 0 < n then some { s with httpTimeoutMs := n } else none
  | "ai_cache_ttl" =>
    (Numeral.int value).toOption.bind fun n => if 0 ≤ n then some { s with aiCacheTtl := n } else none
  | "default_ai_model" => some { s with aiModel := value }
  | _ => none

/-- Whether a text is refused does not depend on the settings. -/
theorem replace?_eq_none_iff (s t : CompilerSettings) {key value : String} :
    s.replace? key value = none ↔ t.replace? key value = none := by
  simp only [replace?]
  split <;> simp

theorem int_str_eq_ok_iff {value : String} {n : Int} :
    int (.str value) = .ok n ↔ (Numeral.int value).toOption = some n := by
  rw [int]
  cases Numeral.int value <;> simp [issue, Except.toOption]

/-- Reading the members with one of them replaced by a text replaces the setting, or refuses the
text. -/
theorem readMembers_set_eq_ok_iff {s c : CompilerSettings} (h : s.Valid) {key : String}
    (hkey : key ∈ keys) (value : String) :
    readMembers (Members.set key (.str value) s.toMembers) = .ok c ↔ s.replace? key value = some c := by
  obtain ⟨hdate, hmain, hpolicy, htimeout, httl, hmodel⟩ :=
    readMembers_eq_ok_iff.mp (readMembers_toMembers h)
  obtain ⟨date, main, policy, timeout, ttl, model⟩ := c
  rw [readMembers_eq_ok_iff]
  -- Its own field is read from the text, and the other five are read as they were written.
  simp only [keys, List.mem_cons, List.not_mem_nil, or_false] at hkey
  rcases hkey with rfl | rfl | rfl | rfl | rfl | rfl
  all_goals
    simp only [fieldD_set_self, fieldD_set_of_ne, ne_eq, String.reduceEq, not_false_eq_true, hdate,
      hmain, hpolicy, htimeout, httl, hmodel, readDate_eq_ok_iff, readMainModule_eq_ok_iff,
      CyclePolicy.read_eq_ok_iff, readTimeout_eq_ok_iff, readTtl_eq_ok_iff, string_eq_ok_iff,
      int_str_eq_ok_iff, Json.str.injEq, Checked.ok.injEq, replace?, Option.bind_eq_some_iff,
      Option.map_eq_some_iff, CyclePolicy.ofName?_eq_some_iff]
    grind

theorem limited_toMembers {s : CompilerSettings} (h : s.Valid) : Json.LimitedMembers s.toMembers :=
  ⟨trivial, trivial, trivial, h.timeout_limited, h.ttl_limited, trivial, trivial⟩

theorem valid_of_replace? {s c : CompilerSettings} (h : s.Valid) {key value : String}
    (hkey : key ∈ keys) (hc : s.replace? key value = some c) : c.Valid :=
  have hvalue : (Json.str value).Limited := trivial
  valid_of_readMembers ((limited_toMembers h).set key hvalue)
    ((readMembers_set_eq_ok_iff h hkey value).mpr hc)

/-- The settings are the same but for the one of that name. -/
def AgreeBut (key : String) (s t : CompilerSettings) : Prop :=
  ∀ k ∈ keys, k ≠ key → Members.get? k s.toMembers = Members.get? k t.toMembers

theorem AgreeBut.symm {key : String} {s t : CompilerSettings} (h : AgreeBut key s t) :
    AgreeBut key t s :=
  fun k hk hne => (h k hk hne).symm

theorem agreeBut_iff {key : String} {s t : CompilerSettings} :
    AgreeBut key s t ↔
      ("compatibility_date" ≠ key → s.compatibilityDate = t.compatibilityDate) ∧
      ("main_module" ≠ key → s.mainModule = t.mainModule) ∧
      ("cycle_policy" ≠ key → s.cyclePolicy = t.cyclePolicy) ∧
      ("default_http_timeout_ms" ≠ key → s.httpTimeoutMs = t.httpTimeoutMs) ∧
      ("ai_cache_ttl" ≠ key → s.aiCacheTtl = t.aiCacheTtl) ∧
      ("default_ai_model" ≠ key → s.aiModel = t.aiModel) := by
  simp only [AgreeBut, keys, List.forall_mem_cons, List.not_mem_nil, false_imp_iff, forall_const,
    and_true]
  simp only [toMembers, Members.get?, String.reduceEq, ↓reduceIte, Option.some.injEq,
    Json.str.injEq, Json.int.injEq, CyclePolicy.name_inj]

/-- Replacing a setting gives the same result exactly where all others are the same. -/
theorem replace?_eq_iff {s t c : CompilerSettings} {key value : String} (hkey : key ∈ keys)
    (hc : s.replace? key value = some c) : t.replace? key value = some c ↔ AgreeBut key s t := by
  obtain ⟨date, main, policy, timeout, ttl, model⟩ := s
  obtain ⟨date', main', policy', timeout', ttl', model'⟩ := t
  simp only [keys, List.mem_cons, List.not_mem_nil, or_false] at hkey
  rcases hkey with rfl | rfl | rfl | rfl | rfl | rfl
  all_goals
    simp only [agreeBut_iff, replace?, Option.bind_eq_some_iff, Option.map_eq_some_iff] at hc ⊢
    grind

end CompilerSettings

/-! ### The text of the file -/

namespace Settings

open Checked

theorem readMembers_eq_ok_iff {ms : Members} {s : Settings} :
    readMembers ms = .ok s ↔
      fieldD ms ["version"] string "1.0.0" = .ok s.version ∧
      fieldD ms ["compiler"] CompilerSettings.read {} = .ok s.compiler := by
  simp only [readMembers, seq_eq_ok_iff, map_eq_ok_iff]
  constructor
  · rintro ⟨_, ⟨version, hversion, rfl⟩, compiler, hcompiler, rfl⟩
    exact ⟨hversion, hcompiler⟩
  · rintro ⟨hversion, hcompiler⟩
    exact ⟨_, ⟨_, hversion, rfl⟩, _, hcompiler, rfl⟩

theorem valid_of_readMembers {ms : Members} {s : Settings} (hms : Json.LimitedMembers ms)
    (h : readMembers ms = .ok s) : s.compiler.Valid := by
  refine CompilerSettings.fieldD_induction CompilerSettings.Valid hms (readMembers_eq_ok_iff.mp h).2
    CompilerSettings.valid_default fun v hv hread => ?_
  obtain ⟨ms, rfl, hread⟩ := record_eq_ok_iff.mp hread
  exact CompilerSettings.valid_of_readMembers hv hread

theorem distinct_toJson (s : Settings) : s.toJson.Distinct := by
  have hcompiler : s.compiler.toJson.Distinct :=
    ⟨by simp [CompilerSettings.toMembers], trivial, trivial, trivial, trivial, trivial, trivial, trivial⟩
  exact ⟨by simp, trivial, hcompiler, trivial⟩

theorem within_toJson_iff {s : Settings} : s.toJson.Within ↔ s.compiler.Writable := by
  constructor
  · rintro ⟨⟨-, ⟨-, -, -, htimeout, httl, -⟩, -⟩, -⟩
    exact ⟨htimeout, httl⟩
  · rintro ⟨htimeout, httl⟩
    exact ⟨⟨trivial, ⟨trivial, trivial, trivial, htimeout, httl, trivial, trivial⟩, trivial⟩,
      by simp [toJson, CompilerSettings.toJson, CompilerSettings.toMembers, Json.nesting,
        Json.nestingMembers, Json.maxDepth]⟩

end Settings

namespace SettingsStore

theorem fileText_eq_ok_iff {s : Settings} {text : String} :
    fileText s = .ok text ↔ s.compiler.Writable ∧ text = s.toJson.pretty := by
  unfold fileText
  rw [Json.write_eq_ok_iff, Settings.within_toJson_iff]

theorem ofText_fileText {s : Settings} (h : s.compiler.Valid) {text : String}
    (htext : fileText s = .ok text) : ofText text = .ok s := by
  have hread : Settings.readMembers [("version", .str s.version), ("compiler", s.compiler.toJson)] =
      .ok s := by
    simp only [Settings.readMembers_eq_ok_iff, Checked.fieldD_eq_ok_iff]
    exact ⟨rfl, CompilerSettings.readMembers_toMembers h⟩
  unfold fileText at htext
  rw [ofText, Json.parse_write s.distinct_toJson htext]
  simp only [Settings.toJson, hread]

theorem fileText_no_return {s : Settings} {text : String} (h : fileText s = .ok text) :
    '\r' ∉ text.toList := by
  unfold fileText at h
  exact Json.write_no_return h

theorem valid_of_ofText {text : String} {s : Settings} (h : ofText text = .ok s) :
    s.compiler.Valid := by
  rw [ofText] at h
  split at h
  · contradiction
  next ms hparse =>
    split at h
    next hread =>
      obtain rfl := Except.ok.inj h
      exact Settings.valid_of_readMembers (Json.limited_of_parse hparse) hread
    · contradiction
    · contradiction
  · contradiction

theorem valid_readFile (store : SettingsStore) (fs : Files) : (store.readFile fs).1.compiler.Valid := by
  simp only [readFile]
  split
  · split
    next hfound =>
      split at hfound
      · contradiction
      · contradiction
      · exact valid_of_ofText hfound
    · exact CompilerSettings.valid_default
  · exact CompilerSettings.valid_default

/-- The file holds these settings, or it is missing and these are the defaults: reading gives no notice
that the file cannot be used. -/
def Holds (store : SettingsStore) (fs : Files) (s : Settings) : Prop := store.readFile fs = (s, [])

theorem Holds.valid {store : SettingsStore} {fs : Files} {s : Settings} (h : store.Holds fs s) :
    s.compiler.Valid := by
  have hvalid := valid_readFile store fs
  rwa [h] at hvalid

/-- There is room for the file: its directory is there or can be made, and no directory stands in its
place. -/
def HasRoom (store : SettingsStore) (fs : Files) : Prop :=
  ∃ made place, fs.makeDirectory (parentPath store.path) = (made, .ok ()) ∧
    made.locate store.path = .ok place ∧ made.get? place ≠ some .directory

variable {store : SettingsStore} {fs made : Files} {place : Place} {s : Settings} {text : String}

/-- The new file takes the place of the old one. -/
theorem fill_eq_ok {temporary : Place} {e : FileEntry} (hfree : fs.get? temporary = none)
    (hlocate : fs.locate store.path = .ok place) (hplace : fs.get? place ≠ some .directory)
    (htext : fileText s = .ok text) :
    store.fill (fs.set temporary e) temporary s = (fs.set place (.file (.text text)), .ok ()) := by
  unfold fill
  rw [htext]
  dsimp only
  rw [Files.set_set, Files.replace_set hfree hlocate hplace]

/-- When it cannot, only the new file is left over. -/
theorem fill_eq_error {temporary : Place} {e : FileEntry} (hfree : fs.get? temporary = none)
    (h : ¬((∃ place, fs.locate store.path = .ok place ∧ fs.get? place ≠ some .directory) ∧
      ∃ text, fileText s = .ok text)) :
    ∃ left e', store.fill (fs.set temporary e) temporary s = (left, .error e') ∧
      left.erase temporary = fs := by
  cases htext : fileText s with
  | error f =>
      refine ⟨fs.set temporary e, .fault f, ?_, Files.erase_set hfree⟩
      unfold fill
      rw [htext]
  | ok text =>
      obtain ⟨e', hreplace⟩ :
          ∃ e', (fs.set temporary (.file (.text text))).replace temporary store.path = .error e' :=
        Files.exists_replace_error hfree fun hroom => h ⟨hroom, text, htext⟩
      refine ⟨fs.set temporary (.file (.text text)), .file e', ?_, Files.erase_set hfree⟩
      unfold fill
      rw [htext]
      dsimp only
      rw [Files.set_set, hreplace]

theorem exists_temporary (hmake : fs.makeDirectory (parentPath store.path) = (made, .ok ())) :
    ∃ temporary, made.get? temporary = none ∧
      made.makeTemporary (parentPath store.path) ".settings." ".tmp" =
        .ok (made.set temporary (.file (.text "")), temporary) := by
  obtain ⟨directory, hlocate, hdirectory⟩ :=
    Files.locate_of_makeDirectory (tidyPath_tidyPath _) hmake
  exact Files.exists_makeTemporary ".tmp" (by decide) hlocate hdirectory

theorem write_eq_ok (hmake : fs.makeDirectory (parentPath store.path) = (made, .ok ()))
    (hlocate : made.locate store.path = .ok place) (hplace : made.get? place ≠ some .directory)
    (htext : fileText s = .ok text) :
    store.write fs s =
      ({ store with cached := none }, made.set place (.file (.text text)), .ok ()) := by
  obtain ⟨temporary, hfree, htemporary⟩ := exists_temporary hmake
  unfold write
  rw [hmake]
  dsimp only
  rw [htemporary]
  dsimp only
  rw [fill_eq_ok hfree hlocate hplace htext]

theorem write_eq_error (hmake : fs.makeDirectory (parentPath store.path) = (made, .ok ()))
    (h : ¬((∃ place, made.locate store.path = .ok place ∧ made.get? place ≠ some .directory) ∧
      ∃ text, fileText s = .ok text)) :
    ∃ e, store.write fs s = (store, made, .error e) := by
  obtain ⟨temporary, hfree, htemporary⟩ := exists_temporary hmake
  obtain ⟨left, e, hfill, herase⟩ := fill_eq_error hfree h
  refine ⟨e, ?_⟩
  unfold write
  rw [hmake]
  dsimp only
  rw [htemporary]
  dsimp only
  rw [hfill]
  dsimp only
  rw [herase]

theorem holds_set (hs : s.compiler.Valid) (hlocate : fs.locate store.path = .ok place)
    (hplace : fs.get? place ≠ some .directory) (htext : fileText s = .ok text) :
    store.Holds (fs.set place (.file (.text text))) s := by
  have hwrite : fs.writeText store.path text = .ok (fs.set place (.file (.text text))) := by
    simp only [Files.writeText, hlocate, if_neg hplace]
  obtain ⟨hcontains, hread⟩ := Files.readText_writeText hwrite (fileText_no_return htext)
  simp only [Holds, readFile, hcontains, if_true, hread, ofText_fileText hs htext]

/-- Where there is room, settings that keep the rules are written and held by the file. -/
theorem write_of_hasRoom (hroom : store.HasRoom fs) (hs : s.compiler.Valid) :
    ∃ fs', store.write fs s = ({ store with cached := none }, fs', .ok ()) ∧ store.Holds fs' s := by
  obtain ⟨made, place, hmake, hlocate, hplace⟩ := hroom
  have htext : fileText s = .ok s.toJson.pretty :=
    fileText_eq_ok_iff.mpr ⟨hs.writable, rfl⟩
  exact ⟨_, write_eq_ok hmake hlocate hplace htext, holds_set hs hlocate hplace htext⟩

theorem hasRoom_of_holds {store : SettingsStore} {fs : Files} {s : Settings}
    (htidy : tidyPath store.path = store.path) (hthere : fs.contains store.path = true)
    (h : store.Holds fs s) : store.HasRoom fs := by
  rw [Files.contains] at hthere
  cases hstatus : fs.status store.path with
  | error cause =>
      rw [hstatus] at hthere
      contradiction
  | ok e =>
      obtain ⟨place, hlocate, hget⟩ := bind_eq_ok hstatus
      have hentry : fs.get? place = some e := by
        split at hget
        · next he => rw [he, Except.ok.inj hget]
        · contradiction
      refine ⟨fs, place, Files.makeDirectory_parentPath htidy hlocate, hlocate, ?_⟩
      intro hdirectory
      -- A directory in the place of the file cannot be read, and reading gives a notice.
      obtain rfl : e = .directory := Option.some.inj (hentry.symm.trans hdirectory)
      have hcontains : fs.contains store.path = true := by rw [Files.contains, hstatus]; rfl
      simp only [Holds, readFile, hcontains, if_true, Files.readText, hstatus] at h
      simp at h

end SettingsStore

end DurableFlow
