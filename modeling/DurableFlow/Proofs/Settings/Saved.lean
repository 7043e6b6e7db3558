import DurableFlow.Proofs.Settings.Stored

/-!
Saving settings succeeds as a whole or changes nothing. Settings that keep the rules of their fields are
saved wherever there is room for the file, unless a number is too long to be written; what is loaded
afterwards are these settings. A save that fails leaves all files and the store as they were, whatever
the store remembers and whatever is in the files.
-/

namespace DurableFlow

namespace CompilerSettings

/-- The settings keep the rules of their fields, however long their numbers are. -/
structure Sound (s : CompilerSettings) : Prop where
  date : isDate s.compatibilityDate = true
  relative : s.mainModule.toList.head? ≠ some '/'
  timeout_pos : 0 < s.httpTimeoutMs
  ttl_nonneg : 0 ≤ s.aiCacheTtl

theorem Sound.valid {s : CompilerSettings} (h : s.Sound) (hwritable : s.Writable) : s.Valid where
  date := h.date
  relative := h.relative
  timeout_pos := h.timeout_pos
  timeout_limited := hwritable.1
  ttl_nonneg := h.ttl_nonneg
  ttl_limited := hwritable.2

end CompilerSettings

namespace Place

theorem ofPath_eq (path : String) : ofPath path = (tidyNames path).foldl follow (start path) := by
  rw [ofPath, tidyNames]
  generalize start path = place
  induction Text.splitAt '/' path generalizing place with
  | nil => rfl
  | cons name names ih =>
      rw [List.foldl_cons, ih, List.filter_cons]
      split
      · rfl
      next hname =>
        have hstay : place.follow name = place := by
          rw [follow, if_pos]
          simpa [or_iff_not_imp_left] using hname
        rw [hstay]

end Place

namespace SettingsStore

def overrideNames : List String :=
  ["STEPFLOW_CYCLE_POLICY", "STEPFLOW_COMPATIBILITY_DATE", "STEPFLOW_HTTP_TIMEOUT_MS"]

def Unset (env : Environment) : Prop := ∀ name ∈ overrideNames, env.lookup name = none

theorem override_of_unset {env : Environment} (h : Unset env) (s : Settings) :
    override env s = ⟨.ok s, []⟩ := by
  have hpolicy : overridePolicy env s.compiler = pure s.compiler := by
    rw [overridePolicy, h "STEPFLOW_CYCLE_POLICY" (by decide)]
  have hdate : overrideDate env s.compiler = pure s.compiler := by
    simp only [overrideDate, h "STEPFLOW_COMPATIBILITY_DATE" (by decide), Option.getD_none, if_true]
  have htimeout : overrideTimeout env s.compiler = pure s.compiler := by
    simp only [overrideTimeout, h "STEPFLOW_HTTP_TIMEOUT_MS" (by decide), Option.getD_none, if_true]
  rw [override, hpolicy, Outcome.pure_bind, hdate, Outcome.pure_bind, htimeout]
  rfl

/-- A place on the way to the directory of the settings file. -/
def OnWay (store : SettingsStore) : Place → Prop :=
  Files.OnWay (Place.start (parentPath store.path)) (tidyNames (parentPath store.path))

/-- The settings were saved: the file is there, and nothing else but directories on the way to it is
new or changed. A store that remembers nothing, such as this one or a new one, loads the settings. -/
structure Saved (store : SettingsStore) (fs : Files) (s : Settings) (after : SettingsStore)
    (fs' : Files) : Prop where
  forgotten : after = { store with cached := none }
  written : ∃ place text, fs'.locate store.path = .ok place ∧
    fs'.get? place = some (.file (.text text)) ∧
    ∀ other, other ≠ place → fs'.get? other = fs.get? other ∨
      store.OnWay other ∧ fs.get? other = none ∧ fs'.get? other = some .directory
  loaded : ∀ (next : SettingsStore) (env : Environment), next.path = store.path →
    next.cached = none → Unset env →
    next.load fs' env = ({ next with cached := some s }, ⟨.ok s, []⟩)

/-- Nothing was saved: the store is the same, and nothing but directories on the way to the file is new
or changed. Not even these are new when the directory of the file was there, and what stood in the place
of the file stands there still. -/
structure Untouched (store : SettingsStore) (fs : Files) (after : SettingsStore) (fs' : Files) :
    Prop where
  store_eq : after = store
  files : Files.Grows store.OnWay fs fs'
  of_located : ∀ place, fs.locate store.path = .ok place → fs' = fs
  place_eq : ".." ∉ tidyNames store.path →
    fs'.get? (Place.ofPath store.path) = fs.get? (Place.ofPath store.path)

variable {store : SettingsStore} {fs made : Files} {place : Place} {s : Settings} {text : String}

/-- The place of a path that leads down all the way is not on the way to its directory. -/
theorem not_onWay_ofPath (hdown : ".." ∉ tidyNames store.path) (hne : tidyNames store.path ≠ []) :
    ¬store.OnWay (Place.ofPath store.path) := by
  rintro ⟨first, hfirst, hfold⟩
  have hnames : ∀ name ∈ tidyNames store.path, isName name = true ∧ name ≠ ".." := by
    rintro name hname
    refine ⟨(of_mem_tidyNames hname).1, ?_⟩
    rintro rfl
    exact hdown hname
  rw [tidyNames_parentPath] at hfirst
  have hsub : first ⊆ tidyNames store.path := fun name hname =>
    List.dropLast_subset _ (hfirst.subset hname)
  rw [Place.ofPath_eq, start_parentPath, Place.foldl_follow hnames,
    Place.foldl_follow fun name hname => hnames name (hsub hname)] at hfold
  have hlength := hfirst.length_le
  rw [← List.append_cancel_left hfold, List.length_dropLast] at hlength
  have hpos := List.length_pos_iff.mpr hne
  omega

/-- Making the directory of the settings file touches nothing else. -/
theorem untouched_makeDirectory (htidy : tidyPath store.path = store.path) (fs : Files) :
    Untouched store fs store (fs.makeDirectory (parentPath store.path)).1 where
  store_eq := rfl
  files := Files.makeDirectory_grows fs (parentPath store.path)
  of_located place hlocate := by rw [Files.makeDirectory_parentPath htidy hlocate]
  place_eq hdown := by
    by_cases hne : tidyNames store.path = []
    · have hground : (Place.ofPath store.path).isGround = true := by
        rw [Place.ofPath_eq, hne]
        exact Place.isGround_start store.path
      rw [Files.get?_ground hground, Files.get?_ground hground]
    · exact (Files.makeDirectory_grows fs (parentPath store.path)).get?_eq
        (not_onWay_ofPath hdown hne)

/-- The file that was written is the only one that is new or changed. -/
theorem saved_set (hs : s.compiler.Valid)
    (hmake : fs.makeDirectory (parentPath store.path) = (made, .ok ()))
    (hlocate : made.locate store.path = .ok place) (hplace : made.get? place ≠ some .directory)
    (htext : fileText s = .ok text) :
    Saved store fs s { store with cached := none } (made.set place (.file (.text text))) where
  forgotten := rfl
  written := by
    refine ⟨place, text, ?_, Files.get?_set_self (Files.isGround_of_not_directory hplace), ?_⟩
    · obtain ⟨hadmissible, hwalk⟩ := Files.locate_eq_ok_iff.mp hlocate
      exact Files.locate_eq_ok_iff.mpr ⟨hadmissible, Files.walk_set hplace hwalk⟩
    · intro other hne
      have hgrows := Files.makeDirectory_grows fs (parentPath store.path)
      rw [hmake] at hgrows
      rw [Files.get?_set_of_ne hne]
      exact hgrows other
  loaded := by
    intro next env hpath hcached hunset
    have hholds : next.Holds (made.set place (.file (.text text))) s :=
      holds_set hs (hpath ▸ hlocate) hplace htext
    have hremembered : next.remembered (made.set place (.file (.text text))) = (s, []) := by
      rw [remembered, hcached]
      exact hholds
    simp only [load, hremembered, override_of_unset hunset, List.nil_append]

theorem save_of_write {after : SettingsStore} {fs' : Files} {result : Except SaveError Unit}
    (h : store.write fs s = (after, fs', result)) :
    store.save fs (some s) = (after, fs', ⟨result, []⟩) := by
  unfold save
  dsimp only
  rw [h]

/-- A write fails or succeeds as a whole. -/
theorem write_all_or_nothing (htidy : tidyPath store.path = store.path) (fs : Files)
    (hs : s.compiler.Sound) :
    (∃ fs', store.write fs s = ({ store with cached := none }, fs', .ok ()) ∧ store.HasRoom fs ∧
        s.compiler.Writable ∧ Saved store fs s { store with cached := none } fs') ∨
      ∃ fs' e, store.write fs s = (store, fs', .error e) ∧
        ¬(store.HasRoom fs ∧ s.compiler.Writable) ∧ Untouched store fs store fs' := by
  have huntouched := untouched_makeDirectory htidy fs
  rcases hmake : fs.makeDirectory (parentPath store.path) with ⟨made, e | ⟨⟨⟩⟩⟩
  · refine .inr ⟨made, .file e, ?_, ?_, by rwa [hmake] at huntouched⟩
    · unfold write
      rw [hmake]
    · rintro ⟨⟨made', place, hmade, -⟩, -⟩
      rw [hmake] at hmade
      exact absurd (congrArg Prod.snd hmade) (by simp)
  by_cases h : (∃ place, made.locate store.path = .ok place ∧ made.get? place ≠ some .directory) ∧
      ∃ text, fileText s = .ok text
  · obtain ⟨⟨place, hlocate, hplace⟩, text, htext⟩ := h
    have hwritable : s.compiler.Writable := (fileText_eq_ok_iff.mp htext).1
    exact .inl ⟨_, write_eq_ok hmake hlocate hplace htext, ⟨made, place, hmake, hlocate, hplace⟩,
      hwritable, saved_set (hs.valid hwritable) hmake hlocate hplace htext⟩
  · obtain ⟨e, hwrite⟩ := write_eq_error hmake h
    refine .inr ⟨made, e, hwrite, ?_, by rwa [hmake] at huntouched⟩
    rintro ⟨⟨made', place, hmade, hroom⟩, hwritable⟩
    obtain rfl : made = made' := congrArg Prod.fst (hmake.symm.trans hmade)
    exact h ⟨⟨place, hroom⟩, _, fileText_eq_ok_iff.mpr ⟨hwritable, rfl⟩⟩

/-- Whatever the store remembers and whatever is in the files: sound settings are saved exactly when there
is room for the file and no number is too long, and then the next load gives them back; otherwise the
save fails and leaves everything as it was. -/
theorem save_all_or_nothing (store : SettingsStore) (htidy : tidyPath store.path = store.path)
    (fs : Files) (s : Settings) (hs : s.compiler.Sound) :
    let after := (store.save fs (some s)).1
    let fs' := (store.save fs (some s)).2.1
    let outcome := (store.save fs (some s)).2.2
    (outcome.result = .ok () ↔ store.HasRoom fs ∧ s.compiler.Writable) ∧
      (outcome.result = .ok () → Saved store fs s after fs') ∧
      (outcome.result ≠ .ok () → Untouched store fs after fs') := by
  rcases write_all_or_nothing htidy fs hs with
    ⟨fs', hwrite, hroom, hwritable, hsaved⟩ | ⟨fs', e, hwrite, hno, huntouched⟩
  · rw [save_of_write hwrite]
    exact ⟨⟨fun _ => ⟨hroom, hwritable⟩, fun _ => rfl⟩, fun _ => hsaved, fun h => absurd rfl h⟩
  · rw [save_of_write hwrite]
    have herror : ¬(Except.error e : Except SaveError Unit) = .ok () := by simp
    exact ⟨⟨fun h => absurd h herror, fun h => absurd h hno⟩, fun h => absurd h herror,
      fun _ => huntouched⟩

/-- A file that cannot be used is replaced, whatever the store remembers; a directory is not. -/
theorem save_over_file_or_directory :
    let store : SettingsStore := { path := "s.json", shownPath := "s.json", cached := some {} }
    let fs (e : FileEntry) : Files := ⟨[(["s.json"], e)]⟩
    let s : Settings := { version := "2.0.0", compiler := { cyclePolicy := .fallback } }
    tidyPath store.path = store.path ∧ s.compiler.Sound ∧
      Saved store (fs (.file (.text "broken"))) s
        (store.save (fs (.file (.text "broken"))) (some s)).1
        (store.save (fs (.file (.text "broken"))) (some s)).2.1 ∧
      (store.save (fs .directory) (some s)).2.2.result ≠ .ok () ∧
      (store.save (fs .directory) (some s)).2.1 = fs .directory := by
  intro store fs s
  have htidy : tidyPath store.path = store.path := by decide
  have hsound : s.compiler.Sound :=
    { date := by decide, relative := by decide, timeout_pos := by decide, ttl_nonneg := by decide }
  have hwritable : s.compiler.Writable :=
    ⟨Decimal.limited_of_lt_pow (by decide), Decimal.limited_of_lt_pow (by decide)⟩
  have hlocate (e : FileEntry) : (fs e).locate store.path = .ok ["s.json"] := by
    have hpieces : Text.splitAt '/' store.path = ["s.json"] := by decide
    have hsize : "s.json".utf8ByteSize ≤ maxName := by decide
    have hstart : Place.start store.path = [] := by decide
    rw [Files.locate_eq_ok_iff, hpieces, hstart, Files.walk_cons rfl hsize]
    exact ⟨by decide, rfl⟩
  have hget (e : FileEntry) : (fs e).get? ["s.json"] = some e := by
    simp [fs, Files.get?, Place.isGround]
  have hmake (e : FileEntry) := Files.makeDirectory_parentPath htidy (hlocate e)
  have hfile := save_all_or_nothing store htidy (fs (.file (.text "broken"))) s hsound
  have hdirectory := save_all_or_nothing store htidy (fs .directory) s hsound
  have hroom : store.HasRoom (fs (.file (.text "broken"))) :=
    ⟨_, _, hmake _, hlocate _, by rw [hget]; simp⟩
  have hfull : ¬store.HasRoom (fs .directory) := by
    rintro ⟨made, place, hmade, hplace, hfree⟩
    obtain rfl : fs .directory = made := congrArg Prod.fst ((hmake _).symm.trans hmade)
    obtain rfl : ["s.json"] = place := Except.ok.inj ((hlocate _).symm.trans hplace)
    exact hfree (hget _)
  have hfailed := fun h => hfull (hdirectory.1.mp h).1
  exact ⟨htidy, hsound, hfile.2.1 (hfile.1.mpr ⟨hroom, hwritable⟩), hfailed,
    (hdirectory.2.2 hfailed).of_located _ (hlocate _)⟩

end SettingsStore

end DurableFlow
