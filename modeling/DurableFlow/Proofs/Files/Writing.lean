import DurableFlow.Files.Tree
import DurableFlow.Proofs.Outcome
import DurableFlow.Proofs.Text.Split
import Mathlib.Data.List.Basic

/-!
Writing to files. A path that was tidied names its directory and its file apart, so the directory of a
file that can be found is there and need not be made. A text that was written is read back, as long as
its line breaks are line feeds.
-/

namespace DurableFlow

open Text (splitAt)

/-! ### Paths -/

/-- A part of a path that leads somewhere else. -/
def isName (name : String) : Bool := name ≠ "" && name ≠ "."

theorem splitAt_slash (s : String) : splitAt '/' ("/" ++ s) = "" :: splitAt '/' s := by
  simpa using @Text.splitAt_append '/' "" (by simp) s

theorem splitAt_intercalate {names : List String} (hne : names ≠ [])
    (h : ∀ name ∈ names, '/' ∉ name.toList) : splitAt '/' ("/".intercalate names) = names :=
  Text.splitAt_intercalate hne h

theorem tidyNames_slash (s : String) : tidyNames ("/" ++ s) = tidyNames s := by
  rw [tidyNames, splitAt_slash]
  rfl

theorem tidyNames_intercalate {names : List String} (h : ∀ name ∈ names, '/' ∉ name.toList) :
    tidyNames ("/".intercalate names) = names.filter isName := by
  cases names with
  | nil => rfl
  | cons name names => rw [tidyNames, splitAt_intercalate (by simp) h]; rfl

theorem of_mem_tidyNames {path name : String} (h : name ∈ tidyNames path) :
    isName name = true ∧ '/' ∉ name.toList := by
  rw [tidyNames, List.mem_filter] at h
  exact ⟨h.2, Text.not_mem_of_mem_splitAt h.1⟩

def formed (absolute : Bool) (names : List String) : String :=
  if absolute then "/" ++ "/".intercalate names
  else if names.isEmpty then "."
  else "/".intercalate names

theorem tidyPath_eq (path : String) :
    tidyPath path = formed (Place.isAbsolute path) (tidyNames path) := rfl

variable {names : List String}

theorem isAbsolute_slash (s : String) : Place.isAbsolute ("/" ++ s) = true := by
  simp [Place.isAbsolute]

theorem isAbsolute_intercalate (h : ∀ name ∈ names, isName name = true ∧ '/' ∉ name.toList) :
    Place.isAbsolute ("/".intercalate names) = false := by
  cases names with
  | nil => rfl
  | cons name names =>
      obtain ⟨hname, hslash⟩ := h name List.mem_cons_self
      have hne : name.toList ≠ [] := by
        intro hnil
        rw [isName, String.toList_eq_nil_iff.mp hnil] at hname
        contradiction
      have hfront : ∃ rest, "/".intercalate (name :: names) = name ++ rest := by
        cases names with
        | nil => exact ⟨"", by simp⟩
        | cons next names => exact ⟨_, by rw [String.intercalate_cons_cons, String.append_assoc]⟩
      obtain ⟨rest, hrest⟩ := hfront
      obtain ⟨c, cs, hcs⟩ := List.exists_cons_of_ne_nil hne
      have hc : c ≠ '/' := by
        rintro rfl
        exact hslash (hcs ▸ List.mem_cons_self)
      simp [Place.isAbsolute, hrest, hcs, hc]

theorem splitAt_formed (absolute : Bool) (h : ∀ name ∈ names, '/' ∉ name.toList) :
    splitAt '/' (formed absolute names) =
      if names.isEmpty then (if absolute then ["", ""] else ["."])
      else if absolute then "" :: names
      else names := by
  cases names with
  | nil => cases absolute <;> rfl
  | cons name names =>
      have hpieces := splitAt_intercalate (by simp) h
      cases absolute with
      | true => simp [formed, splitAt_slash, hpieces]
      | false => simp [formed, hpieces]

theorem filter_isName (h : ∀ name ∈ names, isName name = true ∧ '/' ∉ name.toList) :
    names.filter isName = names :=
  List.filter_eq_self.mpr fun name hname => (h name hname).1

theorem tidyNames_formed (absolute : Bool)
    (h : ∀ name ∈ names, isName name = true ∧ '/' ∉ name.toList) :
    tidyNames (formed absolute names) = names := by
  have hnames : tidyNames ("/".intercalate names) = names := by
    rw [tidyNames_intercalate fun name hname => (h name hname).2, filter_isName h]
  cases absolute with
  | true =>
      show tidyNames ("/" ++ "/".intercalate names) = names
      rw [tidyNames_slash, hnames]
  | false =>
      cases names with
      | nil => rfl
      | cons name names => exact hnames

theorem isAbsolute_formed (absolute : Bool)
    (h : ∀ name ∈ names, isName name = true ∧ '/' ∉ name.toList) :
    Place.isAbsolute (formed absolute names) = absolute := by
  cases absolute with
  | true => exact isAbsolute_slash _
  | false =>
      cases names with
      | nil => rfl
      | cons name names =>
          have hformed : formed false (name :: names) = "/".intercalate (name :: names) := rfl
          rw [hformed]
          exact isAbsolute_intercalate h

theorem tidyNames_tidyPath (path : String) : tidyNames (tidyPath path) = tidyNames path :=
  tidyNames_formed _ fun _ h => of_mem_tidyNames h

theorem isAbsolute_tidyPath (path : String) :
    Place.isAbsolute (tidyPath path) = Place.isAbsolute path :=
  isAbsolute_formed _ fun _ h => of_mem_tidyNames h

theorem tidyPath_tidyPath (path : String) : tidyPath (tidyPath path) = tidyPath path := by
  rw [tidyPath_eq (tidyPath path), isAbsolute_tidyPath, tidyNames_tidyPath, ← tidyPath_eq]

theorem parentPath_eq (path : String) :
    parentPath path = formed (Place.isAbsolute path) (tidyNames path).dropLast := by
  have hnames : ∀ name ∈ tidyNames path, isName name = true ∧ '/' ∉ name.toList :=
    fun _ h => of_mem_tidyNames h
  have hinit : ∀ name ∈ (tidyNames path).dropLast, isName name = true ∧ '/' ∉ name.toList :=
    fun name h => hnames name (List.dropLast_subset _ h)
  have hpieces := splitAt_formed (Place.isAbsolute path) fun name h => (hnames name h).2
  rw [← tidyPath_eq] at hpieces
  rw [parentPath, hpieces, tidyPath_eq]
  generalize tidyNames path = names at hinit
  -- From the root, the path has an empty piece before its names, and tidying drops it again.
  cases Place.isAbsolute path with
  | true =>
      simp only [if_true, isAbsolute_slash, tidyNames_slash]
      cases names with
      | nil => rfl
      | cons name names =>
          rw [if_neg (by simp), List.dropLast_cons_of_ne_nil (by simp), tidyNames_intercalate,
            List.filter_cons_of_neg (by decide), filter_isName hinit]
          intro piece hpiece
          rcases List.mem_cons.mp hpiece with rfl | hpiece
          · simp
          · exact (hinit piece hpiece).2
  | false =>
      cases names with
      | nil => rfl
      | cons name names =>
          simp only [Bool.false_eq_true, if_false, List.isEmpty_cons]
          rw [isAbsolute_intercalate hinit,
            tidyNames_intercalate fun piece hpiece => (hinit piece hpiece).2, filter_isName hinit]

theorem tidyNames_parentPath (path : String) :
    tidyNames (parentPath path) = (tidyNames path).dropLast := by
  rw [parentPath_eq, tidyNames_formed _ fun _ h => of_mem_tidyNames (List.dropLast_subset _ h)]

theorem start_parentPath (path : String) : Place.start (parentPath path) = Place.start path := by
  rw [Place.start, Place.start, parentPath_eq,
    isAbsolute_formed _ fun _ h => of_mem_tidyNames (List.dropLast_subset _ h)]

namespace Files

/-! ### Entries -/

variable {fs fs' : Files} {place : Place} {e : FileEntry}

theorem lookup_setEntry_self (entries : List (Place × FileEntry)) :
    (setEntry place e entries).lookup place = some e := by
  induction entries with
  | nil => simp [setEntry]
  | cons entry entries ih =>
      obtain ⟨p, old⟩ := entry
      rw [setEntry]
      split
      next hp => simp [hp]
      next hp => rw [List.lookup_cons, beq_false_of_ne (Ne.symm hp), ih]

theorem lookup_setEntry_of_ne {other : Place} (h : other ≠ place)
    (entries : List (Place × FileEntry)) :
    (setEntry place e entries).lookup other = entries.lookup other := by
  induction entries with
  | nil => simp [setEntry, List.lookup_cons, beq_false_of_ne h]
  | cons entry entries ih =>
      obtain ⟨p, old⟩ := entry
      rw [setEntry]
      split
      next hp =>
        subst hp
        simp only [List.lookup_cons, beq_false_of_ne h]
      next hp => rw [List.lookup_cons, List.lookup_cons, ih]

theorem get?_set_self (hplace : place.isGround = false) : (fs.set place e).get? place = some e := by
  rw [get?, hplace, set, if_neg (by decide), lookup_setEntry_self]

theorem get?_set_of_ne {other : Place} (h : other ≠ place) :
    (fs.set place e).get? other = fs.get? other := by
  rw [get?, get?, set, lookup_setEntry_of_ne h]

theorem isGround_of_not_directory (h : fs.get? place ≠ some .directory) : place.isGround = false := by
  rw [get?] at h
  split at h
  · contradiction
  next hplace => simpa using hplace

theorem enter_eq_ok_iff : fs.enter place = .ok () ↔ fs.get? place = some .directory := by
  rw [enter]
  split <;> simp_all

theorem walk_cons_eq_ok {name : String} {names : List String} {found : Place}
    (h : fs.walk place (name :: names) = .ok found) :
    fs.get? place = some .directory ∧ name.utf8ByteSize ≤ maxName ∧
      fs.walk (place.follow name) names = .ok found := by
  rw [walk] at h
  obtain ⟨_, henter, h⟩ := bind_eq_ok h
  split at h
  · contradiction
  next hname => exact ⟨enter_eq_ok_iff.mp henter, Nat.not_lt.mp hname, h⟩

theorem walk_cons {name : String} {names : List String} (hdirectory : fs.get? place = some .directory)
    (hname : name.utf8ByteSize ≤ maxName) :
    fs.walk place (name :: names) = fs.walk (place.follow name) names := by
  rw [walk, enter_eq_ok_iff.mpr hdirectory, if_neg (Nat.not_lt.mpr hname)]
  rfl

/-- What stands at a place that is no directory plays no part in a walk. -/
theorem walk_set {names : List String} {start found : Place} (hplace : fs.get? place ≠ some .directory)
    (h : fs.walk start names = .ok found) : (fs.set place e).walk start names = .ok found := by
  induction names generalizing start with
  | nil => exact h
  | cons name names ih =>
      obtain ⟨hstart, hname, h⟩ := walk_cons_eq_ok h
      have hne : start ≠ place := by
        rintro rfl
        exact hplace hstart
      rw [walk_cons ((get?_set_of_ne hne).trans hstart) hname]
      exact ih h

theorem walk_concat_eq_ok {name : String} {names : List String} {start found : Place}
    (h : fs.walk start (names ++ [name]) = .ok found) :
    ∃ parent, fs.walk start names = .ok parent ∧ fs.get? parent = some .directory ∧
      name.utf8ByteSize ≤ maxName ∧ parent.follow name = found := by
  induction names generalizing start with
  | nil =>
      obtain ⟨hstart, hname, h⟩ := walk_cons_eq_ok h
      exact ⟨start, rfl, hstart, hname, Except.ok.inj h⟩
  | cons first names ih =>
      obtain ⟨hstart, hfirst, h⟩ := walk_cons_eq_ok h
      obtain ⟨parent, hparent, hrest⟩ := ih h
      exact ⟨parent, (walk_cons hstart hfirst).trans hparent, hrest⟩

/-! ### Finding a file -/

theorem locate_eq_ok {path : String} (htidy : tidyPath path = path) (h : fs.locate path = .ok place) :
    admissible path = .ok () ∧ fs.walk (Place.start path) (tidyNames path) = .ok place := by
  obtain ⟨_, hadmissible, hwalk⟩ := bind_eq_ok h
  refine ⟨hadmissible, ?_⟩
  have hpieces := splitAt_formed (Place.isAbsolute path) fun _ h => (@of_mem_tidyNames path _ h).2
  rw [← tidyPath_eq, htidy] at hpieces
  rw [hpieces] at hwalk
  rw [Place.start] at hwalk ⊢
  generalize tidyNames path = names at hwalk ⊢
  generalize Place.isAbsolute path = absolute at hwalk ⊢
  -- The root and the directory of the tree are entered through an empty name or a dot.
  cases absolute with
  | true =>
      cases names with
      | nil => exact (walk_cons_eq_ok (walk_cons_eq_ok hwalk).2.2).2.2
      | cons name names => exact (walk_cons_eq_ok hwalk).2.2
  | false =>
      cases names with
      | nil => exact (walk_cons_eq_ok hwalk).2.2
      | cons name names => exact hwalk

theorem admissible_eq_ok_iff {path : String} :
    admissible path = .ok () ↔
      Char.ofNat 0 ∉ path.toList ∧ path.utf8ByteSize ≤ maxPath ∧ path ≠ "" := by
  rw [admissible]
  split
  next hnull => simpa using fun h => absurd (by simpa using hnull) h
  next hnull =>
    split
    next hsize => simp; omega
    next hsize =>
      split
      next hempty => simp [hempty]
      next hempty => simp_all

theorem admissible_parentPath {path : String} (htidy : tidyPath path = path)
    (h : admissible path = .ok ()) : admissible (parentPath path) = .ok () := by
  have hnames : ∀ name ∈ (tidyNames path).dropLast, isName name = true ∧ '/' ∉ name.toList :=
    fun _ h => of_mem_tidyNames (List.dropLast_subset _ h)
  rw [parentPath_eq]
  rw [← htidy, tidyPath_eq] at h
  generalize Place.isAbsolute path = absolute at h ⊢
  rcases List.eq_nil_or_concat (tidyNames path) with hnil | ⟨init, last, hconcat⟩
  · rw [hnil] at h ⊢
    exact h
  rw [hconcat, List.concat_eq_append] at h hnames ⊢
  rw [List.dropLast_concat] at hnames ⊢
  by_cases hinit : init = []
  · subst hinit
    cases absolute <;> decide
  have hpath : formed absolute (init ++ [last]) = formed absolute init ++ ("/" ++ last) := by
    cases absolute <;>
      simp [formed, String.intercalate_append_of_ne_nil hinit, hinit, String.append_assoc]
  rw [hpath, admissible_eq_ok_iff, String.toList_append, List.mem_append, not_or,
    String.utf8ByteSize_append] at h
  refine admissible_eq_ok_iff.mpr ⟨h.1.1, by omega, fun hempty => hinit ?_⟩
  rw [← tidyNames_formed absolute hnames, hempty]
  rfl

/-! ### Directories that are there -/

theorem makeAll_of_directory {start : Place} {names : List String} (h : fs.walk start names = .ok place)
    (hplace : fs.get? place = some .directory) :
    fs.makeAll start names names.length = (fs, none) := by
  rcases List.eq_nil_or_concat names with rfl | ⟨init, last, hconcat⟩
  · rfl
  rw [List.concat_eq_append] at hconcat
  subst hconcat
  obtain ⟨parent, hparent, hdirectory, hlast, rfl⟩ := walk_concat_eq_ok h
  have hmake : fs.makeLast start (init ++ [last]) = .error .taken := by
    rw [makeLast, List.dropLast_concat, hparent, List.getLast?_concat]
    simp only [bind, Except.bind, enter_eq_ok_iff.mpr hdirectory, Option.getD_some,
      if_neg (Nat.not_lt.mpr hlast), pure, Except.pure, hplace, Option.isSome_some, if_true]
    rfl
  have hensure : fs.ensureLast start (init ++ [last]) = .ok fs := by
    simp [ensureLast, hmake, h, hplace, Except.toOption]
  have hlength : (init ++ [last]).length = init.length + 1 := by simp
  rw [hlength, makeAll, ← hlength, List.take_length]
  simp [hmake, hensure]

theorem makeDirectory_parentPath {path : String} (htidy : tidyPath path = path)
    (h : fs.locate path = .ok place) : fs.makeDirectory (parentPath path) = (fs, .ok ()) := by
  obtain ⟨hadmissible, hwalk⟩ := locate_eq_ok htidy h
  have htidy' : tidyPath (parentPath path) = parentPath path := tidyPath_tidyPath _
  have hmake : fs.makeAll (Place.start path) (tidyNames path).dropLast
      (tidyNames path).dropLast.length = (fs, none) := by
    rcases List.eq_nil_or_concat (tidyNames path) with hnil | ⟨init, last, hconcat⟩
    · rw [hnil]
      rfl
    · rw [hconcat, List.concat_eq_append] at hwalk ⊢
      obtain ⟨parent, hinit, hdirectory, -⟩ := walk_concat_eq_ok hwalk
      rw [List.dropLast_concat]
      exact makeAll_of_directory hinit hdirectory
  simp only [makeDirectory, htidy', admissible_parentPath htidy hadmissible,
    tidyNames_parentPath path, start_parentPath path, hmake]

/-! ### Writing and reading -/

/-- A text can be written unless the place of the path is missing or taken by a directory. -/
theorem exists_writeText_iff {path text : String} :
    (∃ fs', fs.writeText path text = .ok fs') ↔
      ∃ place, fs.locate path = .ok place ∧ fs.get? place ≠ some .directory := by
  rw [writeText]
  split
  · next hlocate => simp [hlocate]
  · next place hlocate =>
      split
      · next hplace => simp [hlocate, hplace]
      · next hplace => simp [hlocate, hplace]

theorem plainBreaks_of_not_mem {cs : List Char} (h : '\r' ∉ cs) : Text.plainBreaks cs = cs := by
  induction cs with
  | nil => rfl
  | cons c cs ih =>
      rw [List.mem_cons, not_or] at h
      rw [Text.plainBreaks, if_neg (Ne.symm h.1), ih h.2]
      rintro _ rfl
      exact absurd rfl h.1

theorem readText_writeText {path text : String} (h : fs.writeText path text = .ok fs')
    (htext : '\r' ∉ text.toList) :
    fs'.contains path = true ∧ fs'.readText path = .ok text := by
  rw [writeText] at h
  split at h
  · contradiction
  next place hlocate =>
    split at h
    · contradiction
    next hplace =>
      obtain rfl := Except.ok.inj h
      obtain ⟨_, hadmissible, hwalk⟩ := bind_eq_ok hlocate
      have hlocate' : (fs.set place (.file (.text text))).locate path = .ok place := by
        rw [locate, hadmissible]
        exact walk_set hplace hwalk
      have hstatus : (fs.set place (.file (.text text))).status path = .ok (.file (.text text)) := by
        rw [status, hlocate']
        simp only [bind, Except.bind, get?_set_self (isGround_of_not_directory hplace)]
        rfl
      refine ⟨by rw [contains, hstatus]; rfl, ?_⟩
      rw [readText, hstatus]
      simp only [plainBreaks_of_not_mem htext, String.ofList_toList]

end Files

end DurableFlow
