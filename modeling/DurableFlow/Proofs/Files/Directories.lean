import DurableFlow.Proofs.Files.Writing

/-!
Making directories. When a directory was made with the ones above it, its path leads to it. Whatever
happens on the way, nothing is added but directories at places that the names of the path lead to, and
nothing that was there is changed.
-/

namespace DurableFlow

namespace Place

variable {place : Place} {name : String}

theorem follow_of_isName (hname : isName name = true) (hup : name ≠ "..") :
    place.follow name = place ++ [name] := by
  simp only [isName, decide_not, Bool.and_eq_true, Bool.not_eq_true', decide_eq_false_iff_not]
    at hname
  rw [follow, if_neg (by simpa using hname), if_neg hup]

theorem foldl_follow {names : List String} (h : ∀ name ∈ names, isName name = true ∧ name ≠ "..") :
    names.foldl follow place = place ++ names := by
  induction names generalizing place with
  | nil => rw [List.foldl_nil, List.append_nil]
  | cons name names ih =>
      rw [List.forall_mem_cons] at h
      rw [List.foldl_cons, follow_of_isName h.1.1 h.1.2, ih h.2, List.append_assoc,
        List.singleton_append]

theorem isGround_start (path : String) : (start path).isGround = true := by
  rw [start]
  split <;> rfl

end Place

namespace Files

variable {fs fs' fs'' : Files} {place start found : Place} {names : List String} {path : String}

theorem get?_ground (h : place.isGround = true) : fs.get? place = some .directory := by
  rw [get?, if_pos h]

theorem locate_eq_ok_iff {path : String} :
    fs.locate path = .ok place ↔
      admissible path = .ok () ∧ fs.walk (Place.start path) (Text.splitAt '/' path) = .ok place := by
  rw [locate]
  constructor
  · intro h
    obtain ⟨_, hadmissible, hwalk⟩ := bind_eq_ok h
    exact ⟨hadmissible, hwalk⟩
  · rintro ⟨hadmissible, hwalk⟩
    rw [hadmissible]
    exact hwalk

/-! ### A directory that was made -/

theorem walk_concat {name : String} (hwalk : fs.walk start names = .ok place)
    (hplace : fs.get? place = some .directory) (hname : name.utf8ByteSize ≤ maxName) :
    fs.walk start (names ++ [name]) = .ok (place.follow name) := by
  induction names generalizing start with
  | nil =>
      obtain rfl := Except.ok.inj hwalk
      exact walk_cons hplace hname
  | cons first names ih =>
      obtain ⟨hstart, hfirst, hwalk⟩ := walk_cons_eq_ok hwalk
      rw [List.cons_append, walk_cons hstart hfirst]
      exact ih hwalk

theorem eq_foldl_of_walk (h : fs.walk start names = .ok found) :
    found = names.foldl Place.follow start := by
  induction names generalizing start with
  | nil => exact (Except.ok.inj h).symm
  | cons name names ih => exact ih (walk_cons_eq_ok h).2.2

/-- The last directory is made in the one before it, where nothing stood. -/
theorem makeLast_eq_ok (h : fs.makeLast start names = .ok fs') :
    ∃ parent, fs.walk start names.dropLast = .ok parent ∧ fs.get? parent = some .directory ∧
      (names.getLast?.getD ".").utf8ByteSize ≤ maxName ∧
      fs.get? (parent.follow (names.getLast?.getD ".")) = none ∧
      fs' = fs.set (parent.follow (names.getLast?.getD ".")) .directory := by
  obtain ⟨parent, hwalk, h⟩ := bind_eq_ok h
  obtain ⟨_, henter, h⟩ := bind_eq_ok h
  dsimp only at h
  split at h
  · contradiction
  next hname =>
    split at h
    · contradiction
    next hfree =>
      exact ⟨parent, hwalk, enter_eq_ok_iff.mp henter, Nat.not_lt.mp hname, by simpa using hfree,
        (Except.ok.inj h).symm⟩

theorem walk_of_ensureLast (hne : names ≠ []) (h : fs.ensureLast start names = .ok fs') :
    ∃ place, fs'.walk start names = .ok place ∧ fs'.get? place = some .directory := by
  rw [ensureLast] at h
  split at h
  next hmake =>
    obtain rfl := Except.ok.inj h
    obtain ⟨parent, hwalk, hparent, hname, hfree, rfl⟩ := makeLast_eq_ok hmake
    obtain ⟨init, last, rfl⟩ := List.eq_nil_or_concat names |>.resolve_left hne
    rw [List.concat_eq_append, List.dropLast_concat] at hwalk
    rw [List.concat_eq_append, List.getLast?_concat, Option.getD_some] at hname hfree ⊢
    have hnone : fs.get? (parent.follow last) ≠ some .directory := by simp [hfree]
    have hother : parent ≠ parent.follow last := by
      intro heq
      rw [← heq, hparent] at hfree
      contradiction
    refine ⟨parent.follow last, ?_, get?_set_self (isGround_of_not_directory hnone)⟩
    exact walk_concat (walk_set hnone hwalk) ((get?_set_of_ne hother).trans hparent) hname
  next hmake =>
    split at h
    next hthere =>
      obtain rfl := Except.ok.inj h
      obtain ⟨place, hwalk, hplace⟩ := Option.bind_eq_some_iff.mp hthere
      cases hwalk' : fs.walk start names with
      | error cause =>
          rw [hwalk'] at hwalk
          contradiction
      | ok found =>
          rw [hwalk'] at hwalk
          obtain rfl := Option.some.inj hwalk
          exact ⟨found, rfl, hplace⟩
    · contradiction

/-- What comes of making the last of some directories. -/
inductive Ensured (fs : Files) (start : Place) (names : List String) (count : Nat) :
    Files × Option (Nat × FileCause) → Prop
  | made {after : Files} (h : fs.ensureLast start names = .ok after) :
      Ensured fs start names count (after, none)
  | failed {cause : FileCause} (h : fs.ensureLast start names = .error cause) :
      Ensured fs start names count (fs, some (count, cause))

/-- The last directory is made at once, or when those before it have been made. -/
theorem makeAll_succ (fs : Files) (start : Place) (names : List String) (count : Nat) :
    (∃ before, (before = fs ∨ fs.makeAll start names count = (before, none)) ∧
        Ensured before start (names.take (count + 1)) (count + 1)
          (fs.makeAll start names (count + 1))) ∨
      (fs.makeAll start names count).2 ≠ none ∧
        fs.makeAll start names (count + 1) = fs.makeAll start names count := by
  rw [makeAll]
  dsimp only
  split
  · split
    next before hbefore =>
      refine .inl ⟨before, .inr hbefore, ?_⟩
      split
      next hensure => exact .made hensure
      next hensure => exact .failed hensure
    next hfailed => exact .inr ⟨fun hnone => hfailed _ (Prod.ext rfl hnone), rfl⟩
  · refine .inl ⟨fs, .inl rfl, ?_⟩
    split
    next hensure => exact .made hensure
    next hensure => exact .failed hensure

theorem walk_of_makeAll (hstart : fs.get? start = some .directory)
    (h : fs.makeAll start names names.length = (fs', none)) :
    ∃ place, fs'.walk start names = .ok place ∧ fs'.get? place = some .directory := by
  cases hlength : names.length with
  | zero =>
      obtain rfl := List.length_eq_zero_iff.mp hlength
      obtain rfl := congrArg Prod.fst h
      exact ⟨start, rfl, hstart⟩
  | succ count =>
      have hne : names ≠ [] := by
        rintro rfl
        contradiction
      rw [hlength] at h
      rcases fs.makeAll_succ start names count with ⟨before, -, hensured⟩ | ⟨hfailed, hsame⟩
      · rw [h, ← hlength, List.take_length] at hensured
        cases hensured with
        | made hensure => exact walk_of_ensureLast hne hensure
      · rw [← hsame, h] at hfailed
        contradiction

theorem locate_of_walk (htidy : tidyPath path = path) (hadmissible : admissible path = .ok ())
    (h : fs.walk (Place.start path) (tidyNames path) = .ok place) : fs.locate path = .ok place := by
  have hpieces := splitAt_formed (Place.isAbsolute path) fun _ h => (@of_mem_tidyNames path _ h).2
  rw [← tidyPath_eq, htidy] at hpieces
  rw [locate_eq_ok_iff, hpieces]
  refine ⟨hadmissible, ?_⟩
  have hstart : fs.get? (Place.start path) = some .directory := get?_ground (Place.isGround_start path)
  rw [Place.start] at h hstart ⊢
  generalize tidyNames path = names at h ⊢
  generalize Place.isAbsolute path = absolute at h hstart ⊢
  -- An empty name or a dot stays where it starts.
  cases absolute with
  | true =>
      cases names with
      | nil => exact h
      | cons name names => exact (walk_cons hstart (by decide)).trans h
  | false =>
      cases names with
      | nil => exact h
      | cons name names => exact h

theorem locate_of_makeDirectory (htidy : tidyPath path = path)
    (h : fs.makeDirectory path = (fs', .ok ())) :
    ∃ place, fs'.locate path = .ok place ∧ fs'.get? place = some .directory := by
  rw [makeDirectory, htidy] at h
  split at h
  · exact absurd (congrArg Prod.snd h) (by simp)
  next hadmissible =>
    split at h
    next hmake =>
      obtain rfl := congrArg Prod.fst h
      obtain ⟨place, hwalk, hplace⟩ := walk_of_makeAll (get?_ground (Place.isGround_start path)) hmake
      exact ⟨place, locate_of_walk htidy hadmissible hwalk, hplace⟩
    · exact absurd (congrArg Prod.snd h) (by simp)

/-! ### What is added on the way -/

/-- The place is one that the names lead to, one after the other. -/
def OnWay (start : Place) (names : List String) (place : Place) : Prop :=
  ∃ first, first <+: names ∧ place = first.foldl Place.follow start

/-- Directories at some places may have been added, and nothing else has changed. -/
def Grows (At : Place → Prop) (fs fs' : Files) : Prop :=
  ∀ place, fs'.get? place = fs.get? place ∨
    At place ∧ fs.get? place = none ∧ fs'.get? place = some .directory

namespace Grows

variable {At At' : Place → Prop}

theorem refl (At : Place → Prop) (fs : Files) : Grows At fs fs := fun _ => .inl rfl

theorem trans (h : Grows At fs fs') (h' : Grows At fs' fs'') : Grows At fs fs'' := by
  intro place
  rcases h place with hsame | ⟨hat, hnone, hmade⟩
  · rw [← hsame]
    exact h' place
  · rcases h' place with hsame' | ⟨-, hnone', -⟩
    · exact .inr ⟨hat, hnone, hsame'.trans hmade⟩
    · rw [hmade] at hnone'
      contradiction

theorem mono (h : Grows At fs fs') (hat : ∀ place, At place → At' place) : Grows At' fs fs' := by
  intro place
  rcases h place with hsame | ⟨hplace, hmade⟩
  · exact .inl hsame
  · exact .inr ⟨hat place hplace, hmade⟩

theorem get?_eq (h : Grows At fs fs') (hplace : ¬At place) : fs'.get? place = fs.get? place := by
  rcases h place with hsame | ⟨hat, -⟩
  · exact hsame
  · exact absurd hat hplace

end Grows

theorem ensureLast_grows (h : fs.ensureLast start names = .ok fs') :
    Grows (OnWay start names) fs fs' := by
  rw [ensureLast] at h
  split at h
  next hmake =>
    obtain rfl := Except.ok.inj h
    obtain ⟨parent, hwalk, -, -, hfree, rfl⟩ := makeLast_eq_ok hmake
    have hnone : fs.get? (parent.follow (names.getLast?.getD ".")) ≠ some .directory := by
      simp [hfree]
    intro place
    by_cases heq : place = parent.follow (names.getLast?.getD ".")
    · rw [heq]
      refine .inr ⟨⟨names, List.prefix_rfl, ?_⟩, hfree, get?_set_self (isGround_of_not_directory hnone)⟩
      rw [eq_foldl_of_walk hwalk]
      rcases List.eq_nil_or_concat names with rfl | ⟨init, last, rfl⟩
      · rfl
      · rw [List.concat_eq_append, List.dropLast_concat, List.getLast?_concat, Option.getD_some,
          List.foldl_append, List.foldl_cons, List.foldl_nil]
    · exact .inl (get?_set_of_ne heq)
  · split at h
    · obtain rfl := Except.ok.inj h
      exact .refl _ _
    · contradiction

theorem Ensured.grows {count : Nat} {result : Files × Option (Nat × FileCause)}
    (h : Ensured fs start names count result) : Grows (OnWay start names) fs result.1 := by
  cases h with
  | made hensure => exact ensureLast_grows hensure
  | failed => exact .refl _ _

theorem makeAll_grows (fs : Files) (start : Place) (names : List String) (count : Nat) :
    Grows (OnWay start names) fs (fs.makeAll start names count).1 := by
  induction count with
  | zero => exact .refl _ _
  | succ count ih =>
      rcases fs.makeAll_succ start names count with ⟨before, hbefore, hensured⟩ | ⟨-, hsame⟩
      · have hlast : Grows (OnWay start names) before (fs.makeAll start names (count + 1)).1 := by
          refine hensured.grows.mono ?_
          rintro place ⟨first, hfirst, hfold⟩
          exact ⟨first, hfirst.trans (List.take_prefix _ _), hfold⟩
        rcases hbefore with rfl | hmade
        · exact hlast
        · rw [hmade] at ih
          exact ih.trans hlast
      · rwa [hsame]

/-- Whether or not a directory can be made, nothing is added but directories on the way to it. -/
theorem makeDirectory_grows (fs : Files) (path : String) :
    Grows (OnWay (Place.start path) (tidyNames path)) fs (fs.makeDirectory path).1 := by
  rw [makeDirectory]
  split
  · exact .refl _ _
  · have hgrows := makeAll_grows fs (Place.start path) (tidyNames path) (tidyNames path).length
    split
    next hmade =>
      rw [hmade] at hgrows
      exact hgrows
    next hmade =>
      rw [hmade] at hgrows
      exact hgrows

end Files

end DurableFlow
