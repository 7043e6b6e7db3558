import DurableFlow.Proofs.Files.Directories
import DurableFlow.Proofs.Step.Naming

/-!
Replacing a file by way of a new one. The new file gets a name that nothing has, so taking it away again
gives back what there was before, and moving it changes nothing but the file that is replaced.
-/

namespace DurableFlow

namespace Place

variable {place : Place} {name : String}

theorem ne_of_length {short : String} (h : 2 < name.toList.length)
    (hshort : short.toList.length ≤ 2) : name ≠ short := by
  rintro rfl
  omega

theorem follow_of_length (h : 2 < name.toList.length) : place.follow name = place ++ [name] := by
  have hempty : name ≠ "" := ne_of_length h (by decide)
  have hdot : name ≠ "." := ne_of_length h (by decide)
  refine follow_of_isName ?_ (ne_of_length h (by decide))
  simp [isName, hempty, hdot]

theorem isGround_append_singleton (hname : name ≠ "") (hup : name ≠ "..") :
    (place ++ [name]).isGround = false := by
  have hroot : place ++ [name] ≠ [""] := by
    intro h
    obtain ⟨-, hempty⟩ := List.append_inj' (h.trans (List.nil_append [""]).symm) rfl
    exact hname (List.singleton_inj.mp hempty)
  simp [isGround, hroot, hup]

end Place

namespace Files

variable {fs fs' made : Files} {place start found : Place} {e : FileEntry} {names : List String}

/-! ### Taking away what was added -/

theorem setEntry_of_lookup_none {entries : List (Place × FileEntry)}
    (h : entries.lookup place = none) : setEntry place e entries = entries ++ [(place, e)] := by
  induction entries with
  | nil => rfl
  | cons entry entries ih =>
      obtain ⟨other, old⟩ := entry
      rw [List.lookup_cons] at h
      split at h
      · contradiction
      next hne =>
        have hother : other ≠ place := Ne.symm (by simpa using hne)
        rw [setEntry, if_neg hother, ih h, List.cons_append]

theorem filter_of_lookup_none {entries : List (Place × FileEntry)}
    (h : entries.lookup place = none) : (entries.filter fun e => e.1 ≠ place) = entries := by
  rw [List.filter_eq_self]
  intro entry hentry
  have hne : place ≠ entry.1 := by simpa using List.lookup_eq_none_iff.mp h entry hentry
  exact decide_eq_true (Ne.symm hne)

theorem erase_set (h : fs.get? place = none) : (fs.set place e).erase place = fs := by
  have hlookup : fs.entries.lookup place = none := by
    rw [get?] at h
    split at h
    · contradiction
    · exact h
  rw [erase, set, setEntry_of_lookup_none hlookup, List.filter_append, filter_of_lookup_none hlookup]
  simp

theorem set_set (e' : FileEntry) : (fs.set place e).set place e' = fs.set place e' := by
  rw [set, set, set]
  congr 1
  induction fs.entries with
  | nil => simp [setEntry]
  | cons entry entries ih =>
      obtain ⟨other, old⟩ := entry
      rw [setEntry, setEntry]
      split
      next h => rw [setEntry, if_pos h]
      next h => rw [setEntry, if_neg h, ih]

/-- An added file leads nowhere that was not led to before. -/
theorem walk_set_file_iff {content : Content} (h : fs.get? place = none) :
    (fs.set place (.file content)).walk start names = .ok found ↔ fs.walk start names = .ok found := by
  refine ⟨fun hwalk => ?_, walk_set (by simp [h])⟩
  induction names generalizing start with
  | nil => exact hwalk
  | cons name names ih =>
      obtain ⟨hstart, hname, hwalk⟩ := walk_cons_eq_ok hwalk
      have hne : start ≠ place := by
        rintro rfl
        have hnone : fs.get? start ≠ some .directory := by simp [h]
        rw [get?_set_self (isGround_of_not_directory hnone)] at hstart
        exact FileEntry.noConfusion (Option.some.inj hstart)
      rw [get?_set_of_ne hne] at hstart
      rw [walk_cons hstart hname]
      exact ih hwalk

theorem locate_set_file_iff {content : Content} {path : String} (h : fs.get? place = none) :
    (fs.set place (.file content)).locate path = .ok found ↔ fs.locate path = .ok found := by
  rw [locate_eq_ok_iff, locate_eq_ok_iff, walk_set_file_iff h]

/-! ### Temporary files -/

/-- Among more places than there are entries, one is free. -/
theorem get?_freePlace {places : Nat → Place} (hinjective : Function.Injective places)
    (hground : ∀ n, (places n).isGround = false) : fs.get? (fs.freePlace places) = none := by
  rw [freePlace]
  cases hfind : (List.range (fs.entries.length + 1)).find? fun n => (fs.get? (places n)).isNone with
  | some n => simpa using List.find?_some hfind
  | none =>
      -- With none free, the entries would have to be at more places than there are entries.
      have htaken : (List.range (fs.entries.length + 1)).map places ⊆ fs.entries.map Prod.fst := by
        intro place hplace
        obtain ⟨n, hn, rfl⟩ := List.mem_map.mp hplace
        have hsome : fs.get? (places n) ≠ none := by
          simpa using List.find?_eq_none.mp hfind n hn
        rw [get?, hground n, if_neg (by decide)] at hsome
        obtain ⟨e, he⟩ := Option.ne_none_iff_exists'.mp hsome
        obtain ⟨front, back, hentries, -⟩ := List.lookup_eq_some_iff.mp he
        rw [hentries]
        simp
      have hnodup : ((List.range (fs.entries.length + 1)).map places).Nodup :=
        List.nodup_range.map fun i j hij => hinjective hij
      have hlength := (List.subperm_of_subset hnodup htaken).length_le
      simp only [List.length_map, List.length_range] at hlength
      omega

/-- In a directory that is there, a file can be made that was not there before. -/
theorem exists_makeTemporary {directory opening : String} (ending : String)
    (hopening : 2 < opening.toList.length) (hlocate : fs.locate directory = .ok place)
    (hplace : fs.get? place = some .directory) :
    ∃ temporary, fs.get? temporary = none ∧
      fs.makeTemporary directory opening ending =
        .ok (fs.set temporary (.file (.text "")), temporary) := by
  let name (n : Nat) : String := Step.numbered opening n ++ ending
  have hlength (n : Nat) : 2 < (name n).toList.length := by
    simp only [name, Step.numbered, String.toList_append, List.length_append]
    omega
  have hfollow (n : Nat) : place.follow (name n) = place ++ [name n] :=
    Place.follow_of_length (hlength n)
  refine ⟨fs.freePlace fun n => place.follow (name n), get?_freePlace ?_ ?_, ?_⟩
  · intro i j hij
    dsimp only at hij
    rw [hfollow, hfollow] at hij
    obtain ⟨-, hname⟩ := List.append_inj' hij rfl
    have hnumbered : Step.numbered opening i = Step.numbered opening j :=
      (String.append_left_inj ending).mp (List.singleton_inj.mp hname)
    exact Step.numbered_injective opening hnumbered
  · intro n
    rw [hfollow]
    exact Place.isGround_append_singleton (Place.ne_of_length (hlength n) (by decide))
      (Place.ne_of_length (hlength n) (by decide))
  · rw [makeTemporary, hlocate]
    simp only [bind, Except.bind, enter_eq_ok_iff.mpr hplace]
    rfl

/-- A new file takes the place of what a path leads to, unless that is a directory. -/
theorem replace_set {temporary : Place} {content : Content} {path : String}
    (htemporary : fs.get? temporary = none) (hlocate : fs.locate path = .ok place)
    (hplace : fs.get? place ≠ some .directory) :
    (fs.set temporary (.file content)).replace temporary path =
      .ok (fs.set place (.file content)) := by
  have hnone : fs.get? temporary ≠ some .directory := by simp [htemporary]
  have hself : (fs.set temporary (.file content)).get? temporary = some (.file content) :=
    get?_set_self (isGround_of_not_directory hnone)
  have hplace' : (fs.set temporary (.file content)).get? place ≠ some .directory := by
    by_cases heq : place = temporary
    · rw [heq, hself]
      simp
    · rwa [get?_set_of_ne heq]
  simp only [replace, (locate_set_file_iff htemporary).mpr hlocate, if_neg hplace', hself,
    erase_set htemporary]

theorem exists_replace_error {temporary : Place} {content : Content} {path : String}
    (htemporary : fs.get? temporary = none)
    (h : ¬∃ place, fs.locate path = .ok place ∧ fs.get? place ≠ some .directory) :
    ∃ e, (fs.set temporary (.file content)).replace temporary path = .error e := by
  rw [replace]
  cases hlocate : (fs.set temporary (.file content)).locate path with
  | error cause => exact ⟨_, rfl⟩
  | ok place =>
      have hdirectory : fs.get? place = some .directory := by
        by_contra hplace
        exact h ⟨place, (locate_set_file_iff htemporary).mp hlocate, hplace⟩
      have hne : place ≠ temporary := by
        rintro rfl
        rw [htemporary] at hdirectory
        contradiction
      dsimp only
      rw [get?_set_of_ne hne, if_pos hdirectory]
      exact ⟨_, rfl⟩

end Files

end DurableFlow
