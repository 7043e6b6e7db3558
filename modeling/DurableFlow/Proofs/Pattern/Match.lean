import DurableFlow.Pattern.Match

/-!
Texts of one class of characters. A pattern that asks for such characters from the start to the end of a
text matches every text of them that is not empty.
-/

namespace DurableFlow.Pattern

variable {t : CharTest}

/-- The farthest place of a run of accepted characters is the end of the text. -/
theorem runPlaces_of_forall {cs : List Char} (h : ∀ c ∈ cs, t.accepts c = true) (here : Place)
    (hhere : here.after = cs) (passed : List Place) :
    ∃ last between, runPlaces t none cs here passed = last :: (between ++ passed) ∧
      last.after = [] ∧ between.length = cs.length := by
  induction cs generalizing here passed with
  | nil => exact ⟨here, [], rfl, hhere, rfl⟩
  | cons c cs ih =>
      have hc := h c List.mem_cons_self
      obtain ⟨last, between, hruns, hlast, hlength⟩ := ih (fun x hx => h x (List.mem_cons_of_mem c hx))
        (here.advance c cs) rfl (here :: passed)
      refine ⟨last, between ++ [here], ?_, hlast, by simp [hlength]⟩
      rw [runPlaces, if_pos (by simp [hc]), Option.map_none, hruns, List.append_assoc,
        List.singleton_append]

/-- One accepted character or more, and nothing else. -/
def onlyOf (t : CharTest) : Pattern :=
  .seq (.anchor (.start false)) (.seq (.times (.char t) 1 none .most) (.anchor (.finish false)))

theorem search_onlyOf {s : String} (hne : s.toList ≠ []) (h : ∀ c ∈ s.toList, t.accepts c = true) :
    (onlyOf t).search s = true := by
  obtain ⟨last, between, hruns, hlast, hlength⟩ :=
    runPlaces_of_forall h { after := s.toList } rfl []
  have hplaces : (last :: (between ++ [])).take ((last :: (between ++ [])).length - 1) =
      last :: between.take (between.length - 1) := by
    cases between with
    | nil => exact absurd (List.length_eq_zero_iff.mp hlength.symm) hne
    | cons p ps => simp
  have hstart : Place.satisfies { after := s.toList } (.start false) = true := rfl
  have hfinish : last.satisfies (.finish false) = true := by simp [Place.satisfies, hlast]
  -- The first place from which the rest goes on is the end of the text, at once.
  have hrun : (run s.toList.length (onlyOf t) ⟨{ after := s.toList }, [], []⟩ some).isSome = true := by
    simp only [onlyOf, run, hstart, if_true, charRounds, hruns, hplaces, firstPlace,
      Progress.moveTo, hfinish, orTry, Option.isSome_some]
  rw [search]
  cases hcs : s.toList with
  | nil => exact absurd hcs hne
  | cons c cs =>
      rw [hcs] at hrun
      rw [searchFrom, hrun, Bool.true_or]

end DurableFlow.Pattern
