import DurableFlow.Proofs.Code.Resource

/-!
The reads of a node in its text. Each resource that the code of a node is said to read is spelled out in the
text of its body and of its fragment. A reader of either text takes down these reads, in order, and no
others, if the code that the node hands in has none.
-/

namespace DurableFlow

open Access Fragment

/-- How a read of the resource is spelled: the model is a member of the environment, and any other resource
is looked up by its name. -/
def environmentRead (kind name : String) : String :=
  if kind = "ai" then "this.env." ++ name else "this.env[\"" ++ name ++ "\"]"

variable {kind name : String} {n : Node} {ctx : Context}

theorem single_environmentRead (kind : String) (h : IsSafe name) : Single (environmentRead kind name) := by
  have hname : Single name := fun c hc => Text.not_isLineBreak_of_not_isBlank
    (Text.not_isBlank_of_isWord (Text.isWord_of_isAsciiWord (h.2 c hc)))
  rw [environmentRead]
  split
  · exact Single.append (single_chars rfl rfl) hname
  · exact (Single.append (single_chars rfl rfl) hname).append (single_chars rfl rfl)

theorem CodePart.render_env (kind : String) (h : IsSafe name) :
    (CodePart.env kind name).render = environmentRead kind name := by
  have hquote : Json.quote name = "\"" ++ name ++ "\"" := by
    rw [← String.toList_inj, Json.quote, String.toList_ofList, quoteChars_of_isSafe h]
    simp
  rw [CodePart.render, environmentRead, hquote, ← String.append_assoc, ← String.append_assoc]
  simp only [String.reduceAppend, String.append_assoc]

theorem Code.occurs_render {part : CodePart} {c : Code} (h : part ∈ c) :
    Text.Occurs part.render c.render := by
  induction c with
  | nil => simp at h
  | cons first c ih =>
      have hsplit : Code.render (first :: c) = first.render ++ Code.render c := by
        rw [Code.render, List.map_cons, String.join_cons, Code.render]
      rw [hsplit]
      rcases List.mem_cons.mp h with rfl | h
      · exact (Text.Occurs.refl _).append_left _
      · exact (ih h).append_right _

theorem Code.occurs_read {c : Code} (h : (kind, name) ∈ c.reads) (hname : IsSafe name) :
    Text.Occurs (environmentRead kind name) c.render := by
  obtain ⟨part, hpart, hread⟩ := List.mem_filterMap.mp h
  cases part with
  | text s => cases hread
  | env kind' name' =>
      obtain ⟨rfl, rfl⟩ := Prod.mk.inj (Option.some.inj hread)
      exact CodePart.render_env kind' hname ▸ occurs_render hpart

namespace Body

theorem occurs_read {b : Body} (h : (kind, name) ∈ b.reads) (hname : IsSafe name) :
    Text.Occurs (environmentRead kind name) (b.render ctx n) := by
  have hlines {lines : List Code} (h : (kind, name) ∈ lines.flatMap Code.reads) :
      ∃ l ∈ lines.map Code.render, Text.Occurs (environmentRead kind name) l := by
    obtain ⟨c, hc, hread⟩ := List.mem_flatMap.mp h
    exact ⟨_, List.mem_map_of_mem hc, Code.occurs_read hread hname⟩
  cases b with
  | durable lines =>
      obtain ⟨l, hl, hin⟩ := hlines h
      have hindented := (hin.block hl).indentBy (single_environmentRead kind hname) "  "
      exact Text.Occurs.block hindented (by simp [Text.indent])
  | direct setup input output =>
      obtain ⟨l, hl, hin⟩ := hlines h
      exact hin.block (List.mem_append_left _ hl)

theorem ofCode_render (hctx : ctx.Named) {b : Body} (h : b.Faithful) :
    ofCode (b.render ctx n) = b.reads.map ofResource := (reads_render hctx n h).ofCode_eq

end Body

namespace Fragment

theorem occurs_wrap {w code : String} (h : Text.Occurs w code) (hw : Single w) (n : Node) :
    Text.Occurs w (wrap n code) :=
  Text.Occurs.block (h.indentBy hw "  ") (by simp [Text.indent])

theorem ofCode_wrap (hctx : ctx.Named) (hmarker : Single (marker n)) {b : Body} (h : b.Faithful) :
    ofCode (wrap n (b.render ctx n)) = b.reads.map ofResource :=
  (reads_wrap hmarker (Body.reads_render hctx n h)).ofCode_eq

end Fragment

end DurableFlow
