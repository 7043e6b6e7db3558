import DurableFlow.Proofs.Expression.Accessor
import DurableFlow.Proofs.Json.Quoted
import DurableFlow.Proofs.Step.Identifier
import DurableFlow.Proofs.Text.Mark
import DurableFlow.Proofs.Text.Split

/-!
The reader of sources, on a text that is made of start events and of texts without them. The reader
finds exactly the events, each with the text up to the next one. In such a text it finds the name of
the first step call, or the name under which a result is assigned if there is no call.
-/

namespace DurableFlow

namespace Text

/-- No word stands at a place from which it would have to go on across a seam. -/
theorem not_prefix_append {ws : List (List Char)} {w a b : List Char} (hw : w ∈ ws)
    (ha : Avoids ws a) (hne : a ≠ []) (h : FencedBehind ws a ∨ FencedBefore ws b) :
    ¬w <+: a ++ b := by
  intro hp
  rcases List.prefix_or_prefix_of_prefix hp (List.prefix_append a b) with hwa | ⟨y, hy⟩
  · exact ha w hw hwa.isInfix
  · have hapos := List.length_pos_iff.mpr hne
    rw [← hy, List.prefix_append_right_inj] at hp
    by_cases hynil : y = []
    · subst hynil
      rw [List.append_nil] at hy
      exact ha w hw (hy ▸ List.infix_rfl)
    · have hypos := List.length_pos_iff.mpr hynil
      have hlength : w.length = a.length + y.length := by rw [← hy, List.length_append]
      rcases h with h | h
      · refine (h w hw a.length (by omega) hapos).1 ?_
        rw [← hy, List.take_left]
      · refine (h w hw a.length (by omega) hapos).1 ?_
        rw [← hy, List.drop_left]
        exact hp

end Text

namespace Skeleton

/-! ### Signals -/

def eventSignal : List Char :=
  ['"', 'W', 'F', '_', 'N', 'O', 'D', 'E', '_', 'S', 'T', 'A', 'R', 'T', '"']

def resultSignal : List Char :=
  ['_', 'w', 'o', 'r', 'k', 'f', 'l', 'o', 'w', 'R', 'e', 's', 'u', 'l', 't', 's', '.']

def callSignals : List (List Char) :=
  [['s', 't', 'e', 'p', '.', 'd', 'o', '('],
   ['s', 't', 'e', 'p', '.', 's', 'l', 'e', 'e', 'p', '('],
   ['s', 't', 'e', 'p', '.', 's', 'l', 'e', 'e', 'p', 'U', 'n', 't', 'i', 'l', '('],
   ['s', 't', 'e', 'p', '.', 'w', 'a', 'i', 't', 'F', 'o', 'r', 'E', 'v', 'e', 'n', 't', '(']]

/-- Everything by which a reader of sources finds its way. -/
def signals : List (List Char) := eventSignal :: resultSignal :: callSignals

theorem callSignals_eq : stepCalls.map String.toList = callSignals := by
  simp [stepCalls, callSignals]

theorem mem_callSignals {call : String} (h : call ∈ stepCalls) : call.toList ∈ callSignals := by
  rw [← callSignals_eq]
  exact List.mem_map_of_mem h

/-! ### Start events -/

def eventHead : List Char := "type: \"WF_NODE_START\", nodeId: ".toList

def eventChars (n : Node) : List Char :=
  eventHead ++ Json.quoteChars n.id.toList ++
    (", nodeName: ".toList ++ Json.quoteChars n.displayName.toList ++
      (", nodeType: ".toList ++ Json.quoteChars n.type.toList))

def eventOf (n : Node) : StartEvent :=
  ⟨Json.quoteChars n.id.toList, Json.quoteChars n.displayName.toList, Json.quoteChars n.type.toList⟩

theorem labelled?_quoteChars (label : String) (cs rest : List Char) :
    labelled? label (label.toList ++ Json.quoteChars cs ++ rest) =
      some (Json.quoteChars cs, rest) := by
  rw [labelled?, List.append_assoc, Text.after?_append]
  exact stringToken?_quoteChars cs rest

theorem startEvent?_of_labels {cs id name type rest₁ rest₂ rest₃ : List Char}
    (hid : labelled? "type: \"WF_NODE_START\", nodeId: " cs = some (id, rest₁))
    (hname : labelled? ", nodeName: " rest₁ = some (name, rest₂))
    (htype : labelled? ", nodeType: " rest₂ = some (type, rest₃)) :
    startEvent? cs = some (⟨id, name, type⟩, rest₃) := by
  simp [startEvent?, hid, hname, htype]

theorem startEvent?_eventChars (n : Node) (rest : List Char) :
    startEvent? (eventChars n ++ rest) = some (eventOf n, rest) := by
  have hsplit : eventChars n ++ rest = eventHead ++ Json.quoteChars n.id.toList ++
      (", nodeName: ".toList ++ Json.quoteChars n.displayName.toList ++
        (", nodeType: ".toList ++ Json.quoteChars n.type.toList ++ rest)) := by
    simp only [eventChars, List.append_assoc]
  rw [hsplit]
  exact startEvent?_of_labels (labelled?_quoteChars _ _ _) (labelled?_quoteChars _ _ _)
    (labelled?_quoteChars _ _ _)

theorem startEvent?_eq_none {cs : List Char} (h : ¬eventHead <+: cs) : startEvent? cs = none := by
  have hnone : labelled? "type: \"WF_NODE_START\", nodeId: " cs = none := by
    rw [labelled?, Text.after?_eq_none (by exact h)]
    rfl
  simp [startEvent?, hnone]

/-! ### Scanning -/

theorem scanFrom_skip (front rest : List Char) :
    scanFrom front.length (front ++ rest) = scanFrom 0 rest := by
  induction front with
  | nil => rfl
  | cons c front ih =>
      rw [List.length_cons, List.cons_append, scanFrom]
      exact ih

theorem scanFrom_event (n : Node) (rest : List Char) :
    scanFrom 0 (eventChars n ++ rest) =
      ([], ⟨eventOf n, (scanFrom 0 rest).1⟩ :: (scanFrom 0 rest).2) := by
  obtain ⟨c, cs, hchars⟩ : ∃ c cs, eventChars n = c :: cs := ⟨_, _, rfl⟩
  have hevent := startEvent?_eventChars n rest
  have hlength : (cs ++ rest).length - rest.length = cs.length := by
    rw [List.length_append, Nat.add_sub_cancel]
  rw [hchars, List.cons_append] at hevent ⊢
  rw [scanFrom, hevent]
  simp only [hlength, scanFrom_skip]

theorem scanFrom_before {front rest : List Char}
    (h : ∀ v, v <:+ front → v ≠ [] → ¬eventHead <+: v ++ rest) :
    scanFrom 0 (front ++ rest) = (front ++ (scanFrom 0 rest).1, (scanFrom 0 rest).2) := by
  induction front with
  | nil => rfl
  | cons c front ih =>
      have hhere := startEvent?_eq_none (h (c :: front) List.suffix_rfl (List.cons_ne_nil c front))
      have htail := ih fun v hv => h v (hv.trans (List.suffix_cons c front))
      rw [List.cons_append] at hhere ⊢
      rw [scanFrom, hhere, htail]
      rfl

/-- Some start events, each with the text up to the next one. -/
def written (found : List (Node × List Char)) : List Char :=
  found.flatMap fun p => eventChars p.1 ++ p.2

theorem fencedBefore_eventHead : Text.FencedBefore [eventHead] eventHead := by
  refine Text.fencedBefore_of_isPassed fun w hw => ?_
  rw [List.mem_singleton.mp hw]
  unfold eventHead
  rfl

theorem infix_eventHead : eventSignal <:+: eventHead := by
  refine ⟨"type: ".toList, ", nodeId: ".toList, ?_⟩
  unfold eventHead
  rfl

/-- The reader finds the events that were written, if there are no others. -/
theorem scanFrom_written {front : List Char} {found : List (Node × List Char)}
    (hfront : Text.Avoids [eventSignal] front)
    (hfound : ∀ p ∈ found, Text.Avoids [eventSignal] p.2) :
    scanFrom 0 (front ++ written found) =
      (front, found.map fun p => ⟨eventOf p.1, p.2⟩) := by
  have hhead : ∀ t, Text.Avoids [eventSignal] t → Text.Avoids [eventHead] t := fun t ht =>
    ht.mono fun w' hw' => by
      rw [List.mem_singleton] at hw'
      subst hw'
      exact ⟨eventSignal, List.mem_singleton_self eventSignal, infix_eventHead⟩
  induction found generalizing front with
  | nil =>
      have hquiet := hhead front hfront
      have hnone : ∀ v, v <:+ front → v ≠ [] → ¬eventHead <+: v ++ [] := by
        intro v hv _ hp
        rw [List.append_nil] at hp
        exact hquiet eventHead List.mem_cons_self (hp.isInfix.trans hv.isInfix)
      simpa [written, scanFrom] using scanFrom_before hnone
  | cons p found ih =>
      have htail := ih (hfound p List.mem_cons_self)
        fun q hq => hfound q (List.mem_cons_of_mem p hq)
      have hsplit : written (p :: found) = eventChars p.1 ++ (p.2 ++ written found) := by
        rw [written, List.flatMap_cons, ← written, List.append_assoc]
      rw [hsplit, scanFrom_before, scanFrom_event, htail]
      · simp
      · -- The head of an event does not overlap with itself.
        intro v hv hne
        refine Text.not_prefix_append List.mem_cons_self
          ((hhead front hfront).part hv.isInfix) hne (.inr ?_)
        simp only [eventChars, List.append_assoc]
        exact fencedBefore_eventHead.append _

/-! ### Names of steps -/

theorem first?_append {α : Type} {at? : List Char → Option α} {front rest : List Char}
    (h : ∀ v, v <:+ front → v ≠ [] → at? (v ++ rest) = none) :
    first? at? (front ++ rest) = first? at? rest := by
  induction front with
  | nil => rfl
  | cons c front ih =>
      have hhere := h (c :: front) List.suffix_rfl (List.cons_ne_nil c front)
      rw [List.cons_append] at hhere ⊢
      rw [first?, hhere]
      exact ih fun v hv => h v (hv.trans (List.suffix_cons c front))

theorem first?_of_some {α : Type} {at? : List Char → Option α} {cs : List Char} {a : α}
    (h : at? cs = some a) : first? at? cs = some a := by
  cases cs with
  | nil => exact h
  | cons c cs =>
      rw [first?, h]
      rfl

theorem first?_eq_none {α : Type} {at? : List Char → Option α} {cs : List Char}
    (h : ∀ v, v <:+ cs → at? v = none) : first? at? cs = none := by
  induction cs with
  | nil => exact h [] List.suffix_rfl
  | cons c cs ih =>
      rw [first?, h (c :: cs) List.suffix_rfl]
      exact ih fun v hv => h v (hv.trans (List.suffix_cons c cs))

theorem stepLabel?_eq_none {cs : List Char} (h : ∀ w ∈ callSignals, ¬w <+: cs) :
    stepLabel? cs = none := by
  rw [stepLabel?, List.findSome?_eq_none_iff]
  intro call hcall
  rw [labelled?, Text.after?_eq_none (h call.toList (mem_callSignals hcall))]
  rfl

theorem labelled?_of_ne {call other : String} (hcall : call ∈ stepCalls) (hother : other ∈ stepCalls)
    (hne : other ≠ call) (rest : List Char) : labelled? other (call.toList ++ rest) = none := by
  -- No call is the start of another one.
  have hapart : ∀ w ∈ callSignals, ∀ w' ∈ callSignals, w <+: w' → w = w' := by decide
  have hnot : ¬other.toList <+: call.toList ++ rest := by
    intro hp
    have hw := mem_callSignals hother
    have hw' := mem_callSignals hcall
    rcases List.prefix_or_prefix_of_prefix hp (List.prefix_append call.toList rest) with hp | hp
    · exact hne (String.toList_inj.mp (hapart _ hw _ hw' hp))
    · exact hne (String.toList_inj.mp (hapart _ hw' _ hw hp).symm)
  rw [labelled?, Text.after?_eq_none hnot]
  rfl

theorem stepLabel?_call {call : String} (h : call ∈ stepCalls) (cs rest : List Char) :
    stepLabel? (call.toList ++ Json.quoteChars cs ++ rest) = some (Json.quoteChars cs) := by
  have hhere := labelled?_quoteChars call cs rest
  have hothers : ∀ other ∈ stepCalls, other ≠ call →
      labelled? other (call.toList ++ Json.quoteChars cs ++ rest) = none := by
    intro other hother hne
    rw [List.append_assoc]
    exact labelled?_of_ne h hother hne _
  rw [stepLabel?]
  obtain ⟨before, behind, hsplit, hbefore⟩ := List.eq_append_cons_of_mem h
  rw [hsplit, List.findSome?_append, List.findSome?_eq_none_iff.mpr, Option.none_or,
    List.findSome?_cons, hhere]
  · rfl
  · intro other hother
    have hmem : other ∈ stepCalls := hsplit ▸ List.mem_append_left _ hother
    rw [hothers other hmem fun heq => hbefore (heq ▸ hother)]
    rfl

theorem fenced_space : Text.Fenced signals [' '] := .of_isFenced rfl

/-- From within a text without some signals, none of them is met before the space behind it. -/
theorem not_prefix_behind {ws : List (List Char)} (hws : ws ⊆ signals) {front rest v w : List Char}
    (hfront : Text.Avoids ws front) (hv : v <:+ front ++ [' ']) (hne : v ≠ []) (hw : w ∈ ws) :
    ¬w <+: v ++ rest := by
  have hspace := fenced_space.subset hws
  obtain ⟨u, hu, rfl⟩ : ∃ u, u <:+ front ∧ v = u ++ [' '] := by
    rcases List.suffix_concat_iff.mp hv with hnil | ⟨u, heq, hu⟩
    · exact absurd hnil hne
    · exact ⟨u, hu, heq⟩
  refine Text.not_prefix_append hw ?_ hne (.inl (hspace.behind.append u))
  exact (hfront.part hu.isInfix).append hspace.avoids (.inr hspace.before)

/-- A step call behind a text without calls is the one that is found. -/
theorem first?_stepLabel? {front rest : List Char} {call : String} (cs : List Char)
    (hfront : Text.Avoids callSignals front) (hcall : call ∈ stepCalls) :
    first? stepLabel? (front ++ [' '] ++ (call.toList ++ Json.quoteChars cs ++ rest)) =
      some (Json.quoteChars cs) := by
  rw [first?_append, first?_of_some (stepLabel?_call hcall cs rest)]
  intro v hv hne
  apply stepLabel?_eq_none
  intro w hw
  exact not_prefix_behind (fun w hw => by simp [signals, hw]) hfront hv hne hw

theorem first?_stepLabel?_eq_none {cs : List Char} (h : Text.Avoids callSignals cs) :
    first? stepLabel? cs = none := by
  apply first?_eq_none
  intro v hv
  apply stepLabel?_eq_none
  intro w hw hp
  exact h w hw (hp.isInfix.trans hv.isInfix)

theorem resultSignal_eq : "_workflowResults.".toList = resultSignal := by
  simp [resultSignal]

theorem resultName?_eq {name : List Char} (h : Step.IsIdentifier name) (rest : List Char) :
    resultName? (resultSignal ++ (name ++ ' ' :: '=' :: rest)) = some name := by
  obtain ⟨hall, c, hc, hdigit⟩ := h
  obtain ⟨more, rfl⟩ := List.head?_eq_some_iff.mp hc
  have hstart := Path.isNameStart_of_isAsciiWord (hall c List.mem_cons_self) hdigit
  have hspace : ∀ x ∈ (' ' :: '=' :: rest).head?, Path.isNamePart x = false := by
    rintro x ⟨⟩
    decide
  obtain ⟨htake, hdrop⟩ := Text.run_append
    (fun x hx => Path.isNamePart_of_isAsciiWord (hall x (List.mem_cons_of_mem c hx))) hspace
  rw [resultName?, resultSignal_eq, Text.after?_append]
  simp only [List.cons_append, hstart, if_true, htake, hdrop]
  rfl

theorem resultName?_eq_none {cs : List Char} (h : ¬resultSignal <+: cs) : resultName? cs = none := by
  rw [resultName?, resultSignal_eq, Text.after?_eq_none h]

/-- An assigned result behind a text without results is the one that is found. -/
theorem first?_resultName? {front name : List Char} (h : Step.IsIdentifier name)
    (hfront : Text.Avoids [resultSignal] front) (rest : List Char) :
    first? resultName? (front ++ [' '] ++ (resultSignal ++ (name ++ ' ' :: '=' :: rest))) =
      some name := by
  rw [first?_append, first?_of_some (resultName?_eq h rest)]
  intro v hv hne
  apply resultName?_eq_none
  exact not_prefix_behind (by simp [signals]) hfront hv hne List.mem_cons_self

end Skeleton

end DurableFlow
