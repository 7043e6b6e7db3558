import DurableFlow.Graph.Document
import DurableFlow.Module.Tool
import DurableFlow.Proofs.Module.Layout
import DurableFlow.Proofs.Pattern.Match
import DurableFlow.Proofs.Schema.Unstopped
import DurableFlow.Proofs.Step.Kept
import DurableFlow.Proofs.Text.Case
import DurableFlow.Proofs.Text.Mark

/-!
The names of a compiled module. Whatever a workflow is called, the name under which it is deployed is made
of words of small letters and digits, its class has a name that starts with a capital and ends in `Workflow`,
and the binding of the class and the tool get names of the characters that are allowed for them. Main
statement: all four names are of these forms, and the first two do not change when they are made again from
themselves.
-/

namespace DurableFlow

namespace Text

/-! ### Runs of a joined text -/

theorem runs_append_of_not {p : Char → Bool} {c : Char} (hc : p c = false) {w : List Char} (hne : w ≠ [])
    (h : ∀ x ∈ w, p x = true) (cs : List Char) : runs p (w ++ c :: cs) = w :: runs p cs := by
  induction w with
  | nil => exact absurd rfl hne
  | cons a w ih =>
      have ha := h a List.mem_cons_self
      cases w with
      | nil => simp [runs, ha, hc]
      | cons b w =>
          have hb : p b = true := h b (List.mem_cons_of_mem a List.mem_cons_self)
          have hrest := ih (List.cons_ne_nil b w) fun x hx => h x (List.mem_cons_of_mem a hx)
          simp only [List.cons_append] at hrest ⊢
          rw [runs, if_pos ha, hrest]
          simp only [hb, if_true]

theorem runs_intercalate {p : Char → Bool} {c : Char} (hc : p c = false) {words : List (List Char)}
    (h : ∀ w ∈ words, w ≠ [] ∧ ∀ x ∈ w, p x = true) : runs p ([c].intercalate words) = words := by
  induction words with
  | nil => rfl
  | cons w words ih =>
      obtain ⟨hne, hw⟩ := h w List.mem_cons_self
      have hrest := ih fun v hv => h v (List.mem_cons_of_mem w hv)
      cases words with
      | nil => simpa using Step.runs_of_forall hne hw
      | cons v words =>
          rw [List.intercalate_cons_cons, List.append_assoc, List.singleton_append,
            runs_append_of_not hc hne hw, hrest]

theorem endsWith_iff {ending cs : List Char} : endsWith ending cs = true ↔ ending <:+ cs := by
  rw [endsWith, List.isPrefixOf_iff_prefix, List.reverse_prefix]

end Text

namespace Module

/-! ### The name of a deployment -/

/-- Words of small letters and digits, at least one of them, with single dashes in between. -/
def IsSlug (s : String) : Prop :=
  ∃ words : List String, words ≠ [] ∧ (∀ w ∈ words, w ≠ "" ∧ ∀ c ∈ w.toList, isSlugChar c = true) ∧
    s = "-".intercalate words

theorem isSlugChar_iff (c : Char) : isSlugChar c = true ↔
    (97 ≤ c.toNat ∧ c.toNat ≤ 122) ∨ (48 ≤ c.toNat ∧ c.toNat ≤ 57) := by
  rw [isSlugChar, Bool.or_eq_true, Text.isAsciiLower_iff, Text.isAsciiDigit_iff]

theorem isSlug_slug (name : String) : IsSlug (slug name) := by
  rw [slug]
  split
  · have hchars : ∀ c ∈ "workflow".toList, isSlugChar c = true := List.all_eq_true.mp (by decide)
    exact ⟨["workflow"], by simp, List.forall_mem_singleton.mpr ⟨by decide, hchars⟩, by simp⟩
  · rename_i hne
    refine ⟨_, fun hempty => hne hempty, fun w hw => ?_, rfl⟩
    obtain ⟨r, hr, rfl⟩ := List.mem_map.mp hw
    obtain ⟨-, hnonempty, hchars⟩ := Text.of_mem_runs hr
    rw [String.toList_ofList]
    exact ⟨fun hempty => hnonempty (by simpa using congrArg String.toList hempty), hchars⟩

theorem IsSlug.slugChar_or_dash {s : String} (h : IsSlug s) :
    ∀ c ∈ s.toList, isSlugChar c = true ∨ c = '-' := by
  obtain ⟨words, -, hwords, rfl⟩ := h
  exact Text.forall_mem_intercalate (List.forall_mem_singleton.mpr (.inr rfl)) fun w hw c hc =>
    .inl ((hwords w hw).2 c hc)

theorem slug_of_isSlug {s : String} (h : IsSlug s) : slug s = s := by
  have hlower : Text.lower s = s := by
    refine Text.lower_of_not_upper fun c hc => ?_
    rw [Text.isAsciiUpper_iff]
    rcases h.slugChar_or_dash c hc with hc | rfl
    · rw [isSlugChar_iff] at hc
      omega
    · decide
  obtain ⟨words, hne, hwords, rfl⟩ := h
  have hruns : Text.runs isSlugChar ("-".intercalate words).toList = words.map String.toList := by
    rw [String.toList_intercalate]
    refine Text.runs_intercalate rfl fun w hw => ?_
    obtain ⟨v, hv, rfl⟩ := List.mem_map.mp hw
    obtain ⟨hnonempty, hchars⟩ := hwords v hv
    exact ⟨fun hempty => hnonempty (String.toList_eq_nil_iff.mp hempty), hchars⟩
  have hmap : (words.map String.toList).map String.ofList = words := by
    simp [Function.comp_def]
  rw [slug, hlower, hruns, hmap]
  split
  · exact absurd rfl hne
  · rfl

/-! ### The name of a class -/

theorem isClassChar_iff (c : Char) : isClassChar c = true ↔
    Text.isAsciiUpper c = true ∨ Text.isAsciiLower c = true ∨ Text.isAsciiDigit c = true := by
  rw [isClassChar, Bool.or_eq_true, Text.isAsciiLetter_iff, Text.isAsciiUpper_iff,
    Text.isAsciiLower_iff, Text.isAsciiDigit_iff]
  omega

def IsCapitalized (cs : List Char) : Prop :=
  ∃ c rest, cs = c :: rest ∧ Text.isAsciiUpper c = true ∧ ∀ x ∈ rest, isClassChar x = true

theorem IsCapitalized.append {cs more : List Char} (h : IsCapitalized cs)
    (hmore : ∀ x ∈ more, isClassChar x = true) : IsCapitalized (cs ++ more) := by
  obtain ⟨c, rest, rfl, hupper, hrest⟩ := h
  exact ⟨c, rest ++ more, rfl, hupper, List.forall_mem_append.mpr ⟨hrest, hmore⟩⟩

theorem IsCapitalized.forall_mem {cs : List Char} (h : IsCapitalized cs) :
    ∀ x ∈ cs, isClassChar x = true := by
  obtain ⟨c, rest, rfl, hupper, hrest⟩ := h
  exact List.forall_mem_cons.mpr ⟨(isClassChar_iff c).mpr (.inl hupper), hrest⟩

theorem toUpper_of_isAsciiUpper {c : Char} (h : Text.isAsciiUpper c = true) : Step.toUpper c = c := by
  rw [Step.toUpper, if_neg]
  rw [Text.isAsciiUpper_iff] at h
  rw [Text.isAsciiLower_iff]
  omega

theorem toUpper_of_isClassChar {c : Char} (h : isClassChar c = true) :
    Text.isAsciiUpper (Step.toUpper c) = true ∨ Text.isAsciiDigit (Step.toUpper c) = true := by
  rw [Step.toUpper]
  split
  · rename_i hlower
    rw [Text.isAsciiLower_iff] at hlower
    rw [Text.isAsciiUpper_iff, Text.toNat_ofNat (by omega)]
    omega
  · rename_i hlower
    rcases (isClassChar_iff c).mp h with h | h | h
    · exact .inl h
    · exact absurd h hlower
    · exact .inr h

theorem isClassChar_toUpper {c : Char} (h : isClassChar c = true) :
    isClassChar (Step.toUpper c) = true := by
  rw [isClassChar_iff]
  exact (toUpper_of_isClassChar h).imp_right .inr

theorem startWithCapital_cons (c : Char) (cs : List Char) : startWithCapital (c :: cs) =
    if Text.isAsciiDigit c then 'W' :: c :: cs else c :: cs := rfl

/-- A name whose first letter is made a capital gets one in front when it starts with a digit. -/
theorem isCapitalized_startWithCapital {words : List (List Char)}
    (h : ∀ w ∈ words, w ≠ [] ∧ ∀ c ∈ w, isClassChar c = true) :
    IsCapitalized (startWithCapital (words.map (Step.mapHead Step.toUpper)).flatten) := by
  cases words with
  | nil =>
      exact ⟨'G', ['e', 'n', 'e', 'r', 'a', 't', 'e', 'd'], String.toList_ofList, by decide,
        List.all_eq_true.mp (by decide)⟩
  | cons word words =>
      obtain ⟨hne, hword⟩ := h word List.mem_cons_self
      obtain ⟨c, cs, rfl⟩ := List.exists_cons_of_ne_nil hne
      have hc := hword c List.mem_cons_self
      have hcs : ∀ x ∈ cs ++ (words.map (Step.mapHead Step.toUpper)).flatten, isClassChar x = true := by
        refine List.forall_mem_append.mpr ⟨fun x hx => hword x (List.mem_cons_of_mem c hx), ?_⟩
        intro x hx
        obtain ⟨w, hw, hx⟩ := List.mem_flatten.mp hx
        obtain ⟨v, hv, rfl⟩ := List.mem_map.mp hw
        exact Step.forall_mem_mapHead (P := (isClassChar · = true)) (fun _ => isClassChar_toUpper)
          (h v (List.mem_cons_of_mem _ hv)).2 x hx
      rw [List.map_cons, List.flatten_cons, Step.mapHead, List.cons_append, startWithCapital_cons]
      split
      · exact ⟨'W', _, rfl, by decide, List.forall_mem_cons.mpr ⟨isClassChar_toUpper hc, hcs⟩⟩
      · rename_i hdigit
        exact ⟨_, _, rfl, (toUpper_of_isClassChar hc).resolve_right hdigit, hcs⟩

def IsClassName (s : String) : Prop := IsCapitalized s.toList ∧ ∃ front, s = front ++ "Workflow"

theorem isClassName_className (name : String) : IsClassName (className name) := by
  have hwords : ∀ w ∈ Text.runs isClassChar name.toList, w ≠ [] ∧ ∀ c ∈ w, isClassChar c = true :=
    fun w hw => (Text.of_mem_runs hw).2
  have hbase := isCapitalized_startWithCapital hwords
  have hending : ∀ x ∈ "Workflow".toList, isClassChar x = true := List.all_eq_true.mp (by decide)
  rw [className]
  split
  · rename_i hends
    rw [IsClassName, String.toList_ofList]
    refine ⟨hbase, ?_⟩
    obtain ⟨front, hfront⟩ := Text.endsWith_iff.mp hends
    exact ⟨String.ofList front, by rw [← hfront]; simp⟩
  · rw [IsClassName, String.toList_ofList]
    exact ⟨hbase.append hending, _, String.ofList_append⟩

theorem className_of_isClassName {s : String} (h : IsClassName s) : className s = s := by
  obtain ⟨hcapital, front, hfront⟩ := h
  have hall := hcapital.forall_mem
  obtain ⟨c, rest, hcs, hupper, -⟩ := hcapital
  have hruns : Text.runs isClassChar s.toList = [s.toList] :=
    Step.runs_of_forall (by simp [hcs]) hall
  have hdigit : ¬Text.isAsciiDigit c = true := by
    rw [Text.isAsciiUpper_iff] at hupper
    rw [Text.isAsciiDigit_iff]
    omega
  have hbase : startWithCapital (([s.toList].map (Step.mapHead Step.toUpper)).flatten) = s.toList := by
    rw [hcs, List.map_singleton, Step.mapHead, toUpper_of_isAsciiUpper hupper,
      List.flatten_singleton, startWithCapital_cons, if_neg hdigit]
  have hends : Text.endsWith "Workflow".toList s.toList = true :=
    Text.endsWith_iff.mpr ⟨front.toList, by rw [hfront, String.toList_append]⟩
  rw [className, hruns, hbase]
  simp only [hends, if_true, String.ofList_toList]

/-! ### The name of a binding -/

def IsBindingName (s : String) : Prop :=
  ∃ c cs, s = String.ofList (c :: cs) ++ "_WORKFLOW" ∧ Text.isAsciiUpper c = true ∧
    ∀ x ∈ cs, Text.isAsciiUpper x = true ∨ Text.isAsciiDigit x = true

theorem isBindingName_bindingName {s : String} (h : IsClassName s) : IsBindingName (bindingName s) := by
  obtain ⟨hcapital, -⟩ := h
  have hall := hcapital.forall_mem
  obtain ⟨c, rest, hcs, hupper, -⟩ := id hcapital
  have hascii : ∀ x ∈ s.toList, x.toNat < 128 := by
    intro x hx
    have hx := (isClassChar_iff x).mp (hall x hx)
    rw [Text.isAsciiUpper_iff, Text.isAsciiLower_iff, Text.isAsciiDigit_iff] at hx
    omega
  -- After the letters are made capitals there is nothing left to be replaced.
  have hsafe : ∀ x ∈ s.toList.map Step.toUpper,
      (if Text.isAsciiUpper x || Text.isAsciiDigit x then x else '_') = x := by
    intro x hx
    obtain ⟨y, hy, rfl⟩ := List.mem_map.mp hx
    rw [if_pos (Bool.or_eq_true _ _ ▸ toUpper_of_isClassChar (hall y hy))]
  have hname : bindingName s = String.ofList (s.toList.map Step.toUpper) ++ "_WORKFLOW" := by
    simp only [bindingName, Text.toList_upper_of_ascii hascii]
    rw [List.map_congr_left hsafe, List.map_id']
  rw [hcs, List.map_cons] at hname
  refine ⟨Step.toUpper c, rest.map Step.toUpper, hname, ?_, fun x hx => ?_⟩
  · rwa [toUpper_of_isAsciiUpper hupper]
  · obtain ⟨y, hy, rfl⟩ := List.mem_map.mp hx
    exact toUpper_of_isClassChar (hall y (hcs ▸ List.mem_cons_of_mem c hy))

end Module

theorem Schema.checkProperties_of_get?_eq_none {follow : Follow} {ps : List (String × Schema)}
    {ms : Members} (h : ∀ p ∈ ps, Members.get? p.1 ms = none) : checkProperties follow ps ms = [] := by
  induction ps with
  | nil => rfl
  | cons p ps ih =>
      rw [checkProperties, h p List.mem_cons_self, ih fun q hq => h q (List.mem_cons_of_mem p hq)]
      rfl

/-! ### The name of a tool -/

namespace Builtin

/-- The characters that the catalog allows in the name of a tool. -/
def toolNameTest : CharTest :=
  .oneOf [.range 97 122, .range 65 90, .range 48 57, .range 95 95, .range 45 45] .exact false

/-- What the catalog asks of the name of a tool. -/
def toolNameRules : List Rule :=
  [.types ["string"] (.str "string"), .pattern "^[a-zA-Z0-9_-]+$" (.onlyOf toolNameTest)]

theorem read_toolInput : ∃ others, Schema.read (.obj toolInput.configSchema) =
    .ok (.rules [.types ["object"] (.str "object"),
      .properties (("toolName", .rules toolNameRules) :: others)]) ∧
    ∀ p ∈ others, p.1 ≠ "toolName" :=
  ⟨_, rfl, by decide⟩

end Builtin

namespace Tool

/-- Small letters, digits and underscores, at least one of them, with `_tool` at the end. -/
def IsPlainName (s : String) : Prop := ∃ front, s = front ++ "_tool" ∧
  ∀ c ∈ front.toList, Text.isAsciiLower c = true ∨ Text.isAsciiDigit c = true ∨ c = '_'

def plainName (workflow : String) : String :=
  String.ofList ((Module.slug workflow).toList.map fun c => if c = '-' then '_' else c) ++ "_tool"

theorem name_of_not_isGiven {n : Node} (h : (n.setting "toolName").isGiven = false) (workflow : String) :
    name n workflow = .str (plainName workflow) := by
  simp only [name, Json.orElse, h, Bool.false_eq_true, if_false]
  rfl

theorem isPlainName_plainName (workflow : String) : IsPlainName (plainName workflow) := by
  refine ⟨_, rfl, fun c hc => ?_⟩
  rw [String.toList_ofList] at hc
  obtain ⟨d, hd, rfl⟩ := List.mem_map.mp hc
  split
  · exact .inr (.inr rfl)
  · rename_i hdash
    have hslug := ((Module.isSlug_slug workflow).slugChar_or_dash d hd).resolve_right hdash
    rw [Module.isSlugChar, Bool.or_eq_true] at hslug
    exact hslug.imp_right .inl

theorem IsPlainName.accepts {s : String} (h : IsPlainName s) :
    ∀ c ∈ s.toList, Builtin.toolNameTest.accepts c = true := by
  have hclass : ∀ c : Char, Text.isAsciiLower c = true ∨ Text.isAsciiDigit c = true ∨ c = '_' →
      Builtin.toolNameTest.accepts c = true := by
    intro c hc
    have hunderscore : c = '_' ↔ c.toNat = 95 := (Char.toNat_inj (d := '_')).symm
    rw [Text.isAsciiLower_iff, Text.isAsciiDigit_iff, hunderscore] at hc
    simp only [Builtin.toolNameTest, CharTest.accepts, ClassItem.accepts, List.any_cons, List.any_nil,
      Bool.bne_false, Bool.or_eq_true, Bool.and_eq_true, decide_eq_true_eq]
    omega
  obtain ⟨front, rfl, hfront⟩ := h
  rw [String.toList_append]
  exact List.forall_mem_append.mpr ⟨fun c hc => hclass c (hfront c hc),
    List.all_eq_true.mp (by decide)⟩

theorem configProblems_of_isPlainName {s : String} (h : IsPlainName s) :
    Document.configProblems (.obj [("toolName", .str s)]) (.obj Builtin.toolInput.configSchema) = .ok [] := by
  have hne : s.toList ≠ [] := by
    obtain ⟨front, rfl, -⟩ := h
    simp
  have hname (follow : Schema.Follow) :
      Schema.check follow (.rules Builtin.toolNameRules) (.str s) = [] := by
    rw [Builtin.toolNameRules, Schema.check, Schema.checkRules, Schema.checkRules, Schema.checkRules,
      Schema.checkRule, Schema.checkRule, if_pos (by rfl), Schema.checkPattern,
      if_pos (Pattern.search_onlyOf hne h.accepts)]
    rfl
  obtain ⟨others, hread, hothers⟩ := Builtin.read_toolInput
  have hnone : ∀ p ∈ others, Members.get? p.1 [("toolName", .str s)] = none := by
    intro p hp
    rw [Members.get?, if_neg (hothers p hp).symm, Members.get?_nil]
  have hcheck (follow : Schema.Follow) : Schema.check follow (.rules [.types ["object"] (.str "object"),
      .properties (("toolName", .rules Builtin.toolNameRules) :: others)])
      (.obj [("toolName", .str s)]) = [] := by
    rw [Schema.check, Schema.checkRules, Schema.checkRules, Schema.checkRules, Schema.checkRule,
      Schema.checkRule, if_pos (by rfl), Schema.onMembers_obj, Schema.checkProperties,
      Schema.checkProperties_of_get?_eq_none hnone, Members.get?, if_pos rfl]
    simp only [hname]
    rfl
  have hmem : Builtin.toolInput ∈ Catalog.builtin.definitions := by
    simp [Catalog.builtin]
  obtain ⟨schema, hschema, hfound⟩ := Builtin.validate_schema hmem (.obj [("toolName", .str s)])
  obtain rfl := Except.ok.inj (hread.symm.trans hschema)
  have hgiven : (Json.obj Builtin.toolInput.configSchema).isGiven = true := rfl
  rw [Document.configProblems, Document.configProblemsBy, hgiven, hfound, hcheck]
  show Except.ok ((Schema.inOrder []).map _) = _
  rw [Schema.inOrder, List.mergeSort_nil, List.map_nil]

end Tool

namespace Module

/-- Whatever a workflow is called, the name of its deployment is made of words of small letters and digits
with single dashes in between, the name of its class is a capital with letters and digits behind it that
ends in `Workflow`, the binding of that class is named in capitals and digits, and the tool of a node without
a name of its own gets a name that the catalog allows. The first two are kept when they are named again. -/
theorem names_wellFormed (workflow : String) :
    IsSlug (slug workflow) ∧ slug (slug workflow) = slug workflow ∧
    IsClassName (className workflow) ∧ className (className workflow) = className workflow ∧
    IsBindingName (bindingName (className workflow)) ∧
    ∃ tool, Tool.IsPlainName tool ∧
      (∀ n : Node, (n.setting "toolName").isGiven = false → Tool.name n workflow = .str tool) ∧
      ∃ d, Catalog.builtin.get? toolInputType = some d ∧
        Document.configProblems (.obj [("toolName", .str tool)]) (.obj d.configSchema) = .ok [] := by
  have hslug := isSlug_slug workflow
  have hclass := isClassName_className workflow
  have htool := Tool.isPlainName_plainName workflow
  exact ⟨hslug, slug_of_isSlug hslug, hclass, className_of_isClassName hclass,
    isBindingName_bindingName hclass, Tool.plainName workflow, htool,
    fun n hn => Tool.name_of_not_isGiven hn workflow,
    Builtin.toolInput, rfl, Tool.configProblems_of_isPlainName htool⟩

end Module

end DurableFlow
