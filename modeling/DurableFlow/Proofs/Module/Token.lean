import DurableFlow.Proofs.Json.Unambiguous
import DurableFlow.Proofs.Module.Segment

/-!
Where a quoted text ends in code. The reader of quoted texts takes exactly the words of a small language,
and a text has at most one of them at its start. Main statement: whatever follows it, a text that is quoted
is printable, is taken up to its closing quote and no other, and gives back what was quoted; so the entries
of the state have different places, and an event names its node in full.
-/

namespace DurableFlow.Skeleton

/-- What may stand between two quotes: neither a quote nor a backslash by itself, and a backslash with the
character behind it, unless that is a line feed. -/
inductive Inside : List Char → Prop where
  | nil : Inside []
  | plain {c : Char} {cs : List Char} (hquote : c ≠ '"') (hslash : c ≠ '\\') (h : Inside cs) :
      Inside (c :: cs)
  | escaped {c : Char} {cs : List Char} (hfeed : c ≠ '\n') (h : Inside cs) : Inside ('\\' :: c :: cs)

/-- A quoted text as it may stand in code, with its quotes. -/
def IsToken (cs : List Char) : Prop := ∃ inside, Inside inside ∧ cs = '"' :: (inside ++ ['"'])

theorem stringRest_of_inside {inside : List Char} (h : Inside inside) (rest : List Char) :
    stringRest false (inside ++ '"' :: rest) = some (inside ++ ['"'], rest) := by
  induction h with
  | nil => rfl
  | plain hquote hslash _ ih =>
      rw [List.cons_append, stringRest, if_neg hquote, decide_eq_false hslash, ih]
      rfl
  | escaped hfeed _ ih =>
      rw [List.cons_append, List.cons_append, stringRest, if_neg (by decide), decide_eq_true rfl,
        stringRest, if_neg hfeed, ih]
      rfl

/-- What was read has a closing quote behind it; behind a backslash, its first character belongs to that. -/
theorem inside_of_stringRest {escaped : Bool} {cs front rest : List Char}
    (h : stringRest escaped cs = some (front, rest)) : cs = front ++ rest ∧
      ∃ inside, front = inside ++ ['"'] ∧ Inside (if escaped then '\\' :: inside else inside) := by
  induction cs generalizing escaped front with
  | nil => cases escaped <;> simp [stringRest] at h
  | cons c cs ih =>
      cases escaped with
      | true =>
          rw [stringRest] at h
          split at h
          · contradiction
          rename_i hfeed
          obtain ⟨⟨front', rest'⟩, hread, heq⟩ := Option.map_eq_some_iff.mp h
          obtain ⟨rfl, rfl⟩ := Prod.mk.inj heq
          obtain ⟨rfl, inside, rfl, hinside⟩ := ih hread
          exact ⟨rfl, c :: inside, rfl, .escaped hfeed hinside⟩
      | false =>
          rw [stringRest] at h
          split at h
          · rename_i hquote
            obtain ⟨rfl, rfl⟩ := Prod.mk.inj (Option.some.inj h)
            exact ⟨by rw [hquote]; rfl, [], rfl, .nil⟩
          rename_i hquote
          obtain ⟨⟨front', rest'⟩, hread, heq⟩ := Option.map_eq_some_iff.mp h
          obtain ⟨rfl, rfl⟩ := Prod.mk.inj heq
          obtain ⟨rfl, inside, rfl, hinside⟩ := ih hread
          refine ⟨rfl, c :: inside, rfl, ?_⟩
          by_cases hslash : c = '\\'
          · simpa [hslash] using hinside
          · exact .plain hquote hslash (by simpa [hslash] using hinside)

/-- The reader takes the tokens, and nothing else. -/
theorem stringToken?_eq_some_iff {cs token rest : List Char} :
    stringToken? cs = some (token, rest) ↔ IsToken token ∧ cs = token ++ rest := by
  constructor
  · intro h
    rw [stringToken?.eq_def] at h
    split at h
    · obtain ⟨⟨front, rest'⟩, hread, heq⟩ := Option.map_eq_some_iff.mp h
      obtain ⟨rfl, rfl⟩ := Prod.mk.inj heq
      obtain ⟨rfl, inside, rfl, hinside⟩ := inside_of_stringRest hread
      exact ⟨⟨inside, hinside, rfl⟩, rfl⟩
    · contradiction
  · rintro ⟨⟨inside, hinside, rfl⟩, rfl⟩
    rw [List.cons_append, List.append_assoc, List.singleton_append, stringToken?,
      stringRest_of_inside hinside]
    rfl

theorem IsToken.cut {token token' rest rest' : List Char} (h : IsToken token) (h' : IsToken token')
    (heq : token ++ rest = token' ++ rest') : token = token' ∧ rest = rest' := by
  have hread : stringToken? (token ++ rest) = some (token, rest) :=
    stringToken?_eq_some_iff.mpr ⟨h, rfl⟩
  have hread' : stringToken? (token ++ rest) = some (token', rest') :=
    stringToken?_eq_some_iff.mpr ⟨h', heq⟩
  exact Prod.mk.inj (Option.some.inj (hread.symm.trans hread'))

theorem isToken_quoteChars (cs : List Char) : IsToken (Json.quoteChars cs) :=
  (stringToken?_eq_some_iff.mp (stringToken?_quoteChars cs [])).1

theorem stringToken?_quote (s : String) (r : List Char) :
    stringToken? ((Json.quote s).toList ++ r) = some ((Json.quote s).toList, r) := by
  rw [toList_quote]
  exact stringToken?_quoteChars s.toList r

/-- The places of two nodes in the state differ when their ids do, whatever stands behind them. -/
theorem stateEntry_cut {s t : String} {r r' : List Char} :
    (stateEntry t).toList ++ r' = (stateEntry s).toList ++ r ↔ t = s ∧ r' = r := by
  constructor
  · intro h
    simp only [stateEntry_eq, String.toList_append, List.append_assoc, toList_quote] at h
    obtain ⟨hchars, hrest⟩ := Json.quoteChars_cut (List.append_cancel_left h)
    exact ⟨String.toList_inj.mp hchars, List.append_cancel_left hrest⟩
  · rintro ⟨rfl, rfl⟩
    rfl

/-- The start event of a node is read as its id, its name and its type, each of them as it was quoted. -/
theorem exists_startEvent (n : Node) : ∃ front event : List Char,
    (Fragment.logEvent "WF_NODE_START" n "").toList = front ++ event ∧
      ∀ r, startEvent? (event ++ r) = some (⟨(Json.quote n.id).toList,
        (Json.quote n.displayName).toList, (Json.quote n.type).toList⟩,
        (Fragment.logEnd "").toList ++ r) := by
  refine ⟨("console.log(JSON.stringify(" ++ "\x7b ").toList,
    eventChars n ++ (Fragment.logEnd "").toList, ?_, fun r => ?_⟩
  · rw [Fragment.logEvent_eq, ← Fragment.toList_nodeFields, ← Fragment.eventHead_eq]
    simp only [String.toList_append, List.append_assoc]
  · rw [List.append_assoc, startEvent?_eventChars]
    simp [eventOf]

/-- For every text and whatever follows it: the quoted text is printable ASCII, the reader of quoted texts
takes it and nothing else, it is the only token that the whole starts with, and read as JSON it gives the
text back. So different texts are quoted differently, the entry of one node in the state is not the start of
the entry of another one, and in the event of a node each of the three texts is read up to its end. -/
theorem quote_token_exact (s : String) (r : List Char) :
    (∀ c ∈ (Json.quote s).toList, Json.IsPrintable c) ∧
    (∀ token rest, stringToken? ((Json.quote s).toList ++ r) = some (token, rest) ↔
      token = (Json.quote s).toList ∧ rest = r) ∧
    (∀ token, IsToken token ∧ token <+: (Json.quote s).toList ++ r ↔
      token = (Json.quote s).toList) ∧
    Json.parse (Json.quote s) = .ok (.str s) ∧
    (∀ t, Json.quote t = Json.quote s ↔ t = s) ∧
    (∀ t rest, (stateEntry t).toList ++ rest = (stateEntry s).toList ++ r ↔ t = s ∧ rest = r) ∧
    ∀ n : Node, ∃ front event : List Char,
      (Fragment.logEvent "WF_NODE_START" n "").toList = front ++ event ∧
        startEvent? (event ++ r) = some (⟨(Json.quote n.id).toList,
          (Json.quote n.displayName).toList, (Json.quote n.type).toList⟩,
          (Fragment.logEnd "").toList ++ r) := by
  refine ⟨?_, ?_, ?_, Json.parse_quote s, ?_, ?_, ?_⟩
  · intro c hc
    rw [toList_quote] at hc
    exact Json.isPrintable_quoteChars hc
  · intro token rest
    rw [stringToken?_quote, Option.some.injEq, Prod.mk.injEq, eq_comm, @eq_comm _ r]
  · intro token
    have hquoted : IsToken (Json.quote s).toList := by
      rw [toList_quote]
      exact isToken_quoteChars s.toList
    constructor
    · rintro ⟨htoken, rest, heq⟩
      exact (htoken.cut hquoted heq).1
    · rintro rfl
      exact ⟨hquoted, List.prefix_append _ r⟩
  · intro t
    refine ⟨fun h => ?_, fun h => h ▸ rfl⟩
    have hread := Json.parse_quote t
    rw [h, Json.parse_quote] at hread
    exact (Json.str.inj (Except.ok.inj hread)).symm
  · exact fun t rest => stateEntry_cut
  · intro n
    obtain ⟨front, event, hevent, hread⟩ := exists_startEvent n
    exact ⟨front, event, hevent, hread r⟩

end DurableFlow.Skeleton
