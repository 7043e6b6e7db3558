import DurableFlow.Proofs.Decimal.Whole
import DurableFlow.Proofs.Expression.Accessor
import DurableFlow.Proofs.Json.Unambiguous
import DurableFlow.Proofs.Text.Split

/-!
Chains of member accesses as the target language reads them. An access gives the key of a property as a
name, as a number or as a quoted text, and a chain selects its keys one after the other. A chain can be
read in one way only, and it can be cut behind each of its accesses.
-/

namespace DurableFlow.Path

/-! ### Chains -/

/-- A well-formed chain of member accesses, with the keys of the properties that it selects. A number has
no leading zero unless it is zero, and selects the property that is named by its value. -/
inductive Selects : List Char → List (List Char) → Prop where
  | nil : Selects [] []
  | name {name rest : List Char} {keys : List (List Char)} (hname : IsIdentifierName name)
      (h : Selects rest keys) : Selects ('.' :: (name ++ rest)) (name :: keys)
  | index (n : Nat) {rest : List Char} {keys : List (List Char)} (h : Selects rest keys) :
      Selects ('[' :: (Nat.toDigits 10 n ++ ']' :: rest)) (Decimal.keyText n :: keys)
  | quoted {cs key rest : List Char} {keys : List (List Char)}
      (hkey : Json.readString 0 cs = .ok (key, ']' :: rest)) (h : Selects rest keys) :
      Selects ('[' :: '"' :: cs) (key :: keys)

/-- The characters with which an access starts. -/
def startsAccess (c : Char) : Bool := c = '.' || c = '['

/-- The text is empty or goes on with an access. -/
def Follows (rest : List Char) : Prop := ∀ c ∈ rest.head?, startsAccess c = true

theorem Follows.append {a b : List Char} (ha : Follows a) (hb : Follows b) : Follows (a ++ b) := by
  cases a with
  | nil => exact hb
  | cons c a => exact ha

theorem Selects.follows {cs : List Char} {keys : List (List Char)} (h : Selects cs keys) :
    Follows cs := by
  cases h with
  | nil => simp [Follows]
  | name => simp [Follows, startsAccess]
  | index => simp [Follows, startsAccess]
  | quoted => simp [Follows, startsAccess]

/-! ### Cutting a chain -/

theorem name_cut {a b rest rest' : List Char} (ha : ∀ c ∈ a, startsAccess c = false)
    (hb : ∀ c ∈ b, startsAccess c = false) (hrest : Follows rest) (hrest' : Follows rest')
    (h : a ++ rest = b ++ rest') : a = b ∧ rest = rest' :=
  Text.run_cut (p := fun c => !startsAccess c) (fun c hc => by simp [ha c hc])
    (fun c hc => by simp [hb c hc]) (fun c hc => by simp [hrest c hc])
    (fun c hc => by simp [hrest' c hc]) h

theorem not_startsAccess_of_class {p : Char → Bool} (hdot : p '.' = false) (hopen : p '[' = false)
    {c : Char} (h : p c = true) : startsAccess c = false := by
  rw [Bool.eq_false_iff]
  intro hstarts
  simp only [startsAccess, Bool.or_eq_true, decide_eq_true_eq] at hstarts
  rcases hstarts with rfl | rfl
  · exact absurd h (Bool.eq_false_iff.mp hdot)
  · exact absurd h (Bool.eq_false_iff.mp hopen)

theorem IsIdentifierName.not_startsAccess {name : List Char} (h : IsIdentifierName name) :
    ∀ c ∈ name, startsAccess c = false := fun c hc =>
  not_startsAccess_of_class (p := isIdentifierPart) (by decide) (by decide) (h.2 c hc)

theorem bracket_cut {a b rest rest' : List Char} (ha : ']' ∉ a) (hb : ']' ∉ b)
    (h : a ++ ']' :: rest = b ++ ']' :: rest') : a = b ∧ rest = rest' := by
  have hparts := Text.run_cut (p := fun c => c ≠ ']')
    (fun c hc => decide_eq_true (ne_of_mem_of_not_mem hc ha))
    (fun c hc => decide_eq_true (ne_of_mem_of_not_mem hc hb)) (by simp) (by simp) h
  exact ⟨hparts.1, (List.cons.inj hparts.2).2⟩

theorem isAsciiDigit_of_toDigits_eq {n : Nat} {c : Char} {cs rest : List Char}
    (h : c :: cs = Nat.toDigits 10 n ++ rest) : Text.isAsciiDigit c = true := by
  obtain ⟨d, ds, hds⟩ := List.exists_cons_of_ne_nil (Json.toDigits_ne_nil n)
  rw [hds, List.cons_append] at h
  rw [(List.cons.inj h).1]
  exact Json.isAsciiDigit_of_mem_toDigits (hds ▸ List.mem_cons_self)

theorem quote_ne_toDigits (n : Nat) (cs rest : List Char) :
    '"' :: cs ≠ Nat.toDigits 10 n ++ rest := fun h =>
  absurd (isAsciiDigit_of_toDigits_eq h) (by decide)

theorem bracket_not_mem_toDigits (n : Nat) : ']' ∉ Nat.toDigits 10 n := fun h =>
  absurd (Json.isAsciiDigit_of_mem_toDigits h) (by decide)

section Cut

variable {cs rest : List Char} {keys : List (List Char)}

theorem Selects.of_name (hcs : ∀ c ∈ cs, startsAccess c = false) (hrest : Follows rest)
    (h : Selects ('.' :: (cs ++ rest)) keys) :
    ∃ more, keys = cs :: more ∧ IsIdentifierName cs ∧ Selects rest more := by
  generalize hchain : '.' :: (cs ++ rest) = chain at h
  cases h with
  | nil => contradiction
  | name hname h =>
      obtain ⟨rfl, rfl⟩ := name_cut hcs hname.not_startsAccess hrest h.follows (List.cons.inj hchain).2
      exact ⟨_, rfl, hname, h⟩
  | index n h => exact absurd (List.cons.inj hchain).1 (by decide)
  | quoted hkey h => exact absurd (List.cons.inj hchain).1 (by decide)

theorem Selects.of_index (hcs : ']' ∉ cs) (hquote : cs.head? ≠ some '"')
    (h : Selects ('[' :: (cs ++ ']' :: rest)) keys) :
    ∃ n more, cs = Nat.toDigits 10 n ∧ keys = Decimal.keyText n :: more ∧ Selects rest more := by
  generalize hchain : '[' :: (cs ++ ']' :: rest) = chain at h
  cases h with
  | nil => contradiction
  | name hname h => exact absurd (List.cons.inj hchain).1 (by decide)
  | index n h =>
      obtain ⟨rfl, rfl⟩ := bracket_cut hcs (bracket_not_mem_toDigits n) (List.cons.inj hchain).2
      exact ⟨n, _, rfl, rfl, h⟩
  | quoted hkey h =>
      cases cs with
      | nil => exact absurd (List.cons.inj (List.cons.inj hchain).2).1 (by decide)
      | cons c cs =>
          rw [List.cons_append, List.cons.injEq, List.cons.injEq] at hchain
          exact absurd (congrArg some hchain.2.1) hquote

theorem Selects.of_quoted (h : Selects ('[' :: (Json.quoteChars cs ++ ']' :: rest)) keys) :
    ∃ more, keys = cs :: more ∧ Selects rest more := by
  generalize hchain : '[' :: (Json.quoteChars cs ++ ']' :: rest) = chain at h
  rw [Json.quoteChars_append] at hchain
  cases h with
  | nil => contradiction
  | name hname h => exact absurd (List.cons.inj hchain).1 (by decide)
  | index n h => exact absurd (List.cons.inj hchain).2 (quote_ne_toDigits n _ _)
  | quoted hkey h =>
      rw [← (List.cons.inj (List.cons.inj hchain).2).2, Json.readString_quoted] at hkey
      obtain ⟨rfl, hrest⟩ := Prod.mk.inj (Except.ok.inj hkey)
      rw [← (List.cons.inj hrest).2] at h
      exact ⟨_, rfl, h⟩

end Cut

theorem Selects.quoteChars (cs : List Char) {rest : List Char} {keys : List (List Char)}
    (h : Selects rest keys) : Selects ('[' :: (Json.quoteChars cs ++ ']' :: rest)) (cs :: keys) := by
  rw [Json.quoteChars_append]
  exact .quoted (Json.readString_quoted 0 cs _) h

theorem Selects.unique {cs : List Char} {keys keys' : List (List Char)} (h : Selects cs keys)
    (h' : Selects cs keys') : keys = keys' := by
  induction h generalizing keys' with
  | nil =>
      cases h'
      rfl
  | name hname h ih =>
      obtain ⟨more, rfl, -, h'⟩ := h'.of_name hname.not_startsAccess h.follows
      rw [ih h']
  | index n h ih =>
      have hquote : (Nat.toDigits 10 n).head? ≠ some '"' := fun hhead => by
        obtain ⟨ds, hds⟩ := List.head?_eq_some_iff.mp hhead
        exact quote_ne_toDigits n ds [] (by rw [hds, List.append_nil])
      obtain ⟨m, more, hdigits, rfl, hmore⟩ := h'.of_index (bracket_not_mem_toDigits n) hquote
      have hn : n = m := by
        rw [← Json.digitsValue_toDigits n, hdigits, Json.digitsValue_toDigits]
      rw [hn, ih hmore]
  | quoted hkey h ih =>
      generalize hchain : '[' :: '"' :: _ = chain at h'
      cases h' with
      | nil => contradiction
      | name hname h' => exact absurd (List.cons.inj hchain).1 (by decide)
      | index n h' => exact absurd (List.cons.inj hchain).2 (quote_ne_toDigits n _ _)
      | quoted hkey' h' =>
          rw [← (List.cons.inj (List.cons.inj hchain).2).2, hkey] at hkey'
          obtain ⟨rfl, hrest⟩ := Prod.mk.inj (Except.ok.inj hkey')
          rw [← (List.cons.inj hrest).2] at h'
          rw [ih h']

end DurableFlow.Path
