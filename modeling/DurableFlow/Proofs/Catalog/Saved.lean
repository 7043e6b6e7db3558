import DurableFlow.Proofs.Catalog.Stored
import DurableFlow.Proofs.Files.Writing
import Mathlib.Data.List.Nodup

/-!
Saved catalogs. Registering keeps one definition for each type, and the last one counts; so a catalog
is determined by what it has for each type. Main statement: a catalog that was built by registering
valid definitions is loaded again from the file that it was saved to, and loaded over the built-in
catalog it overrides just the types that it has.
-/

namespace DurableFlow.Catalog

/-! ### Registering -/

/-- The catalog has one definition for each type, and the definitions keep their rules. -/
structure WellFormed (c : Catalog) : Prop where
  types : (c.definitions.map (·.type)).Nodup
  valid : ∀ d ∈ c.definitions, d.Valid

/-- The catalog comes about by registering: definitions that keep the rules of their fields, and
definitions that are read from values. -/
inductive Built : Catalog → Prop
  | empty : Built {}
  | register {c : Catalog} {d : Definition} : Built c → d.Valid → Built (c.register d)
  | add {c c' : Catalog} {v : Json} {d : Definition} :
      Built c → v.Distinct → c.add v = .ok (c', d) → Built c'

theorem add_eq_ok {c c' : Catalog} {v : Json} {d : Definition} (h : c.add v = .ok (c', d)) :
    Definition.read v = .ok d ∧ c' = c.register d := by
  rw [add] at h
  split at h
  · next hread =>
      cases h
      exact ⟨hread, rfl⟩
  · contradiction
  · contradiction

theorem mem_insert {d e : Definition} {ds : List Definition} (h : e ∈ insert d ds) :
    e = d ∨ e ∈ ds := by
  induction ds with
  | nil => exact .inl (List.mem_singleton.mp h)
  | cons e' rest ih =>
      rw [insert] at h
      split at h
      · rcases List.mem_cons.mp h with h | h
        · exact .inl h
        · exact .inr (List.mem_cons_of_mem _ h)
      · rcases List.mem_cons.mp h with h | h
        · exact .inr (h ▸ List.mem_cons_self)
        · exact (ih h).imp_right (List.mem_cons_of_mem _)

theorem types_insert (d : Definition) (ds : List Definition) :
    (insert d ds).map (·.type) =
      if d.type ∈ ds.map (·.type) then ds.map (·.type) else ds.map (·.type) ++ [d.type] := by
  induction ds with
  | nil => rfl
  | cons e rest ih =>
      rw [insert]
      by_cases he : e.type = d.type
      · simp [he]
      · have he' : d.type ≠ e.type := Ne.symm he
        simp only [if_neg he, List.map_cons, ih, List.mem_cons, he', false_or]
        split <;> rfl

/-- What one registration keeps. -/
theorem WellFormed.register {c : Catalog} (hc : c.WellFormed) {d : Definition} (hd : d.Valid) :
    (c.register d).WellFormed where
  types := by
    rw [Catalog.register, types_insert]
    split
    · exact hc.types
    · next hnew => exact hc.types.append (List.nodup_singleton _) (by simpa using hnew)
  valid := fun e he => by
    rcases mem_insert he with rfl | he
    · exact hd
    · exact hc.valid e he

theorem Built.wellFormed {c : Catalog} (h : c.Built) : c.WellFormed := by
  induction h with
  | empty => exact ⟨List.nodup_nil, fun d hd => absurd hd List.not_mem_nil⟩
  | register _ hd ih => exact ih.register hd
  | add _ hv hadd ih =>
      obtain ⟨hread, rfl⟩ := add_eq_ok hadd
      exact ih.register (Definition.valid_of_read hv hread)

theorem insert_of_not_mem {d : Definition} {ds : List Definition} (h : d.type ∉ ds.map (·.type)) :
    insert d ds = ds ++ [d] := by
  induction ds with
  | nil => rfl
  | cons e rest ih =>
      rw [List.map_cons, List.mem_cons, not_or] at h
      rw [insert, if_neg (Ne.symm h.1), ih h.2, List.cons_append]

theorem foldl_register_of_nodup {front ds : List Definition}
    (h : ((front ++ ds).map (·.type)).Nodup) : ds.foldl register ⟨front⟩ = ⟨front ++ ds⟩ := by
  induction ds generalizing front with
  | nil => simp
  | cons d ds ih =>
      have hnew : d.type ∉ front.map (·.type) := by
        rw [List.map_append, List.nodup_append] at h
        exact fun hd => h.2.2 _ hd _ (List.mem_map_of_mem List.mem_cons_self) rfl
      rw [List.foldl_cons, register, insert_of_not_mem hnew, ih (by simpa using h), List.append_assoc]
      rfl

theorem Built.foldl {c : Catalog} (hc : c.Built) {ds : List Definition} (h : ∀ d ∈ ds, d.Valid) :
    (ds.foldl Catalog.register c).Built := by
  induction ds generalizing c with
  | nil => exact hc
  | cons d ds ih =>
      rw [List.forall_mem_cons] at h
      exact ih (hc.register h.1) h.2

/-- Every catalog with valid definitions of different types can be built. -/
theorem built_iff {c : Catalog} : c.Built ↔ c.WellFormed := by
  refine ⟨Built.wellFormed, fun hc => ?_⟩
  have hbuilt := Built.foldl .empty hc.valid
  rwa [show ({} : Catalog) = ⟨[]⟩ from rfl, foldl_register_of_nodup (by simpa using hc.types)] at hbuilt

/-- The definitions of the built-in catalog keep the rules. -/
theorem builtin_wellFormed : Catalog.builtin.WellFormed where
  types := by decide
  valid := by
    have hkinds : ∀ d ∈ Catalog.builtin.definitions, ∀ r ∈ d.bindings, r.kind ∈ resourceKinds := by
      decide
    have hschema : ∀ d ∈ Catalog.builtin.definitions, (Json.obj d.configSchema).Distinct := by
      decide
    have hexamples : ∀ d ∈ Catalog.builtin.definitions, ∀ ms ∈ d.examples, (Json.obj ms).Distinct := by
      decide
    have hpreset : ∀ d ∈ Catalog.builtin.definitions, ∀ ms ∈ d.presetOutput,
        (Json.obj ms).Distinct := by
      decide
    exact fun d hd => ⟨hkinds d hd, hschema d hd, hexamples d hd, hpreset d hd⟩

/-! ### Looking up -/

theorem get?_register (c : Catalog) (d : Definition) (type : String) :
    (c.register d).get? type = if d.type = type then some d else c.get? type := by
  split
  · next h => exact h ▸ get?_register_self c d
  · next h =>
      have hgo (ds : List Definition) :
          (insert d ds).find? (fun e => e.type == type) = ds.find? (fun e => e.type == type) := by
        induction ds with
        | nil => simp [insert, h]
        | cons e rest ih =>
            by_cases he : e.type = d.type
            · simp [insert, he, h]
            · simp [insert, he, List.find?_cons, ih]
      exact hgo c.definitions

theorem get?_cons (d : Definition) (ds : List Definition) (type : String) :
    (⟨d :: ds⟩ : Catalog).get? type = if d.type = type then some d else (⟨ds⟩ : Catalog).get? type := by
  simp only [get?, List.find?_cons, beq_eq_decide]
  split <;> simp_all

theorem get?_eq_none_iff {c : Catalog} {type : String} :
    c.get? type = none ↔ type ∉ c.definitions.map (·.type) := by
  simp [get?]

theorem get?_eq_some_iff {c : Catalog} (hc : (c.definitions.map (·.type)).Nodup) {type : String}
    {d : Definition} : c.get? type = some d ↔ d ∈ c.definitions ∧ d.type = type := by
  obtain ⟨ds⟩ := c
  induction ds with
  | nil => simp [get?]
  | cons e ds ih =>
      rw [List.map_cons, List.nodup_cons] at hc
      rw [get?_cons]
      split
      · next he =>
          rw [Option.some.injEq, List.mem_cons]
          refine ⟨fun hd => hd ▸ ⟨.inl rfl, he⟩, ?_⟩
          rintro ⟨rfl | hd, htype⟩
          · rfl
          · exact absurd (List.mem_map.mpr ⟨d, hd, htype.trans he.symm⟩) hc.1
      · next he =>
          rw [ih hc.2, List.mem_cons]
          refine and_congr_left fun htype => ⟨.inr, fun hd => hd.resolve_left ?_⟩
          rintro rfl
          exact he htype

theorem get?_foldl_register (ds : List Definition) (h : (ds.map (·.type)).Nodup) (c : Catalog)
    (type : String) :
    (ds.foldl register c).get? type = ((⟨ds⟩ : Catalog).get? type).or (c.get? type) := by
  induction ds generalizing c with
  | nil => rfl
  | cons d ds ih =>
      rw [List.map_cons, List.nodup_cons] at h
      rw [List.foldl_cons, ih h.2, get?_register, get?_cons]
      split
      · next hd =>
          have hnone : (⟨ds⟩ : Catalog).get? type = none := get?_eq_none_iff.mpr (hd ▸ h.1)
          rw [hnone]
          rfl
      · rfl

/-! ### Types -/

theorem mem_types_iff {c : Catalog} {type : String} : type ∈ c.types ↔ c.has type = true := by
  have hmem : type ∈ c.types ↔ type ∈ c.definitions.map (·.type) := by
    simp [types, sorted]
  rw [hmem, has, Option.isSome_iff_ne_none, ne_eq, get?_eq_none_iff, not_not]

theorem types_pairwise (c : Catalog) : c.types.Pairwise (· ≤ ·) := by
  have htrans (d e f : Definition) (hde : decide (d.type ≤ e.type) = true)
      (hef : decide (e.type ≤ f.type) = true) : decide (d.type ≤ f.type) = true :=
    decide_eq_true (String.le_trans (of_decide_eq_true hde) (of_decide_eq_true hef))
  have htotal (d e : Definition) : (decide (d.type ≤ e.type) || decide (e.type ≤ d.type)) = true := by
    simpa only [Bool.or_eq_true, decide_eq_true_eq] using String.le_total d.type e.type
  have hsorted : c.sorted.Pairwise fun d e => decide (d.type ≤ e.type) = true :=
    List.pairwise_mergeSort htrans htotal c.definitions
  exact List.pairwise_map.mpr (hsorted.imp of_decide_eq_true)

theorem nodup_types {c : Catalog} (hc : c.WellFormed) : c.types.Nodup :=
  ((List.mergeSort_perm _ _).map _).nodup_iff.mpr hc.types

theorem types_eq {c c' : Catalog} (hc : c.WellFormed) (hc' : c'.WellFormed)
    (h : ∀ type, c.get? type = c'.get? type) : c.types = c'.types := by
  have hperm : c.types.Perm c'.types := by
    rw [List.perm_ext_iff_of_nodup (nodup_types hc) (nodup_types hc')]
    intro type
    rw [mem_types_iff, mem_types_iff, has, has, h]
  exact hperm.eq_of_pairwise (fun _ _ _ _ => String.le_antisymm) (types_pairwise c) (types_pairwise c')

/-! ### Saving and loading -/

theorem addAll_toJson (c : Catalog) {ds : List Definition} (h : ∀ d ∈ ds, d.Valid) :
    c.addAll (ds.map Definition.toJson) = .ok (ds.foldl register c) := by
  induction ds generalizing c with
  | nil => rfl
  | cons d ds ih =>
      rw [List.forall_mem_cons] at h
      have hadd : c.add d.toJson = .ok (c.register d, d) := by
        rw [add, Definition.read_toJson h.1]
      rw [List.map_cons, addAll, hadd]
      exact ih (c.register d) h.2

theorem mem_sorted {c : Catalog} {d : Definition} : d ∈ c.sorted ↔ d ∈ c.definitions :=
  List.mem_mergeSort

theorem distinct_toJson {c : Catalog} (hc : c.WellFormed) : c.toJson.Distinct := by
  have hnodes : (Json.arr (c.sorted.map Definition.toJson)).Distinct := by
    rw [Json.Distinct, Json.distinctItems_iff, List.forall_mem_map]
    exact fun d hd => Definition.distinct_toJson (hc.valid d (mem_sorted.mp hd))
  exact ⟨List.nodup_singleton _, hnodes, trivial⟩

/-- Loading what was saved registers the definitions in the order of their types. -/
theorem load_save {c : Catalog} (hc : c.WellFormed) {text : String} (h : c.save = .ok text)
    (start : Catalog) : start.load text = .ok (c.sorted.foldl register start) := by
  have hparse : Json.parse text = .ok c.toJson := Json.parse_write (distinct_toJson hc) h
  have hentries : entries? c.toJson = some (c.sorted.map Definition.toJson) := rfl
  unfold load
  rw [hparse]
  simp only [hentries]
  exact addAll_toJson start fun d hd => hc.valid d (mem_sorted.mp hd)

theorem get?_sorted {c : Catalog} (hc : c.WellFormed) (type : String) :
    (⟨c.sorted⟩ : Catalog).get? type = c.get? type := by
  have hsorted : (c.sorted.map (·.type)).Nodup := nodup_types hc
  refine Option.ext fun d => ?_
  rw [get?_eq_some_iff hc.types, get?_eq_some_iff (c := ⟨c.sorted⟩) hsorted, mem_sorted]

/-- There is room for a file at the path: its directory is there or can be made, and no directory stands
in its place. -/
def HasRoom (fs : Files) (path : String) : Prop :=
  ∃ made place, fs.makeDirectory (parentPath (tidyPath path)) = (made, .ok ()) ∧
    made.locate (tidyPath path) = .ok place ∧ made.get? place ≠ some .directory

/-- A catalog is saved when there is a text for it and room for the text. -/
theorem saveFile_eq_ok_iff {c : Catalog} {fs fs' : Files} {path : String} :
    c.saveFile fs path = (fs', .ok ()) ↔
      ∃ made text, fs.makeDirectory (parentPath (tidyPath path)) = (made, .ok ()) ∧
        c.save = .ok text ∧ made.writeText (tidyPath path) text = .ok fs' := by
  unfold saveFile
  -- What is written does not matter here, and must not be computed.
  generalize c.save = saved
  constructor
  · intro h
    split at h
    · cases h
    next made hmake =>
      split at h
      · cases h
      next text =>
        split at h
        · cases h
        next hwrite => exact ⟨made, text, hmake, rfl, (Prod.mk.inj h).1 ▸ hwrite⟩
  · rintro ⟨made, text, hmake, rfl, hwrite⟩
    rw [hmake]
    dsimp only
    rw [hwrite]

theorem exists_saveFile_iff {c : Catalog} {fs : Files} {path : String} :
    (∃ fs', c.saveFile fs path = (fs', .ok ())) ↔ c.toJson.Within ∧ HasRoom fs path := by
  simp only [saveFile_eq_ok_iff, save, Json.write_eq_ok_iff, HasRoom]
  constructor
  · rintro ⟨fs', made, text, hmake, ⟨hwithin, -⟩, hwrite⟩
    obtain ⟨place, hplace⟩ := Files.exists_writeText_iff.mp ⟨fs', hwrite⟩
    exact ⟨hwithin, made, place, hmake, hplace⟩
  · rintro ⟨hwithin, made, place, hmake, hplace⟩
    obtain ⟨fs', hwrite⟩ := Files.exists_writeText_iff.mpr ⟨place, hplace⟩
    exact ⟨fs', made, _, hmake, ⟨hwithin, rfl⟩, hwrite⟩

/-- A catalog lies within the limits when its definitions do, two levels further down. -/
theorem within_toJson_iff {c : Catalog} :
    c.toJson.Within ↔
      ∀ d ∈ c.definitions, d.toJson.Limited ∧ d.toJson.nesting + 2 ≤ Json.maxDepth := by
  have hlimited : c.toJson.Limited ↔ ∀ d ∈ c.definitions, d.toJson.Limited := by
    simp only [toJson, Json.Limited, Json.LimitedMembers, Json.limitedItems_iff, List.forall_mem_map,
      mem_sorted, and_true]
  have hnesting : c.toJson.nesting ≤ Json.maxDepth ↔
      ∀ d ∈ c.definitions, d.toJson.nesting + 2 ≤ Json.maxDepth := by
    have hitems : c.toJson.nesting = Json.nestingItems (c.sorted.map Definition.toJson) + 2 := by
      simp [toJson, Json.nesting, Json.nestingMembers]
    rw [hitems, ← Nat.le_sub_iff_add_le (by decide), Json.nestingItems_le_iff, List.forall_mem_map]
    simp only [mem_sorted, Nat.le_sub_iff_add_le (show 2 ≤ Json.maxDepth by decide)]
  rw [Json.Within, hlimited, hnesting]
  exact forall₂_and.symm

/-- What is loaded from the file of a catalog, over whatever catalog it is loaded. -/
theorem loadFile_saveFile {c : Catalog} (hc : c.WellFormed) {fs fs' : Files} {path : String}
    (h : c.saveFile fs path = (fs', .ok ())) (start : Catalog) :
    start.loadFile fs' path = .ok (c.sorted.foldl register start) := by
  obtain ⟨made, text, -, htext, hwrite⟩ := saveFile_eq_ok_iff.mp h
  have hread := (Files.readText_writeText hwrite (Json.write_no_return htext)).2
  unfold loadFile
  rw [hread]
  exact load_save hc htext start

/-- The catalog that is loaded has the definitions of the file, and those below for other types. -/
theorem get?_loaded {c : Catalog} (hc : c.WellFormed) (start : Catalog) (type : String) :
    (c.sorted.foldl register start).get? type = (c.get? type).or (start.get? type) := by
  have hsorted : (c.sorted.map (·.type)).Nodup := nodup_types hc
  rw [get?_foldl_register c.sorted hsorted, get?_sorted hc]

theorem get?_or_of_covers {c start : Catalog} (h : ∀ type ∈ start.types, type ∈ c.types)
    (type : String) : (c.get? type).or (start.get? type) = c.get? type := by
  cases hfound : c.get? type with
  | some d => rfl
  | none =>
      cases hbelow : start.get? type with
      | none => rfl
      | some d =>
          have hmem := h type (mem_types_iff.mpr (by rw [has, hbelow]; rfl))
          rw [mem_types_iff, has, hfound] at hmem
          contradiction

theorem exists_loadFile {c start : Catalog} (hc : c.WellFormed) (hstart : start.WellFormed)
    {fs fs' : Files} {path : String} (h : c.saveFile fs path = (fs', .ok ())) :
    ∃ loaded, start.loadFile fs' path = .ok loaded ∧
      (∀ type, loaded.get? type = (c.get? type).or (start.get? type)) ∧
      ((∀ type ∈ start.types, type ∈ c.types) →
        loaded.types = c.types ∧ ∀ type, loaded.get? type = c.get? type) := by
  have hvalid : ∀ d ∈ c.sorted, d.Valid := fun d hd => hc.valid d (mem_sorted.mp hd)
  have hloaded : (c.sorted.foldl register start).WellFormed :=
    ((built_iff.mpr hstart).foldl hvalid).wellFormed
  refine ⟨_, loadFile_saveFile hc h start, get?_loaded hc start, fun hcover => ?_⟩
  have hget (type : String) : (c.sorted.foldl register start).get? type = c.get? type := by
    rw [get?_loaded hc, get?_or_of_covers hcover]
  exact ⟨types_eq hloaded hc hget, hget⟩

/-- A catalog that was built by registering can be saved where there is room for a file, unless it passes
the limits of the format. From its file it is loaded without loss: over the empty catalog it is the
same, and over the built-in catalog its definitions override. -/
theorem saved_file_loads {R : Catalog} (hR : R.Built) (fs : Files) (path : String) :
    ((∃ fs', R.saveFile fs path = (fs', .ok ())) ↔ R.toJson.Within ∧ HasRoom fs path) ∧
    ∀ fs', R.saveFile fs path = (fs', .ok ()) →
      (∃ C, ({} : Catalog).loadFile fs' path = .ok C ∧
        C.types = R.types ∧ ∀ type, C.get? type = R.get? type) ∧
      ∃ B, Catalog.builtin.loadFile fs' path = .ok B ∧
        (∀ type, B.get? type = (R.get? type).or (Catalog.builtin.get? type)) ∧
        ((∀ type ∈ Catalog.builtin.types, type ∈ R.types) →
          B.types = R.types ∧ ∀ type, B.get? type = R.get? type) := by
  refine ⟨exists_saveFile_iff, fun fs' hsave => ⟨?_, ?_⟩⟩
  · obtain ⟨C, hload, -, hsame⟩ := exists_loadFile hR.wellFormed Built.empty.wellFormed hsave
    exact ⟨C, hload, hsame fun type htype => by simp [types, sorted] at htype⟩
  · exact exists_loadFile hR.wellFormed builtin_wellFormed hsave

/-! ### A catalog that overrides a built-in type -/

/-- A definition with nulls and numbers of both kinds inside its values. -/
def cachedGet : Definition where
  type := "kv-get"
  name := "Cached Get"
  category := "storage"
  configSchema :=
    [("type", .str "object"),
     ("properties", .obj
       [("ttl", .obj [("default", .null),
         ("maximum", .float (.finite false 7205759403792794 (-56) (by decide)))])])]
  bindings := [{ kind := "kv", name := "CACHE", configField := some "namespace" }]
  examples := [[("key", .null), ("größe", .arr [.null, .obj []])]]
  presetOutput := some [("value", .null), ("hits", .int (-3))]

theorem valid_cachedGet : cachedGet.Valid where
  kinds := by decide
  schema := by decide
  examples := by decide
  preset := by decide

theorem within_cachedGet : (Catalog.builtin.register cachedGet).toJson.Within := by
  have hcheck : ∀ d ∈ (Catalog.builtin.register cachedGet).definitions,
      Json.checkAt 983 d.toJson = .ok () := by
    decide +kernel
  refine within_toJson_iff.mpr fun d hd => ?_
  obtain ⟨hlimited, hnesting⟩ := (Json.checkAt_eq_ok_iff _ _).mp (hcheck d hd)
  exact ⟨hlimited, Nat.add_le_add_right hnesting 2⟩

/-- The catalog covers the built-in types, so it is loaded over them as it was. -/
theorem saved_file_loads_override :
    let R := Catalog.builtin.register cachedGet
    ∃ fs', R.saveFile {} "catalog/nodes.json" = (fs', .ok ()) ∧
      ∃ C, ({} : Catalog).loadFile fs' "catalog/nodes.json" = .ok C ∧
        C.get? "kv-get" = some cachedGet ∧
      ∃ B, Catalog.builtin.loadFile fs' "catalog/nodes.json" = .ok B ∧
        B.types = R.types ∧ B.get? "kv-get" = some cachedGet := by
  intro R
  have hbuilt : R.Built := .register (built_iff.mpr builtin_wellFormed) valid_cachedGet
  have hroom : HasRoom {} "catalog/nodes.json" :=
    ⟨{ entries := [(["catalog"], .directory)] }, ["catalog", "nodes.json"],
      by decide, by decide, by decide⟩
  have hget : R.get? "kv-get" = some cachedGet := get?_register_self _ _
  have hcover : ∀ type ∈ Catalog.builtin.types, type ∈ R.types := by
    intro type htype
    rw [mem_types_iff] at htype ⊢
    rw [has, get?_register]
    split
    · rfl
    · exact htype
  have hmain := saved_file_loads hbuilt {} "catalog/nodes.json"
  obtain ⟨fs', hsave⟩ := hmain.1.mpr ⟨within_cachedGet, hroom⟩
  obtain ⟨⟨C, hC, -, hsame⟩, B, hB, -, hcovered⟩ := hmain.2 fs' hsave
  obtain ⟨htypes, hsameB⟩ := hcovered hcover
  exact ⟨fs', hsave, C, hC, (hsame _).trans hget, B, hB, htypes, (hsameB _).trans hget⟩

end DurableFlow.Catalog
