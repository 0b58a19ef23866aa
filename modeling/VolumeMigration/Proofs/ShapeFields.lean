import VolumeMigration.Cluster.Network
import VolumeMigration.Cluster.Schema
import VolumeMigration.Proofs.Texts
/-!
# Fields that a shape knows

A field of JSON is named by its path from the top (`Json.field?`). A shape with
records, numbers and texts takes a field that it has as it is, at any depth, and
drops every other one (`Shape.takes_conform?`). So what is read by it keeps all
of its fields exactly if the shape has them all (`Json.Takes.keeps_iff`).
-/

namespace VolumeMigration

/-! ## Members -/

namespace Fields

variable {fs gs : Fields} {key name : String} {v : Json}

theorem get?_cons_self (key : String) (v : Json) (fs : Fields) : get? ((key, v) :: fs) key = some v := by
  simp [get?]

theorem get?_cons_of_ne (h : name ≠ key) (v : Json) (fs : Fields) : get? ((name, v) :: fs) key = get? fs key := by
  simp [get?, h]

theorem get?_append (fs gs : Fields) (key : String) : (fs ++ gs).get? key = (fs.get? key).or (gs.get? key) := by
  simp only [get?, List.find?_append]
  cases fs.find? fun f => f.1 == key <;> rfl

theorem get?_opt_self {α : Type} (key : String) (toJson : α → Json) (v : Option α) :
    (opt key toJson v).get? key = v.map toJson := by
  cases v with
  | none => rfl
  | some v => exact get?_cons_self key (toJson v) []

theorem get?_opt_of_ne {α : Type} (h : name ≠ key) (toJson : α → Json) (v : Option α) :
    (opt name toJson v).get? key = none := by
  cases v with
  | none => rfl
  | some v => exact get?_cons_of_ne h (toJson v) []

theorem get?_without_of_mem {keys : List String} (h : key ∈ keys) (fs : Fields) :
    (fs.without keys).get? key = none := by
  have hnone : (fs.without keys).find? (fun f => f.1 == key) = none := by
    refine List.find?_eq_none.2 fun f hf hkey => ?_
    rw [without, List.mem_filter] at hf
    rw [beq_iff_eq.1 hkey] at hf
    simp [h] at hf
  rw [get?, hnone, Option.map_none]

theorem get?_without_of_not_mem {keys : List String} (h : key ∉ keys) (fs : Fields) :
    (fs.without keys).get? key = fs.get? key := by
  unfold get? without
  rw [List.find?_filter]
  congr 2
  funext f
  by_cases hkey : f.1 = key
  · simp [hkey, h]
  · simp [hkey]

end Fields

/-! ## Fields at a path -/

namespace Json

/-- A value without the members of a record. -/
def bare : Json → Json
  | obj _ => obj []
  | j => j

/-- What the field at a path holds, besides the fields within it. -/
def field? (j : Json) : List String → Option Json
  | [] => some j.bare
  | key :: path => (j.member? key).bind (·.field? path)

/-- The second value has at the path what the first one has, or leaves out a null where that is allowed. -/
def KeepsAt (nullable : List (List String)) (j j' : Json) (path : List String) : Prop :=
  j'.field? path = j.field? path ∨ path ∈ nullable ∧ j.field? path = some .null ∧ j'.field? path = none

/-- The second value has all fields of the first one, at any depth, and no other. -/
def Keeps (nullable : List (List String)) (j j' : Json) : Prop := ∀ path, j.KeepsAt nullable j' path

/-- The second value has the fields of the first one that are known, at any depth, and no other. -/
structure Takes (known nullable : List (List String)) (j j' : Json) : Prop where
  keeps : ∀ path ∈ known, j.KeepsAt nullable j' path
  drops : ∀ path ∉ known, j'.field? path = none

/-- All fields are kept if and only if all are known. -/
theorem Takes.keeps_iff {known nullable : List (List String)} {j j' : Json} (h : j.Takes known nullable j')
    (hnullable : ∀ path ∈ nullable, path ∈ known) :
    j.Keeps nullable j' ↔ ∀ path, j.field? path ≠ none → path ∈ known := by
  constructor
  · intro hkeeps path hpath
    refine Classical.byContradiction fun hknown => ?_
    rcases hkeeps path with hsame | ⟨hnull, -⟩
    · exact hpath (hsame.symm.trans (h.drops path hknown))
    · exact hknown (hnullable path hnull)
  · intro hall path
    by_cases hknown : path ∈ known
    · exact h.keeps path hknown
    · have hnone : j.field? path = none := Classical.byContradiction fun hpath => hknown (hall path hpath)
      exact .inl ((h.drops path hknown).trans hnone.symm)

theorem field?_obj (fs : Fields) (key : String) (path : List String) :
    (obj fs).field? (key :: path) = (fs.get? key).bind (·.field? path) := rfl

theorem field?_of_not_record {j : Json} (h : j.obj? = none) (key : String) (path : List String) :
    j.field? (key :: path) = none := by
  rw [field?, member?, h]
  rfl

end Json

/-! ## What a shape reads -/

namespace Shape

mutual

/-- The paths of the fields that values of a shape have. -/
def paths : Shape → List (List String)
  | record fields => [] :: fieldPaths fields
  | _ => [[]]

def fieldPaths : List (String × Presence × Shape) → List (List String)
  | [] => []
  | (name, _, s) :: rest => s.paths.map (name :: ·) ++ fieldPaths rest

end

mutual

/-- The paths where a null is left out. -/
def nullable : Shape → List (List String)
  | record fields => fieldNullable fields
  | _ => []

def fieldNullable : List (String × Presence × Shape) → List (List String)
  | [] => []
  | (name, presence, s) :: rest =>
    (if presence = .optional then [[name]] else []) ++ s.nullable.map (name :: ·) ++ fieldNullable rest

end

mutual

/-- Of the fields of the shape none is filled in, and none has a value that is written in another way. -/
def IsPlain : Shape → Prop
  | text | flag | int32 | int64 | intOrText => True
  | record fields => ArePlain fields
  | any | bytes | time | list _ | map _ => False

def ArePlain : List (String × Presence × Shape) → Prop
  | [] => True
  | (name, presence, s) :: rest => presence ≠ .filled ∧ s.IsPlain ∧ name ∉ rest.map (·.1) ∧ ArePlain rest

end

variable {name key : String} {presence : Presence} {s : Shape} {rest fields : List (String × Presence × Shape)}
  {fs gs others : Fields} {j v : Json}

/-- What the reading of a field adds to the fields after it. -/
inductive Reads (name : String) (presence : Presence) (s : Shape) (fs others : Fields) : Fields → Prop where
  | absent (h : presence = .optional ∨ presence = .omittable) (hmissing : fs.get? name = none) :
    Reads name presence s fs others others
  | dropped (h : presence = .optional) (hnull : fs.get? name = some .null) : Reads name presence s fs others others
  | made (h : presence = .filled) : Reads name presence s fs others ((name, blank s) :: others)
  | given {j v : Json} (hgiven : fs.get? name = some j) (h : conform? s j = some v) :
    Reads name presence s fs others ((name, v) :: others)

theorem conformFields?_cons (h : conformFields? ((name, presence, s) :: rest) fs = some gs) :
    ∃ others, conformFields? rest fs = some others ∧ Reads name presence s fs others gs := by
  rw [conformFields?, Option.bind_eq_bind, Option.bind_eq_some_iff] at h
  obtain ⟨others, hothers, h⟩ := h
  refine ⟨others, hothers, ?_⟩
  split at h
  · rename_i hmissing
    cases h
    exact .absent (.inl rfl) hmissing
  · rename_i hnull
    cases h
    exact .dropped rfl hnull
  · rename_i hmissing
    cases h
    exact .absent (.inr rfl) hmissing
  · cases h
    exact .made rfl
  · cases h
    exact .made rfl
  · cases h
  · rename_i hgiven _ _
    rw [Option.bind_eq_bind, Option.bind_eq_some_iff] at h
    obtain ⟨v, hv, h⟩ := h
    cases h
    exact .given hgiven hv

/-- Fields that are not listed are dropped. -/
theorem get?_conformFields?_of_not_mem (h : conformFields? fields fs = some gs) (hkey : key ∉ fields.map (·.1)) :
    gs.get? key = none := by
  induction fields generalizing gs with
  | nil =>
    cases h
    rfl
  | cons field rest ih =>
    obtain ⟨name, presence, s⟩ := field
    rw [List.map_cons, List.mem_cons, not_or] at hkey
    obtain ⟨others, hothers, hreads⟩ := conformFields?_cons h
    have hnone := ih hothers hkey.2
    cases hreads with
    | absent | dropped => exact hnone
    | made | given => exact (Fields.get?_cons_of_ne (Ne.symm hkey.1) ..).trans hnone

/-- A field that has to be given is read from what is given. -/
theorem get?_conformFields?_demanded (h : conformFields? fields fs = some gs) (hnames : (fields.map (·.1)).Nodup)
    (hmem : (name, .demanded, s) ∈ fields) :
    ∃ j v, fs.get? name = some j ∧ conform? s j = some v ∧ gs.get? name = some v := by
  induction fields generalizing gs with
  | nil => cases hmem
  | cons field rest ih =>
    obtain ⟨name', presence, s'⟩ := field
    obtain ⟨hfirst, hnames⟩ := List.nodup_cons.1 hnames
    obtain ⟨others, hothers, hreads⟩ := conformFields?_cons h
    rcases List.mem_cons.1 hmem with hfield | hmem
    · cases hfield
      cases hreads with
      | absent hpresence => simp at hpresence
      | dropped hpresence | made hpresence => cases hpresence
      | given hgiven hv => exact ⟨_, _, hgiven, hv, Fields.get?_cons_self ..⟩
    · have hne : name' ≠ name := by
        rintro rfl
        exact hfirst (List.mem_map.2 ⟨_, hmem, rfl⟩)
      obtain ⟨j, v, hj, hv, hget⟩ := ih hothers hnames hmem
      refine ⟨j, v, hj, hv, ?_⟩
      cases hreads with
      | absent | dropped => exact hget
      | made | given => exact (Fields.get?_cons_of_ne hne ..).trans hget

/-- Every path of fields begins with the name of one. -/
theorem mem_names_of_mem_fieldPaths {path : List String} (h : key :: path ∈ fieldPaths fields) :
    key ∈ fields.map (·.1) := by
  induction fields with
  | nil => simp [fieldPaths] at h
  | cons field rest ih =>
    obtain ⟨name, presence, s⟩ := field
    rw [fieldPaths, List.mem_append] at h
    rcases h with h | h
    · obtain ⟨_, -, hpath⟩ := List.mem_map.1 h
      cases hpath
      exact List.mem_cons_self
    · exact List.mem_cons_of_mem _ (ih h)

/-- A value that is no record has the one field that it is. -/
theorem takes_of_not_record (h : j.obj? = none) : j.Takes [[]] [] j where
  keeps _ _ := .inl rfl
  drops path hpath := by
    cases path with
    | nil => simp at hpath
    | cons key path => exact Json.field?_of_not_record h key path

theorem takes_within? {lo hi n : Int} (h : (Text.within? lo hi n).map Json.int = some v) :
    (Json.int n).Takes [[]] [] v := by
  obtain ⟨m, hm, rfl⟩ := Option.map_eq_some_iff.1 h
  rw [(Text.within?_eq_some.1 hm).1]
  exact takes_of_not_record rfl

mutual

/-- Of a value a shape takes the fields that it has. -/
theorem takes_conform? : ∀ (s : Shape), s.IsPlain → ∀ {j v : Json}, conform? s j = some v →
    j.Takes s.paths s.nullable v
  | .text, _, j, v, h => by
    cases j <;> simp only [conform?, reduceCtorEq, Option.some.injEq] at h
    exact h ▸ takes_of_not_record rfl
  | .flag, _, j, v, h => by
    cases j <;> simp only [conform?, reduceCtorEq, Option.some.injEq] at h
    exact h ▸ takes_of_not_record rfl
  | .int32, _, j, v, h => by
    cases j <;> simp only [conform?, reduceCtorEq] at h
    exact takes_within? h
  | .int64, _, j, v, h => by
    cases j <;> simp only [conform?, reduceCtorEq] at h
    exact takes_within? h
  | .intOrText, _, j, v, h => by
    cases j <;> simp only [conform?, reduceCtorEq, Option.some.injEq] at h
    · exact takes_within? h
    · exact h ▸ takes_of_not_record rfl
  | .record fields, hplain, j, v, h => by
    cases j <;> simp only [conform?, reduceCtorEq] at h
    obtain ⟨gs, hgs, rfl⟩ := Option.map_eq_some_iff.1 h
    have hfields := takes_conformFields? fields (by simpa only [IsPlain] using hplain) hgs
    constructor
    · intro path hpath
      cases path with
      | nil => exact .inl rfl
      | cons key path => exact (hfields key path).1 (by simpa [paths] using hpath)
    · intro path hpath
      cases path with
      | nil => simp [paths] at hpath
      | cons key path => exact (hfields key path).2 (by simpa [paths] using hpath)

theorem takes_conformFields? : ∀ (fields : List (String × Presence × Shape)), ArePlain fields →
    ∀ {fs gs : Fields}, conformFields? fields fs = some gs → ∀ key path,
      (key :: path ∈ fieldPaths fields → (Json.obj fs).KeepsAt (fieldNullable fields) (.obj gs) (key :: path)) ∧
      (key :: path ∉ fieldPaths fields → (Json.obj gs).field? (key :: path) = none)
  | [], _, fs, gs, h, key, path => by
    cases h
    exact ⟨fun hpath => by simp [fieldPaths] at hpath, fun _ => rfl⟩
  | (name, presence, s) :: rest, hplain, fs, gs, h, key, path => by
    obtain ⟨hpresence, hs, hname, hrest⟩ := hplain
    obtain ⟨others, hothers, hreads⟩ := conformFields?_cons h
    have ih := takes_conformFields? rest hrest hothers key path
    rw [fieldPaths, fieldNullable, List.mem_append]
    by_cases hkey : name = key
    · subst hkey
      have hnone : others.get? name = none := get?_conformFields?_of_not_mem hothers hname
      have hmem : name :: path ∈ s.paths.map (name :: ·) ↔ path ∈ s.paths := by simp
      cases hreads with
      | absent _ hmissing =>
        have hmissing : (Json.obj fs).field? (name :: path) = none := by rw [Json.field?_obj, hmissing]; rfl
        have hgone : (Json.obj gs).field? (name :: path) = none := by rw [Json.field?_obj, hnone]; rfl
        exact ⟨fun _ => .inl (hgone.trans hmissing.symm), fun _ => hgone⟩
      | dropped hoptional hnull =>
        have hnull : (Json.obj fs).field? (name :: path) = Json.null.field? path := by rw [Json.field?_obj, hnull]; rfl
        have hgone : (Json.obj gs).field? (name :: path) = none := by rw [Json.field?_obj, hnone]; rfl
        refine ⟨fun _ => ?_, fun _ => hgone⟩
        cases path with
        | nil => exact .inr ⟨by simp [hoptional], hnull, hgone⟩
        | cons key path => exact .inl (hgone.trans hnull.symm)
      | made hfilled => exact absurd hfilled hpresence
      | @given j v hgiven hv =>
        have htakes := takes_conform? s hs hv
        have hfield : (Json.obj ((name, v) :: others)).field? (name :: path) = v.field? path := by
          rw [Json.field?_obj, Fields.get?_cons_self]
          rfl
        have hfield' : (Json.obj fs).field? (name :: path) = j.field? path := by
          rw [Json.field?_obj, hgiven]
          rfl
        unfold Json.KeepsAt
        rw [hfield, hfield']
        refine ⟨fun hpath => ?_, fun hpath => htakes.drops path fun h => hpath (.inl (hmem.2 h))⟩
        rcases hpath with hpath | hpath
        · exact (htakes.keeps path (hmem.1 hpath)).imp_right (.imp_left fun h => by simp [h])
        · exact absurd (mem_names_of_mem_fieldPaths hpath) hname
    · have hmem : key :: path ∉ s.paths.map (name :: ·) := by simp [hkey]
      have hfield : (Json.obj gs).field? (key :: path) = (Json.obj others).field? (key :: path) := by
        cases hreads with
        | absent | dropped => rfl
        | made | given => rw [Json.field?_obj, Json.field?_obj, Fields.get?_cons_of_ne hkey]
      unfold Json.KeepsAt
      rw [hfield]
      refine ⟨fun hpath => ?_, fun hpath => ih.2 fun h => hpath (.inr h)⟩
      exact (ih.1 (hpath.resolve_left hmem)).imp_right (.imp_left fun h => by simp [h])

end

/-! ## What is written of it -/

/-- Whatever the shape reads is the written form of some value. -/
def Writes {α : Type} (s : Shape) (toJson : α → Json) : Prop := ∀ {j v}, conform? s j = some v → ∃ a, v = toJson a

theorem writes_text : Writes .text (JsonForm.toJson : String → Json) := by
  intro j v h
  cases j <;> simp only [conform?, reduceCtorEq, Option.some.injEq] at h
  exact ⟨_, h.symm⟩

theorem writes_int32 : Writes .int32 (JsonForm.toJson : Int → Json) := by
  intro j v h
  cases j <;> simp only [conform?, reduceCtorEq] at h
  obtain ⟨n, -, rfl⟩ := Option.map_eq_some_iff.1 h
  exact ⟨n, rfl⟩

theorem writes_intOrText : Writes .intOrText (JsonForm.toJson : PortRef → Json) := by
  intro j v h
  cases j <;> simp only [conform?, reduceCtorEq, Option.some.injEq] at h
  · obtain ⟨n, -, rfl⟩ := Option.map_eq_some_iff.1 h
    exact ⟨.number n, rfl⟩
  · exact ⟨.name _, h.symm⟩

theorem writes_record {α : Type} {toFields : α → Fields}
    (h : ∀ {fs gs : Fields}, conformFields? fields fs = some gs → ∃ a, gs = toFields a) :
    Writes (.record fields) fun a => .obj (toFields a) := by
  intro j v hv
  cases j <;> simp only [conform?, reduceCtorEq] at hv
  obtain ⟨gs, hgs, rfl⟩ := Option.map_eq_some_iff.1 hv
  obtain ⟨a, rfl⟩ := h hgs
  exact ⟨a, rfl⟩

theorem Writes.demanded {α : Type} {toJson : α → Json} (hs : s.Writes toJson)
    (h : conformFields? (demanded name s :: rest) fs = some gs) :
    ∃ a others, conformFields? rest fs = some others ∧ gs = (name, toJson a) :: others := by
  obtain ⟨others, hothers, hreads⟩ := conformFields?_cons h
  cases hreads with
  | absent hpresence => simp at hpresence
  | dropped hpresence | made hpresence => cases hpresence
  | given _ hv =>
    obtain ⟨a, rfl⟩ := hs hv
    exact ⟨a, others, hothers, rfl⟩

theorem Writes.field {α : Type} {toJson : α → Json} (hs : s.Writes toJson)
    (h : conformFields? (field name s :: rest) fs = some gs) :
    ∃ a others, conformFields? rest fs = some others ∧ gs = Fields.opt name toJson a ++ others := by
  obtain ⟨others, hothers, hreads⟩ := conformFields?_cons h
  cases hreads with
  | absent | dropped => exact ⟨none, gs, hothers, rfl⟩
  | made hpresence => cases hpresence
  | given _ hv =>
    obtain ⟨a, rfl⟩ := hs hv
    exact ⟨some a, others, hothers, rfl⟩

end Shape

end VolumeMigration
