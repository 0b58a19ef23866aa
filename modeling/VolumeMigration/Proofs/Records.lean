import VolumeMigration.Proofs.JsonSpellings
import VolumeMigration.Proofs.Maps
import VolumeMigration.Proofs.Texts
import VolumeMigration.Quiesce.Setting
/-!
# Records hold settings

A setting that is written into a record is read back from it
(`Setting.decode_encode`), for every setting that a controller of the kind can
have (`Setting.Fits`). What is read from a record is such a setting.
-/

namespace VolumeMigration

theorem Result.map_eq_ok {α β : Type} {f : α → β} {r : Result α} {y : β} :
    r.map f = .ok y ↔ ∃ x, r = .ok x ∧ f x = y := by
  cases r <;> simp [Except.map]

/-! ## Records of each form -/

namespace Record

theorem decodeReplicas_encodeReplicas {n : Int} (h : 0 ≤ n) (hmax : n ≤ Text.maxInt32) :
    decodeReplicas (encodeReplicas n) = .ok n := by
  obtain ⟨m, rfl⟩ := Int.eq_ofNat_of_zero_le h
  have hdigits : ∀ c ∈ (Nat.repr m).toList, Text.isBlank c = false := by
    intro c hc
    exact Text.isBlank_of_isDigit (Text.isDigit_of_mem_repr hc)
  have hread : Text.readInt32? (Text.trim (encodeReplicas m)) = some (m : Int) := by
    rw [show encodeReplicas m = Nat.repr m from rfl, Text.trim_of_all hdigits, Text.readInt32?,
      Text.signed?_repr, Option.bind_some, Text.within?, if_pos]
    unfold Text.minInt32
    omega
  rw [decodeReplicas, hread, Option.filter_some, if_pos (by simp)]

theorem notBlank_encodeSuspend (b : Bool) : ∀ c ∈ (encodeSuspend b).toList, Text.isBlank c = false := by
  have hblank : (encodeSuspend b).toList.all (fun c => !Text.isBlank c) = true := by cases b <;> rfl
  intro c hc
  simpa using List.all_eq_true.1 hblank c hc

theorem decodeSuspend_encodeSuspend (b : Bool) : decodeSuspend (encodeSuspend b) = .ok b := by
  rw [decodeSuspend, Text.trim_of_all (notBlank_encodeSuspend b)]
  cases b <;> rfl

theorem eq_str_of_str? {j : Json} {v : String} (h : j.str? = some v) : j = .str v := by
  cases j <;> cases h
  rfl

/-- The members of a record are texts if there are texts that it lists. -/
theorem texts_eq_some_iff {fs : Fields} {es : List (String × String)} :
    fs.mapM (fun f => f.2.str?.map (f.1, ·)) = some es ↔ fs = Json.textFields es := by
  constructor
  · intro h
    induction fs generalizing es with
    | nil =>
      cases h
      rfl
    | cons f fs ih =>
      rw [List.mapM_cons] at h
      obtain ⟨e, he, h⟩ := Option.bind_eq_some_iff.1 h
      obtain ⟨es', hes, heq⟩ := Option.bind_eq_some_iff.1 h
      cases heq
      obtain ⟨v, hv, rfl⟩ := Option.map_eq_some_iff.1 he
      have hf : f = (f.1, .str v) := Prod.ext rfl (eq_str_of_str? hv)
      rw [ih hes, hf]
      rfl
  · rintro rfl
    rw [Json.textFields]
    induction es with
    | nil => rfl
    | cons e es ih =>
      rw [List.map_cons, List.mapM_cons, ih]
      rfl

/-- A record of texts makes the map of its entries. -/
theorem stringMap?_eq_some_iff {j : Json} {m : StringMap} :
    stringMap? j = some m ↔ ∃ es, j = .obj (Json.textFields es) ∧ SortedMap.ofList es = m := by
  rw [stringMap?, Option.map_eq_some_iff]
  refine exists_congr fun es => and_congr_left fun _ => ?_
  cases j with
  | obj fs => rw [Json.obj?, Option.bind_some, texts_eq_some_iff, Json.obj.injEq]
  | _ => exact ⟨nofun, nofun⟩

theorem stringMap?_textFields (m : StringMap) : stringMap? (.obj (Json.textFields m.toList)) = some m :=
  stringMap?_eq_some_iff.2 ⟨m.toList, rfl, SortedMap.ofList_toList m⟩

theorem decodeNodeSelector_encodeNodeSelector (m : StringMap) :
    decodeNodeSelector (encodeNodeSelector m) = .ok m := by
  have hread : (Json.parseVerbatim? (encodeNodeSelector m)).bind stringMap? = some m := by
    rw [encodeNodeSelector, ← Json.textFields, Json.parseVerbatim?_render_texts, Option.bind_some,
      stringMap?_textFields]
  rw [decodeNodeSelector, hread]

end Record

/-! ## Settings -/

namespace Setting

/-- The settings that a controller of a kind can have: numbers count pods, in 32 bits. -/
def Fits : WorkloadKind → Setting → Prop
  | .cronJob, suspend _ => True
  | .daemonSet, nodes _ => True
  | .deployment, replicas n | .deploymentConfig, replicas n | .statefulSet, replicas n
  | .replicaSet, replicas n | .job, replicas n => 0 ≤ n ∧ n ≤ Text.maxInt32
  | _, _ => False

theorem fits_stopped (k : WorkloadKind) : (stopped k).Fits k := by
  cases k <;> simp [stopped, Fits, Text.maxInt32]

theorem fits_unset (k : WorkloadKind) : (unset k).Fits k := by
  cases k <;> simp [unset, Fits, Text.maxInt32]

/-- A setting is read back from its record. -/
theorem decode_encode {k : WorkloadKind} {s : Setting} (h : s.Fits k) : decode k s.encode = .ok s := by
  cases k <;> cases s <;> try exact h.elim
  case cronJob.suspend b => rw [decode, encode, Record.decodeSuspend_encodeSuspend]; rfl
  case daemonSet.nodes m => rw [decode, encode, Record.decodeNodeSelector_encodeNodeSelector]; rfl
  all_goals
    rw [decode, encode, Record.decodeReplicas_encodeReplicas h.1 h.2]
    rfl

theorem decodeReplicas_bounds {text : String} {n : Int} (h : Record.decodeReplicas text = .ok n) :
    0 ≤ n ∧ n ≤ Text.maxInt32 := by
  unfold Record.decodeReplicas at h
  split at h
  · rename_i m hm
    cases h
    obtain ⟨hread, hpos⟩ := Option.filter_eq_some_iff.1 hm
    obtain ⟨i, -, hi⟩ := Option.bind_eq_some_iff.1 hread
    obtain ⟨rfl, -, hhigh⟩ := Text.within?_eq_some.1 hi
    exact ⟨by simpa using hpos, hhigh⟩
  · cases h

/-- What a record of a kind holds is a setting of the kind. -/
theorem fits_of_decode {k : WorkloadKind} {text : String} {s : Setting} (h : decode k text = .ok s) :
    s.Fits k := by
  cases k <;> rw [decode] at h <;> obtain ⟨v, hv, rfl⟩ := Result.map_eq_ok.1 h
  case cronJob => exact True.intro
  case daemonSet => exact True.intro
  all_goals exact decodeReplicas_bounds hv

end Setting

end VolumeMigration
