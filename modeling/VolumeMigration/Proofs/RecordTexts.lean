import VolumeMigration.Proofs.Records
/-!
# The texts of records

What is encoded is decoded as it was, and different values have different texts
(`Record.decode_encoded`). A record is decoded from other texts as well: blanks
around a number or a flag, a sign that does nothing, zeros in front of a number
and every other spelling of a JSON record change nothing. Only a text to which
nothing of this kind is added is the one that the value is encoded as
(`Record.decode_iff_spelled`).
-/

namespace VolumeMigration.Record

/-! ## What is encoded -/

/-- Values that are decoded from their own texts have different texts. -/
theorem injective_of_decode {α : Type} {encode : α → String} {decode : String → Result α}
    (h : ∀ v, decode (encode v) = .ok v) : Function.Injective encode := by
  intro v w hsame
  have hv := h v
  rw [hsame, h w] at hv
  exact (Except.ok.inj hv).symm

/-- Every count, flag and node selector is decoded from its own record, and no two of them share a record. -/
theorem decode_encoded :
    (∀ n : Int, 0 ≤ n → n ≤ Text.maxInt32 → decodeReplicas (encodeReplicas n) = .ok n) ∧
    (∀ b : Bool, decodeSuspend (encodeSuspend b) = .ok b) ∧
    (∀ m : StringMap, decodeNodeSelector (encodeNodeSelector m) = .ok m) ∧
    Function.Injective encodeReplicas ∧ Function.Injective encodeSuspend ∧ Function.Injective encodeNodeSelector :=
  ⟨fun _ => decodeReplicas_encodeReplicas, decodeSuspend_encodeSuspend, decodeNodeSelector_encodeNodeSelector,
    Text.intRepr_injective, injective_of_decode decodeSuspend_encodeSuspend,
    injective_of_decode decodeNodeSelector_encodeNodeSelector⟩

/-- A quote, a backslash, control characters and characters beyond 16 bits. -/
theorem decode_encoded_escaped :
    decodeReplicas (encodeReplicas 2147483647) = .ok 2147483647 ∧
    decodeNodeSelector (encodeNodeSelector (SortedMap.empty.insert "a\"\\/" "\x00\n\x1f\x7f😀")) =
      .ok (SortedMap.empty.insert "a\"\\/" "\x00\n\x1f\x7f😀") ∧
    encodeReplicas 12 ≠ encodeReplicas 21 := by
  obtain ⟨hreplicas, -, hselector, hinjective, -, -⟩ := decode_encoded
  exact ⟨hreplicas 2147483647 (by decide) (by decide), hselector _, hinjective.ne (by decide)⟩

/-! ## What is decoded -/

/-- A text that holds a count, and what it adds to the count as it is encoded: blanks around it, a sign that does
nothing and zeros. -/
inductive ReplicasText (n : Int) : List Char → List Char → Prop where
  | mk {before sign after : List Char} {zeros : Nat} (hbefore : Text.Blanks before) (hsign : Text.IdleSign n sign)
      (hafter : Text.Blanks after) :
      ReplicasText n (before ++ (sign ++ List.replicate zeros '0') ++ after)
        (before ++ (sign ++ (List.replicate zeros '0' ++ (encodeReplicas n).toList) ++ after))

/-- A text that holds a flag, and what it adds to the flag as it is encoded: blanks around it. -/
inductive SuspendText (b : Bool) : List Char → List Char → Prop where
  | mk {before after : List Char} (hbefore : Text.Blanks before) (hafter : Text.Blanks after) :
      SuspendText b (before ++ after) (before ++ ((encodeSuspend b).toList ++ after))

theorem decodeReplicas_eq_ok_iff {s : String} {n : Int} :
    decodeReplicas s = .ok n ↔ 0 ≤ n ∧ n ≤ Text.maxInt32 ∧ Text.signed? (Text.trim s).toList = some n := by
  have hread : decodeReplicas s = .ok n ↔ (Text.readInt32? (Text.trim s)).filter (0 ≤ ·) = some n := by
    unfold decodeReplicas
    split
    · rename_i hsome
      rw [hsome, Except.ok.injEq, Option.some.injEq]
    · rename_i hnone
      rw [hnone]
      exact ⟨nofun, nofun⟩
  rw [hread, Option.filter_eq_some_iff, Text.readInt32?, Option.bind_eq_some_iff]
  constructor
  · rintro ⟨⟨m, hm, hwithin⟩, hn⟩
    obtain ⟨rfl, -, hhigh⟩ := Text.within?_eq_some.1 hwithin
    exact ⟨by simpa using hn, hhigh, hm⟩
  · rintro ⟨hn, hmax, hm⟩
    refine ⟨⟨n, hm, ?_⟩, by simpa using hn⟩
    rw [Text.within?, if_pos]
    unfold Text.minInt32
    omega

theorem notBlank_of_signed? {cs : List Char} {n : Int} (hn : 0 ≤ n) (h : Text.signed? cs = some n) :
    cs ≠ [] ∧ ∀ c ∈ cs, Text.isBlank c = false := by
  obtain ⟨sign, zeros, hsign, rfl⟩ := (Text.signed?_eq_some_iff hn).1 h
  obtain ⟨m, rfl⟩ := Int.eq_ofNat_of_zero_le hn
  have hread : Text.digits? 10 (List.replicate zeros '0' ++ (Nat.repr m).toList) = some m :=
    Text.digits?_eq_some_iff.2 ⟨zeros, rfl⟩
  obtain ⟨hne, hdigits⟩ := Text.isDigit_of_digits? hread
  refine ⟨List.append_ne_nil_of_right_ne_nil _ hne, fun c hc => ?_⟩
  obtain hc | hc := List.mem_append.1 hc
  · obtain rfl | rfl | ⟨rfl, -⟩ := hsign
    · cases hc
    · rw [List.mem_singleton.1 hc]
      rfl
    · rw [List.mem_singleton.1 hc]
      rfl
  · exact Text.isBlank_of_isDigit (hdigits c hc)

theorem decodeReplicas_iff_spelled {s : String} {n : Int} :
    decodeReplicas s = .ok n ↔ 0 ≤ n ∧ n ≤ Text.maxInt32 ∧ ∃ added, ReplicasText n added s.toList := by
  rw [decodeReplicas_eq_ok_iff]
  refine and_congr_right fun hn => and_congr_right fun _ => ?_
  constructor
  · intro h
    obtain ⟨hne, hblank⟩ := notBlank_of_signed? hn h
    obtain ⟨before, after, hbefore, hafter, hs⟩ := (Text.trim_eq_iff hne hblank).1 rfl
    obtain ⟨sign, zeros, hsign, hcore⟩ := (Text.signed?_eq_some_iff hn).1 h
    rw [hs, hcore]
    exact ⟨_, .mk hbefore hsign hafter⟩
  · rintro ⟨added, h⟩
    generalize hs : s.toList = cs at h
    obtain @⟨before, sign, after, zeros, hbefore, hsign, hafter⟩ := h
    have hread := (Text.signed?_eq_some_iff hn).2 ⟨sign, zeros, hsign, rfl⟩
    obtain ⟨hne, hblank⟩ := notBlank_of_signed? hn hread
    have htrim : Text.trim s = String.ofList (sign ++ (List.replicate zeros '0' ++ (Int.repr n).toList)) := by
      refine (Text.trim_eq_iff ?_ ?_).2 ⟨before, after, hbefore, hafter, ?_⟩
      all_goals rw [String.toList_ofList]
      · exact hne
      · exact hblank
      · exact hs
    rw [htrim, String.toList_ofList]
    exact hread

theorem decodeSuspend_eq_ok_iff {s : String} {b : Bool} : decodeSuspend s = .ok b ↔ Text.trim s = encodeSuspend b := by
  simp only [decodeSuspend, beq_iff_eq]
  split
  · rename_i htrue
    rw [htrue]
    cases b <;> simp [encodeSuspend]
  · rename_i htrue
    split
    · rename_i hfalse
      rw [hfalse]
      cases b <;> simp [encodeSuspend]
    · rename_i hfalse
      cases b <;> simp [encodeSuspend, htrue, hfalse]

theorem decodeSuspend_iff_spelled {s : String} {b : Bool} :
    decodeSuspend s = .ok b ↔ ∃ added, SuspendText b added s.toList := by
  have hne : (encodeSuspend b).toList ≠ [] := by cases b <;> simp [encodeSuspend]
  rw [decodeSuspend_eq_ok_iff, Text.trim_eq_iff hne (notBlank_encodeSuspend b)]
  constructor
  · rintro ⟨before, after, hbefore, hafter, hs⟩
    rw [hs]
    exact ⟨_, .mk hbefore hafter⟩
  · rintro ⟨added, h⟩
    generalize hs : s.toList = cs at h
    obtain @⟨before, after, hbefore, hafter⟩ := h
    exact ⟨before, after, hbefore, hafter, rfl⟩

theorem decodeNodeSelector_eq_ok_iff {s : String} {m : StringMap} :
    decodeNodeSelector s = .ok m ↔ (Json.parseVerbatim? s).bind stringMap? = some m := by
  unfold decodeNodeSelector
  split
  · rename_i hsome
    rw [hsome, Except.ok.injEq, Option.some.injEq]
  · rename_i hnone
    rw [hnone]
    exact ⟨nofun, nofun⟩

theorem decodeNodeSelector_iff_spelled {s : String} {m : StringMap} :
    decodeNodeSelector s = .ok m ↔ ∃ es, Json.RecordText es s.toList ∧ SortedMap.ofList es = m := by
  rw [decodeNodeSelector_eq_ok_iff, Option.bind_eq_some_iff]
  constructor
  · rintro ⟨j, hparse, hmap⟩
    obtain ⟨es, rfl, hm⟩ := stringMap?_eq_some_iff.1 hmap
    exact ⟨es, Json.parseVerbatim?_texts_iff.1 hparse, hm⟩
  · rintro ⟨es, hes, hm⟩
    exact ⟨_, Json.parseVerbatim?_texts_iff.2 hes, stringMap?_eq_some_iff.2 ⟨_, rfl, hm⟩⟩

/-! ## Which of these texts is the encoded one -/

theorem ReplicasText.eq_encodeReplicas_iff {n : Int} {s : String} {added : List Char}
    (h : ReplicasText n added s.toList) : s = encodeReplicas n ↔ added = [] := by
  generalize hs : s.toList = cs at h
  obtain @⟨before, sign, after, zeros, -, -, -⟩ := h
  constructor
  · intro hencoded
    have hlength := congrArg List.length hs
    rw [hencoded] at hlength
    apply List.eq_nil_of_length_eq_zero
    simp only [List.length_append, List.length_replicate] at hlength ⊢
    omega
  · intro hadded
    simp only [List.append_eq_nil_iff] at hadded
    obtain ⟨⟨rfl, rfl, hzeros⟩, rfl⟩ := hadded
    rw [hzeros] at hs
    exact String.toList_inj.1 (by simpa using hs)

theorem SuspendText.eq_encodeSuspend_iff {b : Bool} {s : String} {added : List Char}
    (h : SuspendText b added s.toList) : s = encodeSuspend b ↔ added = [] := by
  generalize hs : s.toList = cs at h
  obtain @⟨before, after, -, -⟩ := h
  constructor
  · intro hencoded
    have hlength := congrArg List.length hs
    rw [hencoded] at hlength
    apply List.eq_nil_of_length_eq_zero
    simp only [List.length_append] at hlength ⊢
    omega
  · intro hadded
    obtain ⟨rfl, rfl⟩ := List.append_eq_nil_iff.1 hadded
    exact String.toList_inj.1 (by simpa using hs)

theorem textFields_injective : Function.Injective Json.textFields := by
  intro es es' h
  have hes := texts_eq_some_iff.2 (rfl : Json.textFields es = Json.textFields es)
  rw [texts_eq_some_iff.2 h] at hes
  exact (Option.some.inj hes).symm

theorem eq_encodeNodeSelector_iff {es : List (String × String)} {s : String} (h : Json.RecordText es s.toList) :
    s = encodeNodeSelector (SortedMap.ofList es) ↔
      es.Pairwise (fun a b => compare a.1 b.1 = .lt) ∧ s = Json.render (.obj (Json.textFields es)) := by
  have hencode : ∀ m : StringMap, encodeNodeSelector m = Json.render (.obj (Json.textFields m.toList)) := fun _ => rfl
  rw [hencode]
  constructor
  · intro hs
    have hread := Json.parseVerbatim?_texts_iff.2 h
    rw [hs, Json.parseVerbatim?_render_texts, Option.some.injEq, Json.obj.injEq] at hread
    have hes : (SortedMap.ofList es).toList = es := textFields_injective hread
    rw [hes] at hs
    refine ⟨?_, hs⟩
    rw [← hes]
    exact (SortedMap.ofList es).sorted
  · rintro ⟨hsorted, hs⟩
    rw [SortedMap.toList_ofList hsorted, hs]

/-- The texts that each kind of record is decoded from, and when such a text is the one that the value is encoded as:
nothing may be added to a count or a flag, and a node selector has to be in compact JSON with its keys in order. -/
theorem decode_iff_spelled (s : String) :
    (∀ n : Int, decodeReplicas s = .ok n ↔
      0 ≤ n ∧ n ≤ Text.maxInt32 ∧ ∃ added, ReplicasText n added s.toList) ∧
    (∀ b : Bool, decodeSuspend s = .ok b ↔ ∃ added, SuspendText b added s.toList) ∧
    (∀ m : StringMap, decodeNodeSelector s = .ok m ↔
      ∃ es, Json.RecordText es s.toList ∧ SortedMap.ofList es = m) ∧
    (∀ (n : Int) added, ReplicasText n added s.toList → (s = encodeReplicas n ↔ added = [])) ∧
    (∀ (b : Bool) added, SuspendText b added s.toList → (s = encodeSuspend b ↔ added = [])) ∧
    ∀ es, Json.RecordText es s.toList → (s = encodeNodeSelector (SortedMap.ofList es) ↔
      es.Pairwise (fun a b => compare a.1 b.1 = .lt) ∧ s = Json.render (.obj (Json.textFields es))) :=
  ⟨fun _ => decodeReplicas_iff_spelled, fun _ => decodeSuspend_iff_spelled, fun _ => decodeNodeSelector_iff_spelled,
    fun _ _ h => h.eq_encodeReplicas_iff, fun _ _ h => h.eq_encodeSuspend_iff, fun _ h => eq_encodeNodeSelector_iff h⟩

theorem decode_iff_spelled_blank :
    ReplicasText 3 [' '] " 3".toList ∧ decodeReplicas " 3" = .ok 3 ∧ " 3" ≠ encodeReplicas 3 := by
  have hspelled : ReplicasText 3 [' '] " 3".toList :=
    @ReplicasText.mk 3 [' '] [] [] 0 (by decide) (.inl rfl) (by decide)
  obtain ⟨hdecodes, -, -, hencoded, -⟩ := decode_iff_spelled " 3"
  refine ⟨hspelled, (hdecodes 3).2 ⟨by decide, by decide, [' '], hspelled⟩, fun h => ?_⟩
  cases (hencoded 3 [' '] hspelled).1 h

/-- The text is decoded though it is not what the value is encoded as. -/
def DecodesOther {α : Type} (encode : α → String) (decode : String → Result α) (s : String) (v : α) : Prop :=
  decode s = .ok v ∧ s ≠ encode v

/-- A blank, a sign and zeros around a number, a line end after a flag, a gap, a key that is given twice, and an
escaped letter in a record. -/
theorem decode_decodesOther :
    DecodesOther encodeReplicas decodeReplicas " 3" 3 ∧ DecodesOther encodeReplicas decodeReplicas "+3" 3 ∧
    DecodesOther encodeReplicas decodeReplicas "-0" 0 ∧ DecodesOther encodeReplicas decodeReplicas "007" 7 ∧
    DecodesOther encodeSuspend decodeSuspend "true\n" true ∧
    DecodesOther encodeNodeSelector decodeNodeSelector "\x7b \x7d" .empty ∧
    DecodesOther encodeNodeSelector decodeNodeSelector "\x7b\"os\":\"linux\",\"os\":\"bsd\"\x7d"
      (SortedMap.empty.insert "os" "bsd") ∧
    DecodesOther encodeNodeSelector decodeNodeSelector "\x7b\"\\u006fs\":\"bsd\"\x7d"
      (SortedMap.empty.insert "os" "bsd") := by
  refine ⟨⟨decodeReplicas_eq_ok_iff.2 ?_, ?_⟩, ⟨decodeReplicas_eq_ok_iff.2 ?_, ?_⟩,
    ⟨decodeReplicas_eq_ok_iff.2 ?_, ?_⟩, ⟨decodeReplicas_eq_ok_iff.2 ?_, ?_⟩, ⟨decodeSuspend_eq_ok_iff.2 ?_, ?_⟩,
    ⟨decodeNodeSelector_eq_ok_iff.2 ?_, ?_⟩, ⟨decodeNodeSelector_eq_ok_iff.2 ?_, ?_⟩,
    ⟨decodeNodeSelector_eq_ok_iff.2 ?_, ?_⟩⟩
  all_goals decide +kernel

end VolumeMigration.Record
