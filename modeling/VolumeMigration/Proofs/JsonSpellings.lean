import Mathlib.Data.List.Forall2
import VolumeMigration.Json.Reader
import VolumeMigration.Json.Writer
import VolumeMigration.Text.Cut
/-!
# The spellings of a record of texts

A character in a string stands for itself, or is escaped by a letter, by its
number, or by the numbers of a surrogate pair (`Spells`). A record of texts may
have gaps between any two of its tokens (`RecordText`). The reader accepts all
these spellings of a record and nothing else (`parseVerbatim?_texts_iff`), and
what the writer writes is one of them, so that a record is read back as it was
written (`parseVerbatim?_render_texts`).
-/

namespace VolumeMigration.Json

/-! ## Units -/

/-- How a unit is spelled. -/
inductive UnitSpells : Unit16 → List Char → Prop where
  | plain {c : Char} (hquote : c ≠ '"') (hbackslash : c ≠ '\\') (h : 32 ≤ c.toNat) : UnitSpells (.char c) [c]
  | short {e c : Char} (h : shortEscape? e = some c) : UnitSpells (.char c) ['\\', e]
  | number {a b d e : Char} {u : Unit16} (h : escapedUnit? [a, b, d, e] = some u) :
      UnitSpells u ['\\', 'u', a, b, d, e]

/-- The list begins with the spelling of units, a closing quote and nothing else before `rest`. -/
def UnitsBefore (cs : List Char) (us : List Unit16) (rest : List Char) : Prop :=
  ∃ ts, List.Forall₂ UnitSpells us ts ∧ cs = ts.flatten ++ '"' :: rest

theorem ne_u_of_shortEscape? {e c : Char} (h : shortEscape? e = some c) : e ≠ 'u' := by
  rintro rfl
  contradiction

/-- A character after a backslash. -/
theorem readUnits?_short {e c : Char} (h : shortEscape? e = some c) (hu : e ≠ 'u') (r : List Char) :
    readUnits? ('\\' :: e :: r) = (readUnits? r).map fun p => (.char c :: p.1, p.2) := by
  rw [readUnits?, h, Option.map_eq_bind]
  · rfl
  · intro _ _ _ _ _ he _
    exact hu he

/-- A unit by its number. -/
theorem readUnits?_number {a b d e : Char} {u : Unit16} (h : escapedUnit? [a, b, d, e] = some u) (r : List Char) :
    readUnits? ('\\' :: 'u' :: a :: b :: d :: e :: r) = (readUnits? r).map fun p => (u :: p.1, p.2) := by
  rw [readUnits?, h, Option.map_eq_bind]
  rfl

/-- A character that stands for itself. -/
theorem readUnits?_plain {c : Char} (hq : c ≠ '"') (hb : c ≠ '\\') (h : ¬c.toNat < 32) (r : List Char) :
    readUnits? (c :: r) = (readUnits? r).map fun p => (.char c :: p.1, p.2) := by
  have hplain : ¬(c.toNat < 32 ∨ c = '\\') := by
    rintro (h' | h')
    · exact h h'
    · exact hb h'
  rw [readUnits?, if_neg hplain, Option.map_eq_bind]
  · rfl
  · exact hq
  · intro _ _ _ _ _ hc _
    exact hb hc
  · intro _ _ hc _
    exact hb hc

/-- A unit is read from each of its spellings. -/
theorem UnitSpells.read {u : Unit16} {t : List Char} (h : UnitSpells u t) (r : List Char) :
    readUnits? (t ++ r) = (readUnits? r).map fun p => (u :: p.1, p.2) := by
  cases h with
  | plain hquote hbackslash h => exact readUnits?_plain hquote hbackslash (by omega) r
  | short h => exact readUnits?_short h (ne_u_of_shortEscape? h) r
  | number h => exact readUnits?_number h r

theorem readUnits?_of_unitsBefore {cs rest : List Char} {us : List Unit16} (h : UnitsBefore cs us rest) :
    readUnits? cs = some (us, rest) := by
  obtain ⟨ts, hts, rfl⟩ := h
  induction hts with
  | nil => rw [List.flatten_nil, List.nil_append, readUnits?]
  | cons hu _ ih => rw [List.flatten_cons, List.append_assoc, hu.read, ih, Option.map_some]

/-- Reading goes on behind a unit. -/
theorem UnitSpells.unitsBefore {u : Unit16} {t r rest : List Char} {us : List Unit16} (hu : UnitSpells u t)
    (ih : ∀ us, readUnits? r = some (us, rest) → UnitsBefore r us rest)
    (h : readUnits? (t ++ r) = some (us, rest)) : UnitsBefore (t ++ r) us rest := by
  rw [hu.read] at h
  obtain ⟨⟨us', _⟩, hread, heq⟩ := Option.map_eq_some_iff.1 h
  cases heq
  obtain ⟨ts, hts, rfl⟩ := ih us' hread
  exact ⟨t :: ts, .cons hu hts, by rw [List.flatten_cons, List.append_assoc]⟩

theorem unitsBefore_of_readUnits? {cs rest : List Char} :
    ∀ us, readUnits? cs = some (us, rest) → UnitsBefore cs us rest := by
  induction cs using readUnits?.induct with
  | case1 =>
    intro us h
    cases h
  | case2 r =>
    intro us h
    cases h
    exact ⟨[], .nil, rfl⟩
  | case3 a b c d r ih =>
    intro us h
    cases hu : escapedUnit? [a, b, c, d] with
    | none =>
      rw [readUnits?, hu] at h
      cases h
    | some u => exact (UnitSpells.number hu).unitsBefore ih h
  | case4 e r hshort ih =>
    intro us h
    cases he : shortEscape? e with
    | none =>
      rw [readUnits?.eq_4 e r hshort, he] at h
      cases h
    | some c => exact (UnitSpells.short he).unitsBefore ih h
  | case5 c r hquote hnumber hshort hc =>
    intro us h
    rw [readUnits?.eq_5 c r hquote hnumber hshort, if_pos hc] at h
    cases h
  | case6 c r hquote _ _ hc ih =>
    intro us h
    obtain ⟨hcontrol, hbackslash⟩ := not_or.1 hc
    exact (UnitSpells.plain hquote hbackslash (by omega)).unitsBefore ih h

theorem readUnits?_eq_some_iff {cs rest : List Char} {us : List Unit16} :
    readUnits? cs = some (us, rest) ↔ UnitsBefore cs us rest :=
  ⟨unitsBefore_of_readUnits? us, readUnits?_of_unitsBefore⟩

/-! ## Characters -/

/-- How a character of a string is spelled. -/
inductive Spells : Char → List Char → Prop where
  | plain {c : Char} (hquote : c ≠ '"') (hbackslash : c ≠ '\\') (h : 32 ≤ c.toNat) : Spells c [c]
  | short {e c : Char} (h : shortEscape? e = some c) : Spells c ['\\', e]
  | number {a b d e : Char} {n : Nat} (h : Text.digits? 16 [a, b, d, e] = some n)
      (hn : n < 0xD800 ∨ 0xE000 ≤ n) : Spells (Char.ofNat n) ['\\', 'u', a, b, d, e]
  | pair {a b d e a' b' d' e' : Char} {m n : Nat} (hhigh : Text.digits? 16 [a, b, d, e] = some m)
      (hm : 0xD800 ≤ m ∧ m < 0xDC00) (hlow : Text.digits? 16 [a', b', d', e'] = some n)
      (hn : 0xDC00 ≤ n ∧ n < 0xE000) :
      Spells (Char.ofNat (0x10000 + (m - 0xD800) * 1024 + (n - 0xDC00)))
        ['\\', 'u', a, b, d, e, '\\', 'u', a', b', d', e']

/-- How the characters of a string are spelled, one after the other. -/
def Spelled (cs t : List Char) : Prop := ∃ ts, List.Forall₂ Spells cs ts ∧ t = ts.flatten

theorem Spelled.cons {c : Char} {cs t r : List Char} (h : Spells c t) (hr : Spelled cs r) :
    Spelled (c :: cs) (t ++ r) := by
  obtain ⟨ts, hts, rfl⟩ := hr
  exact ⟨t :: ts, .cons h hts, by rw [List.flatten_cons]⟩

/-- The unit that a number stands for. -/
theorem escapedUnit?_eq_some_iff {ds : List Char} {u : Unit16} :
    escapedUnit? ds = some u ↔ ∃ n, Text.digits? 16 ds = some n ∧
      (0xD800 ≤ n ∧ n < 0xDC00 ∧ u = .high (n - 0xD800) ∨ 0xDC00 ≤ n ∧ n < 0xE000 ∧ u = .low (n - 0xDC00) ∨
        (n < 0xD800 ∨ 0xE000 ≤ n) ∧ u = .char (Char.ofNat n)) := by
  rw [escapedUnit?, Option.map_eq_some_iff]
  refine exists_congr fun n => and_congr_right fun _ => ?_
  split
  · grind
  · split <;> grind

theorem number_of_high {ds : List Char} {k : Nat} (h : escapedUnit? ds = some (.high k)) :
    ∃ m, Text.digits? 16 ds = some m ∧ (0xD800 ≤ m ∧ m < 0xDC00) ∧ k = m - 0xD800 := by
  obtain ⟨m, hm, ⟨hlo, hhi, hk⟩ | ⟨-, -, hk⟩ | ⟨-, hk⟩⟩ := escapedUnit?_eq_some_iff.1 h
  · exact ⟨m, hm, ⟨hlo, hhi⟩, Unit16.high.inj hk⟩
  · contradiction
  · contradiction

theorem number_of_low {ds : List Char} {k : Nat} (h : escapedUnit? ds = some (.low k)) :
    ∃ n, Text.digits? 16 ds = some n ∧ (0xDC00 ≤ n ∧ n < 0xE000) ∧ k = n - 0xDC00 := by
  obtain ⟨n, hn, ⟨-, -, hk⟩ | ⟨hlo, hhi, hk⟩ | ⟨-, hk⟩⟩ := escapedUnit?_eq_some_iff.1 h
  · contradiction
  · exact ⟨n, hn, ⟨hlo, hhi⟩, Unit16.low.inj hk⟩
  · contradiction

theorem number_of_char {ds : List Char} {c : Char} (h : escapedUnit? ds = some (.char c)) :
    ∃ n, Text.digits? 16 ds = some n ∧ (n < 0xD800 ∨ 0xE000 ≤ n) ∧ c = Char.ofNat n := by
  obtain ⟨n, hn, ⟨-, -, hc⟩ | ⟨-, -, hc⟩ | ⟨hscalar, hc⟩⟩ := escapedUnit?_eq_some_iff.1 h
  · contradiction
  · contradiction
  · exact ⟨n, hn, hscalar, Unit16.char.inj hc⟩

theorem UnitSpells.spells {c : Char} {t : List Char} (h : UnitSpells (.char c) t) : Spells c t := by
  cases h with
  | plain hquote hbackslash h => exact .plain hquote hbackslash h
  | short h => exact .short h
  | number h =>
    obtain ⟨n, hn, hscalar, rfl⟩ := number_of_char h
    exact .number hn hscalar

/-- The two halves of a pair spell one character. -/
theorem UnitSpells.spells_pair {h l : Nat} {t t' : List Char} (hhigh : UnitSpells (.high h) t)
    (hlow : UnitSpells (.low l) t') : Spells (Char.ofNat (0x10000 + h * 1024 + l)) (t ++ t') := by
  cases hhigh with
  | number hhigh =>
    cases hlow with
    | number hlow =>
      obtain ⟨m, hm, hmrange, hh⟩ := number_of_high hhigh
      obtain ⟨n, hn, hnrange, hl⟩ := number_of_low hlow
      rw [hh, hl]
      exact .pair hm hmrange hn hnrange

/-- What the units join to is spelled as they are. -/
theorem spelled_of_joinUnits? {us : List Unit16} : ∀ {ts : List (List Char)} {cs : List Char},
    List.Forall₂ UnitSpells us ts → joinUnits? us = some cs → Spelled cs ts.flatten := by
  induction us using joinUnits?.induct with
  | case1 =>
    intro ts cs hts hjoin
    cases hts
    cases hjoin
    exact ⟨[], .nil, rfl⟩
  | case2 c r ih =>
    intro ts cs hts hjoin
    cases hts with
    | cons hc hr =>
      obtain ⟨cs', hrest, rfl⟩ := Option.map_eq_some_iff.1 hjoin
      exact .cons hc.spells (ih hr hrest)
  | case3 h l r ih =>
    intro ts cs hts hjoin
    cases hts with
    | cons hhigh hr =>
      cases hr with
      | cons hlow hr =>
        obtain ⟨cs', hrest, rfl⟩ := Option.map_eq_some_iff.1 hjoin
        rw [List.flatten_cons, List.flatten_cons, ← List.append_assoc]
        exact .cons (hhigh.spells_pair hlow) (ih hr hrest)
  | case4 us hempty hchar hpair =>
    intro ts cs hts hjoin
    rw [joinUnits?.eq_4 us hempty hchar hpair] at hjoin
    cases hjoin

/-- A character is spelled by units that join to it. -/
theorem Spells.units {c : Char} {t : List Char} (h : Spells c t) :
    ∃ us ts, List.Forall₂ UnitSpells us ts ∧ ts.flatten = t ∧
      ∀ r, joinUnits? (us ++ r) = (joinUnits? r).map (c :: ·) := by
  cases h with
  | plain hquote hbackslash h => exact ⟨[.char c], [_], .cons (.plain hquote hbackslash h) .nil, rfl, fun _ => rfl⟩
  | short h => exact ⟨[.char c], [_], .cons (.short h) .nil, rfl, fun _ => rfl⟩
  | @number _ _ _ _ n h hn =>
    have hu := escapedUnit?_eq_some_iff.2 ⟨n, h, .inr (.inr ⟨hn, rfl⟩)⟩
    exact ⟨[.char _], [_], .cons (.number hu) .nil, rfl, fun _ => rfl⟩
  | @pair _ _ _ _ _ _ _ _ m n hhigh hm hlow hn =>
    have hh := escapedUnit?_eq_some_iff.2 ⟨m, hhigh, .inl ⟨hm.1, hm.2, rfl⟩⟩
    have hl := escapedUnit?_eq_some_iff.2 ⟨n, hlow, .inr (.inl ⟨hn.1, hn.2, rfl⟩)⟩
    exact ⟨[.high _, .low _], [_, _], .cons (.number hh) (.cons (.number hl) .nil), rfl, fun _ => rfl⟩

theorem Spelled.units {cs t : List Char} (h : Spelled cs t) :
    ∃ us ts, List.Forall₂ UnitSpells us ts ∧ ts.flatten = t ∧ joinUnits? us = some cs := by
  obtain ⟨pieces, hpieces, rfl⟩ := h
  induction hpieces with
  | nil => exact ⟨[], [], .nil, rfl, rfl⟩
  | cons hc _ ih =>
    obtain ⟨us, ts, hts, hflat, hjoin⟩ := hc.units
    obtain ⟨us', ts', hts', hflat', hjoin'⟩ := ih
    refine ⟨us ++ us', ts ++ ts', List.rel_append hts hts', ?_, ?_⟩
    · rw [List.flatten_append, List.flatten_cons, hflat, hflat']
    · rw [hjoin, hjoin', Option.map_some]

/-- A string is read from its spellings, up to the closing quote. -/
theorem readString?_eq_some_iff {cs rest : List Char} {s : String} :
    readString? cs = some (s, rest) ↔ ∃ t, Spelled s.toList t ∧ cs = t ++ '"' :: rest := by
  constructor
  · intro h
    obtain ⟨⟨us, _⟩, hread, h⟩ := Option.bind_eq_some_iff.1 h
    obtain ⟨chars, hjoin, heq⟩ := Option.bind_eq_some_iff.1 h
    cases heq
    obtain ⟨ts, hts, rfl⟩ := readUnits?_eq_some_iff.1 hread
    exact ⟨ts.flatten, by rw [String.toList_ofList]; exact spelled_of_joinUnits? hts hjoin, rfl⟩
  · rintro ⟨t, ht, rfl⟩
    obtain ⟨us, ts, hts, rfl, hjoin⟩ := ht.units
    have hread : readUnits? (ts.flatten ++ '"' :: rest) = some (us, rest) := readUnits?_eq_some_iff.2 ⟨ts, hts, rfl⟩
    simp only [readString?, hread, Option.bind_eq_bind, Option.bind_some, hjoin, String.ofList_toList]

/-! ## Tokens and the gaps between them -/

/-- The blanks that may stand between two tokens. -/
def Gap (g : List Char) : Prop := ∀ c ∈ g, isGap c = true

/-- A string in its quotes. -/
inductive Quoted (s : String) : List Char → Prop where
  | mk {t : List Char} (h : Spelled s.toList t) : Quoted s ('"' :: (t ++ ['"']))

theorem skipGap_of_not {c : Char} (h : isGap c = false) (r : List Char) : skipGap (c :: r) = c :: r := by
  rw [skipGap, List.dropWhile_cons, if_neg (by simp [h])]

theorem skipGap_append {g : List Char} (h : Gap g) (r : List Char) : skipGap (g ++ r) = skipGap r :=
  List.dropWhile_append_of_pos h

theorem skipGap_gap_cons {g : List Char} {c : Char} (h : Gap g) (hc : isGap c = false) (r : List Char) :
    skipGap (g ++ c :: r) = c :: r := by
  rw [skipGap_append h, skipGap_of_not hc]

/-- What is skipped is a gap. -/
theorem exists_gap {cs r : List Char} (h : skipGap cs = r) : ∃ g, Gap g ∧ cs = g ++ r := by
  refine ⟨cs.takeWhile isGap, List.all_eq_true.1 List.all_takeWhile, ?_⟩
  rw [← h, skipGap, List.takeWhile_append_dropWhile]

/-- A quoted string is one token. -/
theorem Quoted.skipGap {s : String} {t : List Char} (h : Quoted s t) (r : List Char) :
    skipGap (t ++ r) = t ++ r := by
  cases h
  exact skipGap_of_not rfl _

theorem Quoted.readValue? {s : String} {t : List Char} (h : Quoted s t) (n : Nat) (r : List Char) :
    readValue? (n + 1) (t ++ r) = some (.str s, r) := by
  cases h with
  | @mk t ht =>
    have hread : readString? (t ++ ['"'] ++ r) = some (s, r) :=
      readString?_eq_some_iff.2 ⟨t, ht, by rw [List.append_assoc]; rfl⟩
    rw [List.cons_append, Json.readValue?, hread, Option.map_some]
    exact Nat.succ_ne_zero n

theorem quoted_of_readString? {cs r : List Char} {s : String} (h : readString? cs = some (s, r)) :
    ∃ t, Quoted s t ∧ '"' :: cs = t ++ r := by
  obtain ⟨t, ht, rfl⟩ := readString?_eq_some_iff.1 h
  exact ⟨_, .mk ht, by simp⟩

/-- No number is a text or a record. -/
theorem neither_of_readNumber? {cs r : List Char} {v : Json} (h : readNumber? cs = some (v, r)) :
    v.str? = none ∧ v.obj? = none := by
  unfold readNumber? at h
  simp only [Option.bind_eq_bind] at h
  split at h
  all_goals
    split at h
    · cases h
    · obtain ⟨fraction, -, h⟩ := Option.bind_eq_some_iff.1 h
      obtain ⟨exponent, -, h⟩ := Option.bind_eq_some_iff.1 h
      split at h
      all_goals
        cases h
        exact ⟨rfl, rfl⟩

/-- What reading a value comes to: a text after a quote, a record after a brace, or neither. -/
theorem readValue?_inv {n : Nat} {cs rest : List Char} {v : Json} (h : readValue? n cs = some (v, rest)) :
    (∃ r s, cs = '"' :: r ∧ readString? r = some (s, rest) ∧ v = .str s) ∨
      (∃ m r fs, cs = '{' :: r ∧ v = .obj fs ∧
        (skipGap r = '}' :: rest ∧ fs = [] ∨ readMembers? m (skipGap r) = some (fs, rest))) ∨
      v.str? = none ∧ v.obj? = none := by
  rw [Json.readValue?.eq_def] at h
  -- The cases are those of `readValue?`, in its order.
  split at h
  · cases h
  · cases h
  · rename_i m r
    refine .inr (.inl ?_)
    split at h
    · rename_i r' hbrace
      cases h
      exact ⟨m, r, [], rfl, rfl, .inl ⟨hbrace, rfl⟩⟩
    · obtain ⟨⟨fs, _⟩, hread, heq⟩ := Option.map_eq_some_iff.1 h
      cases heq
      exact ⟨m, r, fs, rfl, rfl, .inr hread⟩
  · refine .inr (.inr ?_)
    split at h
    · cases h
      exact ⟨rfl, rfl⟩
    · obtain ⟨items, -, heq⟩ := Option.map_eq_some_iff.1 h
      cases heq
      exact ⟨rfl, rfl⟩
  · rename_i r _
    obtain ⟨⟨s, _⟩, hread, heq⟩ := Option.map_eq_some_iff.1 h
    cases heq
    exact .inl ⟨r, s, rfl, hread, rfl⟩
  · refine .inr (.inr ?_)
    have hword : ∀ {word r} {j : Json}, (Text.afterStart? word r).map (fun r => (j, r)) = some (v, rest) → v = j := by
      intro word r j hw
      obtain ⟨_, -, heq⟩ := Option.map_eq_some_iff.1 hw
      cases heq
      rfl
    split at h
    · rw [hword h]
      exact ⟨rfl, rfl⟩
    split at h
    · rw [hword h]
      exact ⟨rfl, rfl⟩
    split at h
    · rw [hword h]
      exact ⟨rfl, rfl⟩
    · exact neither_of_readNumber? h

/-- A value that is a text is a quoted string. -/
theorem quoted_of_readValue? {n : Nat} {cs rest : List Char} {s : String}
    (h : readValue? n cs = some (.str s, rest)) : ∃ t, Quoted s t ∧ cs = t ++ rest := by
  obtain ⟨r, s, rfl, hread, hs⟩ | ⟨_, _, _, _, hobj, _⟩ | ⟨hstr, _⟩ := readValue?_inv h
  · cases hs
    exact quoted_of_readString? hread
  · cases hobj
  · cases hstr

/-! ## Records -/

/-- Texts as the members of a record. -/
def textFields (entries : List (String × String)) : Fields := entries.map fun e => (e.1, .str e.2)

/-- A member of a record of texts, with gaps around its tokens. -/
inductive MemberText (e : String × String) : List Char → Prop where
  | mk {before key beforeColon afterColon value after : List Char} (hbefore : Gap before) (hkey : Quoted e.1 key)
      (hbeforeColon : Gap beforeColon) (hafterColon : Gap afterColon) (hvalue : Quoted e.2 value)
      (hafter : Gap after) :
      MemberText e (before ++ (key ++ (beforeColon ++ ':' :: (afterColon ++ (value ++ after)))))

/-- A text that holds the record with these texts as members. -/
inductive RecordText (es : List (String × String)) : List Char → Prop where
  | mk {before gap after : List Char} {members : List (List Char)} (hbefore : Gap before) (hgap : Gap gap)
      (hmembers : List.Forall₂ MemberText es members) (hafter : Gap after) :
      RecordText es (before ++ '{' :: (gap ++ (Text.joinChars ',' members ++ '}' :: after)))

/-- The first member is read, and then what comes after its comma or its brace. -/
theorem MemberText.readMembers? {e : String × String} {t : List Char} (h : MemberText e t) (n : Nat) (r : List Char) :
    readMembers? (n + 2) (skipGap (t ++ r)) = match skipGap r with
      | ',' :: r => (readMembers? (n + 1) (skipGap r)).map fun p => ((e.1, .str e.2) :: p.1, p.2)
      | '}' :: r => some ([(e.1, .str e.2)], r)
      | _ => none := by
  obtain ⟨hbefore, @⟨key, hkey⟩, hbeforeColon, hafterColon, hvalue, hafter⟩ := h
  simp only [List.append_assoc, List.cons_append, List.nil_append]
  rw [skipGap_append hbefore, skipGap_of_not rfl, Json.readMembers?, readString?_eq_some_iff.2 ⟨key, hkey, rfl⟩]
  simp only [Option.bind_eq_bind, Option.bind_some]
  rw [skipGap_gap_cons hbeforeColon rfl]
  simp only [skipGap_append hafterColon, hvalue.skipGap, hvalue.readValue?, skipGap_append hafter, Option.bind_some,
    Option.map_eq_bind]
  rfl

theorem joinChars_cons {sep : Char} {t : List Char} {ts : List (List Char)} (h : ts ≠ []) :
    Text.joinChars sep (t :: ts) = t ++ sep :: Text.joinChars sep ts := by
  cases ts with
  | nil => exact absurd rfl h
  | cons t' ts => rfl

/-- The members are read up to the closing brace. The bound falls by one for each. -/
theorem readMembers?_spelled {es : List (String × String)} {members : List (List Char)}
    (h : List.Forall₂ MemberText es members) (hne : es ≠ []) (rest : List Char) :
    ∀ n, es.length ≤ n → readMembers? (n + 1) (skipGap (Text.joinChars ',' members ++ '}' :: rest)) =
      some (textFields es, rest) := by
  induction h with
  | nil => exact absurd rfl hne
  | @cons e t es ts he hes ih =>
    intro n hn
    obtain ⟨n, rfl⟩ : ∃ m, n = m + 1 := ⟨n - 1, by simp at hn; omega⟩
    cases hes with
    | nil =>
      rw [Text.joinChars, he.readMembers?, skipGap_of_not rfl]
      rfl
    | cons he' hes =>
      rw [joinChars_cons (List.cons_ne_nil _ _), List.append_assoc, he.readMembers?, List.cons_append,
        skipGap_of_not rfl]
      simp only [ih (List.cons_ne_nil _ _) n (by simpa using hn), Option.map_some]
      rfl

/-- What reading the members comes to: one member, and then the members after a comma or none before a brace. -/
theorem readMembers?_inv {n : Nat} {cs rest : List Char} {fs : Fields} (h : readMembers? n cs = some (fs, rest)) :
    ∃ m r k r₁ r₂ v r₃, n = m + 1 ∧ cs = '"' :: r ∧ readString? r = some (k, r₁) ∧ skipGap r₁ = ':' :: r₂ ∧
      readValue? m (skipGap r₂) = some (v, r₃) ∧
        ((∃ r₄ fs', skipGap r₃ = ',' :: r₄ ∧ readMembers? m (skipGap r₄) = some (fs', rest) ∧ fs = (k, v) :: fs') ∨
          skipGap r₃ = '}' :: rest ∧ fs = [(k, v)]) := by
  rw [Json.readMembers?.eq_def] at h
  split at h
  · rename_i m r
    obtain ⟨⟨k, r₁⟩, hkey, h⟩ := Option.bind_eq_some_iff.1 h
    dsimp only at h
    split at h
    · rename_i r₂ hcolon
      obtain ⟨⟨v, r₃⟩, hvalue, h⟩ := Option.bind_eq_some_iff.1 h
      refine ⟨m, r, k, r₁, r₂, v, r₃, rfl, rfl, hkey, hcolon, hvalue, ?_⟩
      dsimp only at h
      split at h
      · rename_i r₄ hcomma
        obtain ⟨⟨fs', _⟩, hmembers, heq⟩ := Option.bind_eq_some_iff.1 h
        cases heq
        exact .inl ⟨r₄, fs', hcomma, hmembers, rfl⟩
      · rename_i r₄ hbrace
        cases h
        exact .inr ⟨hbrace, rfl⟩
      · cases h
    · cases h
  · cases h

theorem eq_cons_of_textFields {es : List (String × String)} {k : String} {v : Json} {fs : Fields}
    (h : textFields es = (k, v) :: fs) : ∃ s es', es = (k, s) :: es' ∧ v = .str s ∧ fs = textFields es' := by
  cases es with
  | nil => cases h
  | cons e es' =>
    cases h
    exact ⟨e.2, es', rfl, rfl, rfl⟩

/-- The first of the members that are read is spelled at the front. -/
theorem memberText_of_readMembers? {n : Nat} {es : List (String × String)} {cs rest : List Char}
    (h : readMembers? n (skipGap cs) = some (textFields es, rest)) :
    ∃ m e t, n = m + 1 ∧ MemberText e t ∧
      ((∃ r es', cs = t ++ ',' :: r ∧ readMembers? m (skipGap r) = some (textFields es', rest) ∧ es = e :: es') ∨
        cs = t ++ '}' :: rest ∧ es = [e]) := by
  obtain ⟨m, r, k, r₁, r₂, v, r₃, hm, hquote, hread, hcolon, hvalue, hrest⟩ := readMembers?_inv h
  obtain ⟨s, hs⟩ : ∃ s, v = .str s := by
    obtain ⟨_, _, _, _, hes⟩ | ⟨_, hes⟩ := hrest
    all_goals
      obtain ⟨s, _, _, hs, _⟩ := eq_cons_of_textFields hes
      exact ⟨s, hs⟩
  subst hs
  obtain ⟨key, hkey, hcs⟩ := quoted_of_readString? hread
  obtain ⟨before, hbefore, rfl⟩ := exists_gap (hquote.trans hcs)
  obtain ⟨beforeColon, hbeforeColon, rfl⟩ := exists_gap hcolon
  obtain ⟨value, hquoted, hr₂⟩ := quoted_of_readValue? hvalue
  obtain ⟨afterColon, hafterColon, rfl⟩ := exists_gap hr₂
  have hmember : ∀ after, Gap after →
      MemberText (k, s) (before ++ (key ++ (beforeColon ++ ':' :: (afterColon ++ (value ++ after))))) :=
    fun after hafter => .mk hbefore hkey hbeforeColon hafterColon hquoted hafter
  obtain ⟨r₄, fs', hcomma, hmembers, hes⟩ | ⟨hbrace, hes⟩ := hrest
  · obtain ⟨after, hafter, rfl⟩ := exists_gap hcomma
    obtain ⟨_, es', rfl, hsame, rfl⟩ := eq_cons_of_textFields hes
    cases hsame
    exact ⟨m, (k, s), _, hm, hmember after hafter, .inl ⟨r₄, es', by simp, hmembers, rfl⟩⟩
  · obtain ⟨after, hafter, rfl⟩ := exists_gap hbrace
    obtain ⟨_, es', rfl, hsame, hnil⟩ := eq_cons_of_textFields hes
    cases hsame
    obtain rfl : es' = [] := by simpa [textFields] using hnil.symm
    exact ⟨m, (k, s), _, hm, hmember after hafter, .inr ⟨by simp, rfl⟩⟩

/-- Members that are read are spelled in front of the closing brace. -/
theorem spelled_of_readMembers? {n : Nat} : ∀ {es : List (String × String)} {cs rest : List Char},
    readMembers? n (skipGap cs) = some (textFields es, rest) →
      ∃ members, List.Forall₂ MemberText es members ∧ members ≠ [] ∧
        cs = Text.joinChars ',' members ++ '}' :: rest := by
  induction n with
  | zero =>
    intro es cs rest h
    obtain ⟨_, _, _, hm, _⟩ := memberText_of_readMembers? h
    cases hm
  | succ n ih =>
    intro es cs rest h
    obtain ⟨m, e, t, hm, ht, ⟨r, es', rfl, hread, rfl⟩ | ⟨rfl, rfl⟩⟩ := memberText_of_readMembers? h
    · cases hm
      obtain ⟨members, hmembers, hne, rfl⟩ := ih hread
      exact ⟨t :: members, .cons ht hmembers, List.cons_ne_nil t members, by rw [joinChars_cons hne]; simp⟩
    · exact ⟨[t], .cons ht .nil, List.cons_ne_nil t [], rfl⟩

/-- A record that is read is spelled at the front. -/
theorem spelled_of_readValue? {n : Nat} {es : List (String × String)} {cs rest : List Char}
    (h : readValue? n cs = some (.obj (textFields es), rest)) :
    ∃ gap members, Gap gap ∧ List.Forall₂ MemberText es members ∧
      cs = '{' :: (gap ++ (Text.joinChars ',' members ++ '}' :: rest)) := by
  obtain ⟨_, _, _, _, hstr⟩ | ⟨m, r, fs, rfl, hobj, hfs⟩ | ⟨_, hobj⟩ := readValue?_inv h
  · cases hstr
  · cases hobj
    obtain ⟨hbrace, hnil⟩ | hread := hfs
    · obtain rfl : es = [] := by simpa [textFields] using hnil
      obtain ⟨gap, hgap, rfl⟩ := exists_gap hbrace
      exact ⟨gap, [], hgap, .nil, rfl⟩
    · obtain ⟨members, hmembers, _, rfl⟩ := spelled_of_readMembers? hread
      exact ⟨[], members, by simp [Gap], hmembers, rfl⟩
  · cases hobj

/-- The members begin with the quote of the first key. -/
theorem exists_quote {e : String × String} {t : List Char} (h : MemberText e t) (ts : List (List Char))
    (rest : List Char) : ∃ r, skipGap (Text.joinChars ',' (t :: ts) ++ rest) = '"' :: r := by
  have hfront : ∀ r, ∃ r', skipGap (t ++ r) = '"' :: r' := by
    intro r
    obtain ⟨hbefore, ⟨_⟩, _, _, _, _⟩ := h
    rw [List.append_assoc, skipGap_append hbefore]
    exact ⟨_, skipGap_of_not rfl _⟩
  cases ts with
  | nil => exact hfront rest
  | cons t' ts =>
    rw [joinChars_cons (List.cons_ne_nil t' ts), List.append_assoc]
    exact hfront _

/-- A record is read from its spellings. -/
theorem readValue?_spelled {es : List (String × String)} {gap : List Char} {members : List (List Char)} (hgap : Gap gap)
    (h : List.Forall₂ MemberText es members) {n : Nat} (hn : es.length ≤ n) (rest : List Char) :
    readValue? (n + 2) ('{' :: (gap ++ (Text.joinChars ',' members ++ '}' :: rest))) =
      some (.obj (textFields es), rest) := by
  cases h with
  | nil =>
    rw [Text.joinChars, List.nil_append, Json.readValue?, skipGap_gap_cons hgap rfl]
    rfl
  | @cons e t es members ht hmembers =>
    have hread := readMembers?_spelled (.cons ht hmembers) (List.cons_ne_nil e es) rest n hn
    obtain ⟨r, hr⟩ := exists_quote ht members ('}' :: rest)
    rw [hr] at hread
    rw [Json.readValue?, skipGap_append hgap, hr]
    exact congrArg (Option.map fun p => (Json.obj p.1, p.2)) hread

theorem length_le_joinChars {es : List (String × String)} {members : List (List Char)}
    (h : List.Forall₂ MemberText es members) : es.length ≤ (Text.joinChars ',' members).length + 1 := by
  induction h with
  | nil => exact Nat.zero_le _
  | @cons e t es members _ hmembers ih =>
    cases hmembers with
    | nil => simp
    | cons _ _ =>
      rw [joinChars_cons (List.cons_ne_nil _ _)]
      simp only [List.length_append, List.length_cons] at ih ⊢
      omega

/-- The texts that hold a record of texts are the spellings of the record. -/
theorem parseVerbatim?_texts_iff {s : String} {es : List (String × String)} :
    parseVerbatim? s = some (.obj (textFields es)) ↔ RecordText es s.toList := by
  constructor
  · intro h
    obtain ⟨⟨v, r⟩, hread, h⟩ := Option.bind_eq_some_iff.1 h
    dsimp only at h
    split at h
    · rename_i hend
      cases h
      obtain ⟨gap, members, hgap, hmembers, hs⟩ := spelled_of_readValue? hread
      obtain ⟨before, hbefore, hs⟩ := exists_gap hs
      obtain ⟨after, hafter, rfl⟩ := exists_gap (List.isEmpty_iff.1 hend)
      rw [hs, List.append_nil]
      exact .mk hbefore hgap hmembers hafter
    · cases h
  · intro h
    generalize hs : s.toList = cs at h
    obtain @⟨before, gap, after, members, hbefore, hgap, hmembers, hafter⟩ := h
    have hlength := length_le_joinChars hmembers
    have hend : skipGap after = [] := by
      rw [← List.append_nil after, skipGap_append hafter]
      rfl
    rw [parseVerbatim?, hs, skipGap_gap_cons hbefore rfl]
    obtain ⟨n, hn⟩ : ∃ n, ('{' :: (gap ++ (Text.joinChars ',' members ++ '}' :: after))).length = n + 1 := ⟨_, rfl⟩
    have hbound : es.length ≤ n := by
      simp only [List.length_cons, List.length_append] at hn
      omega
    simp only [hn, readValue?_spelled hgap hmembers hbound, Option.bind_eq_bind, Option.bind_some, hend]
    rfl

/-! ## The spelling that is written -/

theorem digits?_hexDigit {n : Nat} (h : n < 256) :
    Text.digits? 16 ['0', '0', Text.hexDigit (n / 16), Text.hexDigit (n % 16)] = some n := by
  have all : ∀ n < 256,
      Text.digits? 16 ['0', '0', Text.hexDigit (n / 16), Text.hexDigit (n % 16)] = some n := by decide +kernel
  exact all n h

theorem eq_ofNat_of_toNat {c : Char} {n : Nat} (h : c.toNat = n) : c = Char.ofNat n := by
  rw [← h, Char.ofNat_toNat]

/-- A character is written in one of its spellings. -/
theorem spells_escapeChar (c : Char) : Spells c (escapeChar c) := by
  unfold escapeChar
  by_cases hq : c = '"'
  · subst hq
    exact .short rfl
  by_cases hb : c = '\\'
  · subst hb
    exact .short rfl
  by_cases hn : c = '\n'
  · subst hn
    exact .short rfl
  by_cases ht : c = '\t'
  · subst ht
    exact .short rfl
  by_cases hr : c = '\r'
  · subst hr
    exact .short rfl
  rw [if_neg hq, if_neg hb, if_neg hn, if_neg ht, if_neg hr]
  by_cases h8 : c.toNat = 8
  · rw [if_pos h8, eq_ofNat_of_toNat h8]
    exact .short rfl
  by_cases h12 : c.toNat = 12
  · rw [if_neg h8, if_pos h12, eq_ofNat_of_toNat h12]
    exact .short rfl
  rw [if_neg h8, if_neg h12]
  by_cases hc : c.toNat < 32
  · have hnumber := Spells.number (digits?_hexDigit (n := c.toNat) (by omega)) (.inl (by omega))
    rw [if_pos hc]
    rwa [Char.ofNat_toNat] at hnumber
  · rw [if_neg hc]
    exact .plain hq hb (by omega)

theorem quoted_writeString (s : String) : Quoted s (writeString s) := by
  have hspelled : Spelled s.toList (s.toList.flatMap escapeChar) := by
    induction s.toList with
    | nil => exact ⟨[], .nil, rfl⟩
    | cons c cs ih =>
      rw [List.flatMap_cons]
      exact .cons (spells_escapeChar c) ih
  exact .mk hspelled

/-- A member as it is written. -/
def writeMember (e : String × String) : List Char := writeString e.1 ++ ':' :: writeString e.2

theorem memberText_writeMember (e : String × String) : MemberText e (writeMember e) := by
  have hgap : Gap [] := by simp [Gap]
  have h := MemberText.mk hgap (quoted_writeString e.1) hgap hgap (quoted_writeString e.2) hgap
  simpa only [List.nil_append, List.append_nil, writeMember] using h

theorem joinChars_writeMember (e : String × String) (es : List (String × String)) :
    Text.joinChars ',' ((e :: es).map writeMember) = writeMember e ++ writeMembers (textFields es) := by
  induction es generalizing e with
  | nil => simp [Text.joinChars, textFields, writeMembers]
  | cons e' es ih =>
    rw [List.map_cons, joinChars_cons (by simp), ih]
    simp [textFields, writeMembers, write, writeMember]

/-- A record is written in one of its spellings. -/
theorem recordText_render (es : List (String × String)) : RecordText es (render (.obj (textFields es))).toList := by
  have hgap : Gap [] := by simp [Gap]
  have hmembers : List.Forall₂ MemberText es (es.map writeMember) :=
    List.forall₂_map_right_iff.2 (List.forall₂_same.2 fun e _ => memberText_writeMember e)
  have hwritten : (render (.obj (textFields es))).toList =
      [] ++ '{' :: ([] ++ (Text.joinChars ',' (es.map writeMember) ++ '}' :: [])) := by
    cases es with
    | nil => simp [render, textFields, write, Text.joinChars]
    | cons e es =>
      rw [joinChars_writeMember]
      simp [render, textFields, write, writeMember]
  rw [hwritten]
  exact .mk hgap hgap hmembers hgap

/-- A record of texts is read back as it was written. -/
theorem parseVerbatim?_render_texts (es : List (String × String)) :
    parseVerbatim? (render (.obj (textFields es))) = some (.obj (textFields es)) :=
  parseVerbatim?_texts_iff.2 (recordText_render es)

end VolumeMigration.Json
