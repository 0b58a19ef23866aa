import VolumeMigration.Text.Cut
import VolumeMigration.Text.Digest
/-!
# Names and the directories they make

The names that a cluster accepts have no slash and are no `.` or `..`, so that a
path to a name leads to a directory of that name and different names lead to
different directories (`directory_name`). The digests that things are named
after have hexadecimal digits only.
-/

namespace VolumeMigration.Text

/-! ## Cutting -/

theorem cutAll_of_not_mem {sep : Char} {cs : List Char} (h : sep ∉ cs) : cutAll sep cs = [cs] := by
  induction cs with
  | nil => rfl
  | cons c cs ih =>
    simp only [List.mem_cons, not_or] at h
    rw [cutAll, if_neg (Ne.symm h.1), ih h.2]

/-- A separator ends what comes before it. -/
theorem cutAll_append_cons (sep : Char) (cs ds : List Char) :
    cutAll sep (cs ++ sep :: ds) = cutAll sep cs ++ cutAll sep ds := by
  induction cs with
  | nil => simp [cutAll]
  | cons c cs ih =>
    rw [List.cons_append, cutAll, cutAll]
    by_cases h : c = sep
    · rw [if_pos h, if_pos h, ih, List.cons_append]
    · obtain ⟨piece, pieces, hpieces⟩ := List.exists_cons_of_ne_nil (cutAll_ne_nil sep cs)
      rw [if_neg h, if_neg h, ih, hpieces, List.cons_append]
      rfl

theorem cutAll_append {sep : Char} {cs : List Char} (h : sep ∉ cs) (rest : List Char) :
    cutAll sep (cs ++ sep :: rest) = cs :: cutAll sep rest := by
  rw [cutAll_append_cons, cutAll_of_not_mem h, List.singleton_append]

theorem cutFirst?_append {sep : Char} {cs : List Char} (h : sep ∉ cs) (ds : List Char) :
    cutFirst? sep (cs ++ sep :: ds) = some (cs, ds) := by
  induction cs with
  | nil => simp [cutFirst?]
  | cons c cs ih =>
    simp only [List.mem_cons, not_or] at h
    rw [List.cons_append, cutFirst?, if_neg (Ne.symm h.1), ih h.2]
    rfl

/-- The parts around the first separator are the whole list. -/
theorem append_of_cutFirst? {sep : Char} {cs front back : List Char} (h : cutFirst? sep cs = some (front, back)) :
    front ++ sep :: back = cs := by
  induction cs generalizing front with
  | nil => cases h
  | cons c cs ih =>
    unfold cutFirst? at h
    split at h
    · rename_i hsep
      cases h
      rw [hsep, List.nil_append]
    · obtain ⟨⟨front', back'⟩, hrest, hp⟩ := Option.map_eq_some_iff.1 h
      cases hp
      rw [List.cons_append, ih hrest]

theorem cutFirst?_eq_some {sep : Char} {cs front back : List Char} :
    cutFirst? sep cs = some (front, back) ↔ cs = front ++ sep :: back ∧ sep ∉ front := by
  constructor
  · intro h
    have hmem : sep ∈ cs := by
      rw [← append_of_cutFirst? h]
      exact List.mem_append_right _ List.mem_cons_self
    obtain ⟨front', back', hsplit, hfront⟩ := List.eq_append_cons_of_mem hmem
    rw [hsplit, cutFirst?_append hfront] at h
    cases h
    exact ⟨hsplit, hfront⟩
  · rintro ⟨rfl, hfront⟩
    exact cutFirst?_append hfront back

theorem cutLast?_eq_some {sep : Char} {cs front back : List Char} :
    cutLast? sep cs = some (front, back) ↔ cs = front ++ sep :: back ∧ sep ∉ back := by
  rw [cutLast?, Option.map_eq_some_iff]
  constructor
  · rintro ⟨⟨back', front'⟩, hcut, hp⟩
    cases hp
    obtain ⟨hsplit, hback⟩ := cutFirst?_eq_some.1 hcut
    refine ⟨?_, by simpa using hback⟩
    rw [← List.reverse_inj, hsplit]
    simp
  · rintro ⟨rfl, hback⟩
    exact ⟨(back.reverse, front.reverse), cutFirst?_eq_some.2 (by simpa using hback), by simp⟩

theorem mem_joinChars {sep c : Char} : ∀ {parts : List (List Char)}, c ∈ joinChars sep parts →
    c = sep ∨ ∃ p ∈ parts, c ∈ p
  | [], h => by simp [joinChars] at h
  | [p], h => .inr ⟨p, by simp, h⟩
  | p :: q :: r, h => by
    change c ∈ p ++ sep :: joinChars sep (q :: r) at h
    rw [List.mem_append, List.mem_cons] at h
    rcases h with h | h | h
    · exact .inr ⟨p, by simp, h⟩
    · exact .inl h
    · rcases mem_joinChars h with h | ⟨x, hx, hc⟩
      · exact .inl h
      · exact .inr ⟨x, List.mem_cons_of_mem p hx, hc⟩

/-- Pieces without the separator are cut apart again where they were joined. -/
theorem cutAll_joinChars {sep : Char} :
    ∀ {parts : List (List Char)}, parts ≠ [] → (∀ p ∈ parts, sep ∉ p) → cutAll sep (joinChars sep parts) = parts
  | [], h, _ => absurd rfl h
  | [p], _, h => cutAll_of_not_mem (h p (by simp))
  | p :: q :: r, _, h => by
    have hrest : ∀ x ∈ q :: r, sep ∉ x := fun x hx => h x (List.mem_cons_of_mem p hx)
    show cutAll sep (p ++ sep :: joinChars sep (q :: r)) = _
    rw [cutAll_append (h p (by simp)), cutAll_joinChars (by simp) hrest]

theorem toList_join (sep : Char) : ∀ texts : List String,
    (join (String.singleton sep) texts).toList = joinChars sep (texts.map String.toList)
  | [] => rfl
  | [s] => rfl
  | s :: t :: r => by
    show (s ++ String.singleton sep ++ join (String.singleton sep) (t :: r)).toList = _
    rw [String.toList_append, String.toList_append, toList_join sep (t :: r), String.toList_singleton,
      List.append_assoc]
    rfl

/-- Texts without the separator are the pieces of what they are joined to. -/
theorem pieces_join {sep : Char} {texts : List String} (hne : texts ≠ []) (h : ∀ s ∈ texts, sep ∉ s.toList) :
    pieces sep (join (String.singleton sep) texts) = texts := by
  rw [pieces, toList_join, cutAll_joinChars (by simpa using hne), List.map_map]
  · simp [Function.comp_def]
  · intro p hp
    obtain ⟨s, hs, rfl⟩ := List.mem_map.1 hp
    exact h s hs

/-! ## Directories -/

/-- The directory that a part of a path leads to. -/
def enter (dirs : List (List Char)) (part : List Char) : List (List Char) :=
  if part = [] ∨ part = ['.'] then dirs
  else if part = ['.', '.'] then dirs.dropLast
  else dirs ++ [part]

/-- The directory of an absolute path, as the names that lead to it from the root. -/
def directory (path : String) : List (List Char) := (cutAll '/' path.toList).foldl enter []

/-- A name that a directory may have: one that leads down and not elsewhere. -/
def IsPlain (name : List Char) : Prop := '/' ∉ name ∧ name ≠ [] ∧ name ≠ ['.'] ∧ name ≠ ['.', '.']

theorem IsPlain.enter {name : List Char} (h : IsPlain name) (dirs : List (List Char)) :
    Text.enter dirs name = dirs ++ [name] := by
  obtain ⟨-, hnil, hdot, hdots⟩ := h
  simp [Text.enter, hnil, hdot, hdots]

/-- A name below a directory of the root, with or without a slash at the end. -/
theorem directory_name {root name : String} (hroot : IsPlain root.toList) (hname : IsPlain name.toList) :
    directory ("/" ++ root ++ "/" ++ name) = [root.toList, name.toList] ∧
      directory ("/" ++ root ++ "/" ++ name ++ "/") = [root.toList, name.toList] := by
  have hstart : ∀ rest, cutAll '/' ("/".toList ++ root.toList ++ "/".toList ++ rest) =
      [] :: root.toList :: cutAll '/' rest := by
    intro rest
    show cutAll '/' ('/' :: root.toList ++ ['/'] ++ rest) = _
    rw [List.append_assoc, List.cons_append, cutAll, if_pos rfl, List.singleton_append, cutAll_append hroot.1]
  have hempty : ∀ dirs, enter dirs [] = dirs := fun _ => if_pos (.inl rfl)
  constructor
  · simp only [directory, String.toList_append]
    rw [hstart, cutAll_of_not_mem hname.1]
    simp [hempty, hroot.enter, hname.enter]
  · simp only [directory, String.toList_append, List.append_assoc]
    rw [← List.append_assoc, ← List.append_assoc, hstart, show "/".toList = ['/'] from rfl, cutAll_append hname.1]
    simp [cutAll, hempty, hroot.enter, hname.enter]

/-! ## Legal names -/

/-- A character of a label of a name. -/
def isLabelChar (c : Char) : Bool := c.isLower || c.isDigit || c == '-'

/-- A label of a name: letters, digits and inner dashes. -/
def isLabel (cs : List Char) : Bool :=
  !cs.isEmpty && cs.all isLabelChar && cs.head? != some '-' && cs.getLast? != some '-'

theorem isLabel_iff {cs : List Char} : isLabel cs = true ↔
    cs ≠ [] ∧ (∀ c ∈ cs, isLabelChar c = true) ∧ cs.head? ≠ some '-' ∧ cs.getLast? ≠ some '-' := by
  simp [isLabel, and_assoc]

/-- Labels with a dash between them are a label. -/
theorem isLabel_append {cs ds : List Char} (hcs : isLabel cs = true) (hds : isLabel ds = true) :
    isLabel (cs ++ '-' :: ds) = true := by
  obtain ⟨hne, hchars, hhead, -⟩ := isLabel_iff.1 hcs
  obtain ⟨hne', hchars', -, hlast⟩ := isLabel_iff.1 hds
  refine isLabel_iff.2 ⟨by simp, ?_, ?_, ?_⟩
  · intro c hc
    rcases List.mem_append.1 hc with hc | hc
    · exact hchars c hc
    · rcases List.mem_cons.1 hc with rfl | hc
      · rfl
      · exact hchars' c hc
  · rw [List.head?_append, List.head?_eq_some_head hne] at *
    exact hhead
  · rw [List.getLast?_append, List.getLast?_cons_of_ne_nil hne', List.getLast?_eq_some_getLast hne'] at *
    exact hlast

/-- The most bytes that the name of an object has. -/
def maxNameLength : Nat := 253

/-- A name that an object may have: labels with dots between them. -/
def isObjectName (s : String) : Bool := s.utf8ByteSize ≤ maxNameLength && (cutAll '.' s.toList).all isLabel

/-- A legal name is the name of a directory. -/
theorem isPlain_of_isObjectName {s : String} (h : isObjectName s = true) : IsPlain s.toList := by
  have hparts := (Bool.and_eq_true_iff.1 h).2
  refine ⟨fun hslash => ?_, fun he => ?_, fun he => ?_, fun he => ?_⟩
  · rw [← join_cutAll '.' s.toList] at hslash
    rcases mem_joinChars hslash with hc | ⟨p, hp, hc⟩
    · cases hc
    · have hlabel := List.all_eq_true.1 hparts p hp
      simp only [isLabel, Bool.and_eq_true, List.all_eq_true] at hlabel
      exact absurd (hlabel.1.1.2 '/' hc) (by decide)
  all_goals
    rw [he] at hparts
    exact absurd hparts (by decide)

/-! ## Digests -/

/-- A digit of a digest. -/
def isHexDigit (c : Char) : Bool := c.isDigit || ('a' ≤ c && c ≤ 'f')

theorem isAlphanum_of_isHexDigit {c : Char} (h : isHexDigit c = true) : c.isAlphanum = true := by
  refine Bool.or_eq_true_iff.2 ?_
  rcases Bool.or_eq_true_iff.1 h with hdigit | hletter
  · exact .inr hdigit
  · have hbounds := Bool.and_eq_true_iff.1 hletter
    have hlo : 'a' ≤ c := of_decide_eq_true hbounds.1
    have hhi : c ≤ 'z' := Char.le_trans (of_decide_eq_true hbounds.2) (by decide)
    have hlower : c.isLower = true := Bool.and_eq_true_iff.2 ⟨decide_eq_true hlo, decide_eq_true hhi⟩
    exact .inl (Bool.or_eq_true_iff.2 (.inr hlower))

theorem isHexDigit_hexDigit {n : Nat} (h : n < 16) : isHexDigit (hexDigit n) = true := by
  have : ∀ n : Fin 16, isHexDigit (hexDigit n) = true := by decide
  exact this ⟨n, h⟩

theorem isHexDigit_of_mem {bytes : List UInt8} {c : Char} (h : c ∈ hexOfBytes bytes) : isHexDigit c = true := by
  induction bytes with
  | nil => cases h
  | cons b r ih =>
    have hb : b.toNat < 256 := b.toNat_lt
    simp only [hexOfBytes, List.mem_cons] at h
    rcases h with rfl | rfl | h
    · exact isHexDigit_hexDigit (by omega)
    · exact isHexDigit_hexDigit (by omega)
    · exact ih h

theorem length_md5Hex (s : String) : (md5Hex s).toList.length = 32 := by
  rw [md5Hex, String.toList_ofList, length_hexOfBytes, length_md5]

theorem isHexDigit_of_mem_md5Hex {s : String} {c : Char} (h : c ∈ (md5Hex s).toList) : isHexDigit c = true := by
  rw [md5Hex, String.toList_ofList] at h
  exact isHexDigit_of_mem h

end VolumeMigration.Text
