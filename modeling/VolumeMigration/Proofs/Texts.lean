import VolumeMigration.Text.Blank
import VolumeMigration.Text.Number
/-!
# Reading and trimming texts

A number in decimal digits is read as itself (`digits?_repr`), and a text that is
read as one has digits and a sign at most. A text without blanks has nothing to
trim.
-/

namespace VolumeMigration.Text

/-! ## Numbers -/

theorem isDigit_bounds {c : Char} (h : c.isDigit = true) : 48 ≤ c.toNat ∧ c.toNat ≤ 57 := by
  simp only [Char.isDigit, Bool.and_eq_true, decide_eq_true_eq] at h
  exact h

theorem digitValue?_ten {c : Char} (h : c.isDigit = true) : digitValue? 10 c = some (c.toNat - 48) := by
  obtain ⟨hlo, hhi⟩ := isDigit_bounds h
  have hc : '0' ≤ c ∧ c ≤ '9' := ⟨hlo, hhi⟩
  rw [digitValue?, if_pos hc, Option.filter_some, if_pos (by simp; omega)]

theorem digitsFrom?_ten (cs : List Char) (h : ∀ c ∈ cs, c.isDigit = true) :
    ∀ acc, digitsFrom? 10 acc cs = some (Nat.ofDigitChars 10 cs acc) := by
  induction cs with
  | nil =>
    intro acc
    simp [digitsFrom?]
  | cons c cs ih =>
    intro acc
    rw [digitsFrom?, digitValue?_ten (h c (by simp))]
    simp only
    rw [ih (fun d hd => h d (by simp [hd])), Nat.ofDigitChars_cons]
    rfl

theorem isDigit_of_mem_repr {n : Nat} {c : Char} (h : c ∈ (Nat.repr n).toList) : c.isDigit = true :=
  Nat.isDigit_of_mem_toDigits (by omega) (by omega) (Nat.toList_repr (n := n) ▸ h)

/-- A number is read back from its digits. -/
theorem digits?_repr (n : Nat) : digits? 10 (Nat.repr n).toList = some n := by
  rw [digits?, digitsFrom?_ten _ fun c => isDigit_of_mem_repr, Nat.toList_repr, Nat.ofDigitChars_ten_toDigits]
  simp

/-- Different numbers are written differently. -/
theorem repr_injective {m n : Nat} (h : Nat.repr m = Nat.repr n) : m = n := by
  have hm := digits?_repr m
  rw [h, digits?_repr n] at hm
  exact (Option.some.inj hm).symm

theorem isDigit_of_digitValue? {c : Char} {d : Nat} (h : digitValue? 10 c = some d) : c.isDigit = true := by
  unfold digitValue? at h
  obtain ⟨hvalue, hbelow⟩ := Option.filter_eq_some_iff.1 h
  have hbelow : d < 10 := by simpa using hbelow
  split at hvalue
  · rename_i hdigit
    simpa [Char.isDigit, Char.le_def] using hdigit
  · split at hvalue
    · rename_i hlower
      have hlow : 97 ≤ c.toNat := hlower.1
      cases hvalue
      omega
    · split at hvalue
      · rename_i hupper
        have hlow : 65 ≤ c.toNat := hupper.1
        cases hvalue
        omega
      · cases hvalue

theorem isDigit_of_digitsFrom? {cs : List Char} {acc n : Nat} (h : digitsFrom? 10 acc cs = some n) :
    ∀ c ∈ cs, c.isDigit = true := by
  induction cs generalizing acc with
  | nil => exact fun c hc => absurd hc List.not_mem_nil
  | cons c cs ih =>
    unfold digitsFrom? at h
    cases hvalue : digitValue? 10 c with
    | none =>
      rw [hvalue] at h
      cases h
    | some d =>
      rw [hvalue] at h
      exact List.forall_mem_cons.2 ⟨isDigit_of_digitValue? hvalue, ih h⟩

theorem isDigit_of_digits? {cs : List Char} {n : Nat} (h : digits? 10 cs = some n) :
    cs ≠ [] ∧ ∀ c ∈ cs, c.isDigit = true := by
  unfold digits? at h
  split at h
  · cases h
  · rename_i hne
    exact ⟨by simpa using hne, isDigit_of_digitsFrom? h⟩

theorem unsigned?_of_digits? {cs : List Char} {n : Nat} (h : digits? 10 cs = some n) :
    unsigned? cs = some (n : Int) := by
  unfold unsigned?
  split
  · exact absurd ((isDigit_of_digits? h).2 '+' List.mem_cons_self) (by decide)
  · rw [h]
    rfl

theorem signed?_of_digits? {cs : List Char} {n : Nat} (h : digits? 10 cs = some n) : signed? cs = some (n : Int) := by
  have hd := (isDigit_of_digits? h).2
  unfold signed?
  split
  · exact absurd (hd '+' List.mem_cons_self) (by decide)
  · exact absurd (hd '-' List.mem_cons_self) (by decide)
  · rw [h]
    rfl

/-- A text of digits has no sign. -/
theorem signed?_repr (n : Nat) : signed? (Nat.repr n).toList = some (n : Int) := signed?_of_digits? (digits?_repr n)

theorem within?_eq_some {lo hi n m : Int} : within? lo hi n = some m ↔ n = m ∧ lo ≤ n ∧ n ≤ hi := by
  rw [within?, Option.ite_none_right_eq_some, Option.some.injEq, and_comm]

/-- A number of 64 bits is read back from its digits. -/
theorem readInt64?_repr {n : Int} (hlow : 0 ≤ n) (hhigh : n ≤ maxInt64) : readInt64? (Int.repr n) = some n := by
  obtain ⟨k, rfl⟩ := Int.eq_ofNat_of_zero_le hlow
  have hrepr : Int.repr (k : Int) = Nat.repr k := rfl
  rw [readInt64?, hrepr, signed?_repr, Option.bind_some, within?, if_pos]
  exact ⟨by unfold minInt64; omega, hhigh⟩

theorem readInt64?_le {s : String} {n : Int} (h : readInt64? s = some n) : n ≤ maxInt64 := by
  obtain ⟨m, -, hm⟩ := Option.bind_eq_some_iff.1 h
  obtain ⟨rfl, -, hhigh⟩ := within?_eq_some.1 hm
  exact hhigh

theorem isDigit_of_unsigned? {cs : List Char} {n : Int} (h : unsigned? cs = some n) :
    cs ≠ [] ∧ ∀ c ∈ cs, c.isDigit = true ∨ c = '+' := by
  unfold unsigned? at h
  split at h
  · obtain ⟨n, hdigits, -⟩ := Option.map_eq_some_iff.1 h
    exact ⟨List.cons_ne_nil _ _,
      List.forall_mem_cons.2 ⟨.inr rfl, fun c hc => .inl ((isDigit_of_digits? hdigits).2 c hc)⟩⟩
  · obtain ⟨n, hdigits, -⟩ := Option.map_eq_some_iff.1 h
    exact ⟨(isDigit_of_digits? hdigits).1, fun c hc => .inl ((isDigit_of_digits? hdigits).2 c hc)⟩

theorem isSome_readUInt16?_of_digits? {s : String} {n : Nat} (h : digits? 10 s.toList = some n) (hn : n ≤ 65535) :
    (readUInt16? s).isSome = true := by
  rw [readUInt16?, unsigned?_of_digits? h, Option.bind_some, within?, if_pos ⟨by omega, by unfold maxUInt16; omega⟩]
  rfl

/-- A number that is read has digits, maybe with a sign. -/
theorem isDigit_of_readUInt16? {s : String} (h : (readUInt16? s).isSome = true) :
    s.toList ≠ [] ∧ ∀ c ∈ s.toList, c.isDigit = true ∨ c = '+' := by
  rw [readUInt16?, Option.isSome_map] at h
  obtain ⟨n, hn⟩ := Option.isSome_iff_exists.1 h
  obtain ⟨m, hm, -⟩ := Option.bind_eq_some_iff.1 hn
  exact isDigit_of_unsigned? hm

/-! ## The texts of a number -/

theorem digitChar_digitValue? {c : Char} {d : Nat} (h : digitValue? 10 c = some d) : d < 10 ∧ Nat.digitChar d = c := by
  have hdigit := isDigit_of_digitValue? h
  obtain ⟨hlo, hhi⟩ := isDigit_bounds hdigit
  obtain rfl : c.toNat - 48 = d := Option.some.inj ((digitValue?_ten hdigit).symm.trans h)
  have hlt : c.toNat - 48 < 10 := by omega
  refine ⟨hlt, Char.toNat_inj.1 ?_⟩
  rw [Nat.toNat_digitChar_of_lt_ten hlt]
  omega

theorem digitsFrom?_cons {c : Char} {cs : List Char} {acc n : Nat} (h : digitsFrom? 10 acc (c :: cs) = some n) :
    ∃ d, d < 10 ∧ Nat.digitChar d = c ∧ digitsFrom? 10 (10 * acc + d) cs = some n := by
  unfold digitsFrom? at h
  split at h
  · rename_i d hd
    obtain ⟨hlt, hchar⟩ := digitChar_digitValue? hd
    exact ⟨d, hlt, hchar, h⟩
  · cases h

/-- Digits after a positive number are the last digits of the number that they go on to spell. -/
theorem toDigits_append_of_digitsFrom? {cs : List Char} : ∀ {acc n : Nat}, 0 < acc → digitsFrom? 10 acc cs = some n →
    Nat.toDigits 10 acc ++ cs = Nat.toDigits 10 n := by
  induction cs with
  | nil =>
    intro acc n _ h
    cases h
    exact List.append_nil _
  | cons c cs ih =>
    intro acc n hacc h
    obtain ⟨d, hlt, hchar, h⟩ := digitsFrom?_cons h
    calc Nat.toDigits 10 acc ++ c :: cs
        = Nat.toDigits 10 acc ++ Nat.toDigits 10 d ++ cs := by
          rw [Nat.toDigits_of_lt_base hlt, hchar, List.append_assoc, List.singleton_append]
      _ = Nat.toDigits 10 (10 * acc + d) ++ cs := by rw [Nat.toDigits_append_toDigits (by decide) hacc hlt]
      _ = Nat.toDigits 10 n := ih (by omega) h

/-- Digits are those of the number that they spell, after some zeros. -/
theorem exists_zeros_of_digitsFrom? {c : Char} {cs : List Char} {n : Nat} (h : digitsFrom? 10 0 (c :: cs) = some n) :
    ∃ k, c :: cs = List.replicate k '0' ++ Nat.toDigits 10 n := by
  induction cs generalizing c with
  | nil =>
    obtain ⟨d, hlt, rfl, hrest⟩ := digitsFrom?_cons h
    obtain rfl : 10 * 0 + d = n := Option.some.inj hrest
    exact ⟨0, by rw [Nat.mul_zero, Nat.zero_add, Nat.toDigits_of_lt_base hlt]; rfl⟩
  | cons c' cs ih =>
    obtain ⟨d, hlt, rfl, hrest⟩ := digitsFrom?_cons h
    rw [Nat.mul_zero, Nat.zero_add] at hrest
    obtain rfl | hpos := Nat.eq_zero_or_pos d
    · obtain ⟨k, hk⟩ := ih hrest
      exact ⟨k + 1, by rw [hk]; rfl⟩
    · refine ⟨0, ?_⟩
      rw [List.replicate_zero, List.nil_append, ← toDigits_append_of_digitsFrom? hpos hrest,
        Nat.toDigits_of_lt_base hlt, List.singleton_append]

theorem digitsFrom?_zeros (k : Nat) (cs : List Char) :
    digitsFrom? 10 0 (List.replicate k '0' ++ cs) = digitsFrom? 10 0 cs := by
  induction k with
  | zero => rfl
  | succ k ih =>
    rw [List.replicate_succ, List.cons_append, digitsFrom?, digitValue?_ten (by rfl)]
    exact ih

/-- The texts that are read as a number are its digits after any number of zeros. -/
theorem digits?_eq_some_iff {cs : List Char} {n : Nat} :
    digits? 10 cs = some n ↔ ∃ k, cs = List.replicate k '0' ++ (Nat.repr n).toList := by
  constructor
  · intro h
    obtain ⟨hne, -⟩ := isDigit_of_digits? h
    obtain ⟨c, cs, rfl⟩ := List.exists_cons_of_ne_nil hne
    rw [Nat.toList_repr]
    exact exists_zeros_of_digitsFrom? (by simpa [digits?] using h)
  · rintro ⟨k, rfl⟩
    have hread := digits?_repr n
    rw [digits?, if_neg (by simp)] at hread ⊢
    rw [digitsFrom?_zeros, hread]

/-- The sign leaves the number as it is: there is none, or a plus, or a minus before zero. -/
def IdleSign (n : Int) (sign : List Char) : Prop := sign = [] ∨ sign = ['+'] ∨ sign = ['-'] ∧ n = 0

/-- The texts that are read as a number that is not negative. -/
theorem signed?_eq_some_iff {cs : List Char} {n : Int} (hn : 0 ≤ n) :
    signed? cs = some n ↔ ∃ sign k, IdleSign n sign ∧ cs = sign ++ (List.replicate k '0' ++ (Int.repr n).toList) := by
  obtain ⟨m, rfl⟩ := Int.eq_ofNat_of_zero_le hn
  have hdigits : ∀ {r : List Char}, digits? 10 r = some m ↔
      ∃ k, r = List.replicate k '0' ++ (Int.repr (m : Int)).toList := digits?_eq_some_iff
  constructor
  · intro h
    unfold signed? at h
    split at h
    · rename_i r
      obtain ⟨m', hr, hm⟩ := Option.map_eq_some_iff.1 h
      obtain rfl : m' = m := Int.ofNat.inj hm
      obtain ⟨k, rfl⟩ := hdigits.1 hr
      exact ⟨['+'], k, .inr (.inl rfl), rfl⟩
    · rename_i r
      obtain ⟨m', hr, hm⟩ := Option.map_eq_some_iff.1 h
      have hzero : m' = 0 ∧ m = 0 := by
        simp only [Int.ofNat_eq_natCast] at hm
        omega
      obtain ⟨rfl, rfl⟩ := hzero
      obtain ⟨k, rfl⟩ := hdigits.1 hr
      exact ⟨['-'], k, .inr (.inr ⟨rfl, rfl⟩), rfl⟩
    · obtain ⟨m', hr, hm⟩ := Option.map_eq_some_iff.1 h
      obtain rfl : m' = m := Int.ofNat.inj hm
      obtain ⟨k, rfl⟩ := hdigits.1 hr
      exact ⟨[], k, .inl rfl, rfl⟩
  · rintro ⟨sign, k, rfl | rfl | ⟨rfl, hzero⟩, rfl⟩
    · exact signed?_of_digits? (hdigits.2 ⟨k, rfl⟩)
    · rw [List.singleton_append, signed?, hdigits.2 ⟨k, rfl⟩]
      rfl
    · obtain rfl : m = 0 := by simpa using hzero
      rw [List.singleton_append, signed?, hdigits.2 ⟨k, rfl⟩]
      rfl

/-- A number is read back from its sign and its digits. -/
theorem signed?_intRepr (n : Int) : signed? (Int.repr n).toList = some n := by
  cases n with
  | ofNat m => exact signed?_repr m
  | negSucc m =>
    rw [show Int.repr (.negSucc m) = "-" ++ Nat.repr (m + 1) from rfl, String.toList_append,
      show "-".toList = ['-'] from rfl, List.singleton_append, signed?, digits?_repr]
    rfl

theorem intRepr_injective : Function.Injective Int.repr := by
  intro m n h
  have hm := signed?_intRepr m
  rw [h, signed?_intRepr n] at hm
  exact (Option.some.inj hm).symm

/-! ## Blanks -/

theorem isBlank_of_isDigit {c : Char} (h : c.isDigit = true) : isBlank c = false := by
  obtain ⟨hlo, hhi⟩ := isDigit_bounds h
  simp [isBlank]
  omega

theorem trimFront_of_head {cs : List Char} (h : ∀ c ∈ cs.head?, isBlank c = false) : trimFront cs = cs := by
  cases cs with
  | nil => rfl
  | cons c cs => rw [trimFront, List.dropWhile_cons, if_neg (by simp [h c rfl])]

theorem trimChars_of_ends {cs : List Char} (hfirst : ∀ c ∈ cs.head?, isBlank c = false)
    (hlast : ∀ c ∈ cs.getLast?, isBlank c = false) : trimChars cs = cs := by
  have hback : trimFront cs.reverse = cs.reverse :=
    trimFront_of_head fun c hc => hlast c (by rwa [List.head?_reverse] at hc)
  rw [trimChars, trimFront_of_head hfirst, hback, List.reverse_reverse]

/-- A text that neither begins nor ends with a blank has nothing to trim. -/
theorem trim_of_ends {s : String} (hfirst : ∀ c ∈ s.toList.head?, isBlank c = false)
    (hlast : ∀ c ∈ s.toList.getLast?, isBlank c = false) : trim s = s := by
  rw [trim, trimChars_of_ends hfirst hlast, String.ofList_toList]

/-- A text without blanks has nothing to trim. -/
theorem trim_of_all {s : String} (h : ∀ c ∈ s.toList, isBlank c = false) : trim s = s :=
  trim_of_ends (fun c hc => h c (List.mem_of_mem_head? hc)) fun c hc => h c (List.mem_of_getLast? hc)

/-- A trimmed text does not end with a blank. -/
theorem getLast?_trim {s : String} {c : Char} (h : c ∈ (trim s).toList.getLast?) : isBlank c = false := by
  rw [trim, String.toList_ofList, trimChars, List.getLast?_reverse, trimFront] at h
  have hhead := List.head?_dropWhile_not isBlank (trimFront s.toList).reverse
  rw [h] at hhead
  simpa using hhead

/-- Nothing but blanks. -/
def Blanks (cs : List Char) : Prop := ∀ c ∈ cs, isBlank c = true

instance (cs : List Char) : Decidable (Blanks cs) := decidable_of_iff (cs.all isBlank = true) List.all_eq_true

theorem trimFront_blanks {bs : List Char} (h : Blanks bs) (cs : List Char) : trimFront (bs ++ cs) = trimFront cs :=
  List.dropWhile_append_of_pos h

theorem exists_blanks_trimFront (cs : List Char) : ∃ bs, Blanks bs ∧ cs = bs ++ trimFront cs :=
  ⟨cs.takeWhile isBlank, List.all_eq_true.1 List.all_takeWhile, (List.takeWhile_append_dropWhile).symm⟩

/-- What is cut off is blank. -/
theorem exists_blanks_trimChars (cs : List Char) :
    ∃ before after, Blanks before ∧ Blanks after ∧ cs = before ++ (trimChars cs ++ after) := by
  obtain ⟨before, hbefore, hcs⟩ := exists_blanks_trimFront cs
  obtain ⟨after, hafter, hback⟩ := exists_blanks_trimFront (trimFront cs).reverse
  refine ⟨before, after.reverse, hbefore, fun c hc => hafter c (List.mem_reverse.1 hc), ?_⟩
  calc cs = before ++ (trimFront cs).reverse.reverse := by rw [List.reverse_reverse, ← hcs]
    _ = before ++ (after ++ trimFront (trimFront cs).reverse).reverse := by rw [← hback]
    _ = before ++ (trimChars cs ++ after.reverse) := by rw [List.reverse_append, trimChars]

theorem trimFront_append {cs : List Char} (hne : cs ≠ []) (h : ∀ c ∈ cs, isBlank c = false) (r : List Char) :
    trimFront (cs ++ r) = cs ++ r := by
  obtain ⟨c, cs, rfl⟩ := List.exists_cons_of_ne_nil hne
  rw [List.cons_append, trimFront, List.dropWhile_cons, if_neg (by simp [h c List.mem_cons_self])]

/-- A text that is trimmed to one without blanks is this text between blanks. -/
theorem trim_eq_iff {s core : String} (hne : core.toList ≠ []) (h : ∀ c ∈ core.toList, isBlank c = false) :
    trim s = core ↔ ∃ before after, Blanks before ∧ Blanks after ∧ s.toList = before ++ (core.toList ++ after) := by
  constructor
  · rintro rfl
    rw [trim, String.toList_ofList]
    exact exists_blanks_trimChars s.toList
  · rintro ⟨before, after, hbefore, hafter, hs⟩
    have hback : trimFront core.toList.reverse = core.toList.reverse :=
      trimFront_of_head fun c hc => h c (List.mem_reverse.1 (List.mem_of_mem_head? hc))
    have hafter : Blanks after.reverse := fun c hc => hafter c (List.mem_reverse.1 hc)
    rw [trim, hs, trimChars, trimFront_blanks hbefore, trimFront_append hne h, List.reverse_append,
      trimFront_blanks hafter, hback, List.reverse_reverse, String.ofList_toList]

end VolumeMigration.Text
