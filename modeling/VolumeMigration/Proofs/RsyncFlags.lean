import VolumeMigration.Proofs.Names
import VolumeMigration.Proofs.Texts
import VolumeMigration.Transfer.RsyncOptions
/-!
# Flags of rsync

Options are read back from their flags, and what is read from flags is always
such options (`ofFlags_toFlags_iff`): the values pass their checks, no extra
spells a named option, and nothing is lost when blanks are cut off.
-/

namespace VolumeMigration

open Text (isBlank isDecimalDigit)

namespace RsyncOptions

/-! ## Flags with values -/

/-- A flag begins with a text. -/
def Begins (start flag : String) : Prop := start.toList <+: flag.toList

instance (start flag : String) : Decidable (Begins start flag) :=
  inferInstanceAs (Decidable (start.toList <+: flag.toList))

theorem begins_append (start value : String) : Begins start (start ++ value) := by
  rw [Begins, String.toList_append]
  exact List.prefix_append _ _

theorem begins_iff {start flag : String} : Begins start flag ↔ ∃ value, flag = start ++ value := by
  constructor
  · rintro ⟨rest, hrest⟩
    refine ⟨String.ofList rest, ?_⟩
    rw [← String.toList_inj, String.toList_append, String.toList_ofList, hrest]
  · rintro ⟨value, rfl⟩
    exact begins_append start value

/-- Of two texts that one text begins with, one begins with the other. -/
theorem not_begins_append (start other value : String) (h : ¬Begins start other ∧ ¬Begins other start) :
    ¬Begins other (start ++ value) := by
  intro hother
  rcases List.prefix_or_prefix_of_prefix (begins_append start value) hother with hboth | hboth
  · exact h.1 hboth
  · exact h.2 hboth

theorem flagValue?_append (start value : String) : flagValue? start (start ++ value) = some value := by
  rw [flagValue?, Text.afterStart?, String.toList_append, if_pos, List.drop_left, Option.map_some, String.ofList_toList]
  exact List.isPrefixOf_iff_prefix.2 (List.prefix_append _ _)

theorem flagValue?_eq_none_iff {start flag : String} : flagValue? start flag = none ↔ ¬Begins start flag := by
  rw [flagValue?, Option.map_eq_none_iff, Text.afterStart?, ite_eq_right_iff, Begins, ← List.isPrefixOf_iff_prefix]
  simp

theorem flagValue?_eq_some_iff {start flag value : String} :
    flagValue? start flag = some value ↔ flag = start ++ value := by
  constructor
  · intro h
    have hbegins : Begins start flag := by
      refine Decidable.of_not_not fun hnot => ?_
      rw [flagValue?_eq_none_iff.2 hnot] at h
      cases h
    obtain ⟨value', rfl⟩ := begins_iff.1 hbegins
    rw [flagValue?_append] at h
    cases h
    rfl
  · rintro rfl
    exact flagValue?_append start value

/-! ## Named options -/

/-- A flag spells one of the named options. -/
def IsNamed (flag : String) : Prop :=
  (∃ s : RsyncSwitch, s.flag = flag) ∨ Begins limitStart flag ∨ Begins logFileStart flag ∨ Begins infoStart flag

theorem ofFlag?_flag (s : RsyncSwitch) : RsyncSwitch.ofFlag? s.flag = some s := by
  cases s <;> decide

theorem ofFlag?_eq_none_iff {flag : String} : RsyncSwitch.ofFlag? flag = none ↔ ∀ s : RsyncSwitch, s.flag ≠ flag := by
  simp [RsyncSwitch.ofFlag?, RsyncSwitch.mem_all]

theorem not_isNamed_iff {flag : String} : ¬IsNamed flag ↔ RsyncSwitch.ofFlag? flag = none ∧
    flagValue? limitStart flag = none ∧ flagValue? logFileStart flag = none ∧ flagValue? infoStart flag = none := by
  rw [flagValue?_eq_none_iff, flagValue?_eq_none_iff, flagValue?_eq_none_iff, ofFlag?_eq_none_iff, IsNamed]
  simp only [not_or, not_exists, ne_eq]

/-- No switch is spelled by a text that begins as no switch does. -/
theorem ofFlag?_append (start value : String) (h : ∀ s ∈ RsyncSwitch.all, ¬Begins start s.flag) :
    RsyncSwitch.ofFlag? (start ++ value) = none := by
  rw [ofFlag?_eq_none_iff]
  intro s hs
  exact h s s.mem_all (hs ▸ begins_append start value)

/-! ## Reading one flag -/

section

variable {o : RsyncOptions} {faults : List Fault}

theorem addFlag_switch (s : RsyncSwitch) : addFlag (o, faults) s.flag = (o.withSwitch s true, faults) := by
  simp only [addFlag, ofFlag?_flag]

theorem addFlag_limit {text : String} {n : Int} (h : Text.readInt64? text = some n) :
    addFlag (o, faults) (limitStart ++ text) = ({ o with bwLimit := some n }, faults) := by
  simp only [addFlag, ofFlag?_append limitStart text (by decide), flagValue?_append, h]

theorem addFlag_logFile (path : String) :
    addFlag (o, faults) (logFileStart ++ path) = ({ o with logFile := some path }, faults) := by
  have hlimit := flagValue?_eq_none_iff.2 (not_begins_append logFileStart limitStart path (by decide))
  simp only [addFlag, ofFlag?_append logFileStart path (by decide), flagValue?_append, hlimit]

theorem addFlag_info (text : String) : addFlag (o, faults) (infoStart ++ text) =
    ({ o with info := o.info ++ (Text.pieces ',' text).filter (!·.isEmpty) }, faults) := by
  have hlimit := flagValue?_eq_none_iff.2 (not_begins_append infoStart limitStart text (by decide))
  have hlog := flagValue?_eq_none_iff.2 (not_begins_append infoStart logFileStart text (by decide))
  simp only [addFlag, ofFlag?_append infoStart text (by decide), flagValue?_append, hlimit, hlog]

theorem addFlag_extra {flag : String} (h : ¬IsNamed flag) :
    addFlag (o, faults) flag = ({ o with extras := o.extras ++ [flag] }, faults) := by
  obtain ⟨hswitch, hlimit, hlog, hinfo⟩ := not_isNamed_iff.1 h
  simp only [addFlag, hswitch, hlimit, hlog, hinfo]

end

/-! ## Characters of flags -/

theorem isBlank_of_isDecimalDigit {c : Char} (h : isDecimalDigit c = true) : isBlank c = false := by
  have hranges : ∀ r ∈ Text.decimalDigitRanges, (0x20 < r.1 ∧ r.2 < 0x85) ∨ (0xA0 < r.1 ∧ r.2 < 0x1680) ∨
      (0x1680 < r.1 ∧ r.2 < 0x2000) ∨ 0x3000 < r.1 := by decide
  obtain ⟨r, hr, hwithin⟩ := List.any_eq_true.1 h
  have hapart := hranges r hr
  simp only [Bool.and_eq_true, decide_eq_true_eq] at hwithin
  simp [isBlank]
  omega

theorem isBlank_of_isAlphanum {c : Char} (h : c.isAlphanum = true) : isBlank c = false := by
  have hranges : (65 ≤ c.toNat ∧ c.toNat ≤ 90) ∨ (97 ≤ c.toNat ∧ c.toNat ≤ 122) ∨
      (48 ≤ c.toNat ∧ c.toNat ≤ 57) := by
    rcases Bool.or_eq_true_iff.1 h with hletter | hdigit
    · rcases Bool.or_eq_true_iff.1 hletter with hupper | hlower
      · have hbounds := of_decide_eq_true hupper
        exact .inl ⟨hbounds.1, hbounds.2⟩
      · have hbounds := Bool.and_eq_true_iff.1 hlower
        exact .inr (.inl ⟨of_decide_eq_true hbounds.1, of_decide_eq_true hbounds.2⟩)
    · have hbounds := Bool.and_eq_true_iff.1 hdigit
      exact .inr (.inr ⟨of_decide_eq_true hbounds.1, of_decide_eq_true hbounds.2⟩)
  simp [isBlank]
  omega

/-- What the client reports is told in capital letters and decimal digits. -/
theorem isUpper_or_isDecimalDigit {s : String} (h : isInfoFlag s = true) {c : Char} (hc : c ∈ s.toList) :
    c.isUpper = true ∨ isDecimalDigit c = true := by
  simp only [isInfoFlag, Bool.and_eq_true, Bool.or_eq_true, List.isEmpty_iff] at h
  rw [← List.takeWhile_append_dropWhile (p := Char.isUpper) (l := s.toList), List.mem_append] at hc
  rcases hc with hc | hc
  · exact .inl (List.all_eq_true.1 List.all_takeWhile c hc)
  · rcases h.2 with hnone | hone
    · rw [hnone] at hc
      cases hc
    · exact .inr (List.all_eq_true.1 hone.2 c hc)

theorem isBlank_of_mem_info {s : String} (h : isInfoFlag s = true) {c : Char} (hc : c ∈ s.toList) :
    isBlank c = false := by
  rcases isUpper_or_isDecimalDigit h hc with hupper | hdigit
  · exact isBlank_of_isAlphanum (Bool.or_eq_true_iff.2 (.inl (Bool.or_eq_true_iff.2 (.inl hupper))))
  · exact isBlank_of_isDecimalDigit hdigit

theorem comma_not_mem_info {s : String} (h : isInfoFlag s = true) : ',' ∉ s.toList := by
  intro hc
  exact absurd (isUpper_or_isDecimalDigit h hc) (by decide)

theorem isBlank_of_mem_longName {cs : List Char} (h : isLongName cs = true) {c : Char} (hc : c ∈ cs) :
    isBlank c = false := by
  rw [← Text.join_cutAll '-' cs] at hc
  rcases Text.mem_joinChars hc with rfl | ⟨word, hword, hc⟩
  · rfl
  · have hchars := List.all_eq_true.1 h word hword
    simp only [Bool.and_eq_true, List.all_eq_true, isNameChar, Bool.or_eq_true] at hchars
    refine isBlank_of_isAlphanum ?_
    rcases hchars.2 c hc with hdigit | hlower
    · exact Bool.or_eq_true_iff.2 (.inr hdigit)
    · exact Bool.or_eq_true_iff.2 (.inl (Bool.or_eq_true_iff.2 (.inr hlower)))

/-- Extra flags have no blanks, so nothing is cut off them. -/
theorem isBlank_of_mem_extra {s : String} (h : isExtraFlag s = true) {c : Char} (hc : c ∈ s.toList) :
    isBlank c = false := by
  unfold isExtraFlag at h
  split at h
  · rename_i d hs
    rw [hs] at hc
    rcases List.mem_cons.1 hc with rfl | hc
    · rfl
    · exact isBlank_of_isAlphanum (List.mem_singleton.1 hc ▸ h)
  · rename_i r _ hs
    rw [hs, List.mem_cons, List.mem_cons] at hc
    rcases hc with rfl | rfl | hc
    · rfl
    · rfl
    · split at h
      · exact isBlank_of_mem_longName h hc
      · rename_i name value hcut
        simp only [Bool.and_eq_true, List.all_eq_true, Bool.not_eq_true'] at h
        rw [← Text.append_of_cutFirst? hcut, List.mem_append, List.mem_cons] at hc
        rcases hc with hc | rfl | hc
        · exact isBlank_of_mem_longName h.1.1 hc
        · rfl
        · exact h.2 c hc
  · cases h

/-! ## Reading the flags of options -/

theorem foldl_switches (switches : List RsyncSwitch) (o : RsyncOptions) (faults : List Fault) :
    (switches.map (·.flag)).foldl addFlag (o, faults) =
      ({ o with on := fun s => o.on s || switches.contains s }, faults) := by
  induction switches generalizing o with
  | nil => simp
  | cons s r ih =>
    rw [List.map_cons, List.foldl_cons, addFlag_switch, ih]
    congr 2
    funext s'
    by_cases h : s' = s <;> simp [withSwitch, h]

theorem foldl_limit {limit : Option Int} (h : ∀ n ∈ limit, 0 < n ∧ n ≤ Text.maxInt64) {o : RsyncOptions}
    (hnone : o.bwLimit = none) (faults : List Fault) :
    (limit.map fun n => limitStart ++ Int.repr n).toList.foldl addFlag (o, faults) =
      ({ o with bwLimit := limit }, faults) := by
  cases limit with
  | none =>
    show (o, faults) = _
    rw [← hnone]
  | some n =>
    obtain ⟨hpos, hmax⟩ := h n rfl
    exact addFlag_limit (Text.readInt64?_repr (by omega) hmax)

theorem foldl_logFile (logFile : Option String) {o : RsyncOptions} (hnone : o.logFile = none) (faults : List Fault) :
    (logFile.map fun path => logFileStart ++ path).toList.foldl addFlag (o, faults) =
      ({ o with logFile := logFile }, faults) := by
  cases logFile with
  | none =>
    show (o, faults) = _
    rw [← hnone]
  | some path => exact addFlag_logFile path

theorem foldl_info {info : List String} (h : ∀ s ∈ info, isInfoFlag s = true) {o : RsyncOptions} (hnone : o.info = [])
    (faults : List Fault) :
    (if info.isEmpty then [] else [infoStart ++ Text.join "," info]).foldl addFlag (o, faults) =
      ({ o with info := info }, faults) := by
  cases info with
  | nil =>
    show (o, faults) = _
    rw [← hnone]
  | cons s r =>
    have hwords : (Text.pieces ',' (Text.join "," (s :: r))).filter (!·.isEmpty) = s :: r := by
      rw [show ("," : String) = String.singleton ',' from rfl,
        Text.pieces_join (by simp) fun w hw => comma_not_mem_info (h w hw), List.filter_eq_self]
      exact fun w hw => (Bool.and_eq_true_iff.1 (Bool.and_eq_true_iff.1 (h w hw)).1).1
    show addFlag (o, faults) (infoStart ++ Text.join "," (s :: r)) = _
    rw [addFlag_info, hwords, hnone, List.nil_append]

theorem foldl_extras {extras : List String} (h : ∀ flag ∈ extras, ¬IsNamed flag) (o : RsyncOptions)
    (faults : List Fault) : extras.foldl addFlag (o, faults) = ({ o with extras := o.extras ++ extras }, faults) := by
  induction extras generalizing o with
  | nil => simp
  | cons flag r ih =>
    rw [List.foldl_cons, addFlag_extra (h flag (by simp)), ih fun f hf => h f (by simp [hf])]
    simp

/-! ## Options that flags can carry -/

/-- What is read from flags whatever their values are: the limit has 64 bits, the name of the log file does not end
with a blank, and no extra spells a named option. -/
structure Legible (o : RsyncOptions) : Prop where
  limit : ∀ n ∈ o.bwLimit, n ≤ Text.maxInt64
  logFile : ∀ path ∈ o.logFile, ∀ c ∈ path.toList.getLast?, isBlank c = false
  extras : ∀ flag ∈ o.extras, ¬IsNamed flag

/-- Legible options whose values pass their checks. -/
structure Restorable (o : RsyncOptions) : Prop extends Legible o where
  checked : o.valueFaults = []

theorem valueFaults_eq_nil_iff {o : RsyncOptions} : o.valueFaults = [] ↔ (∀ n ∈ o.bwLimit, 0 < n) ∧
    o.logFile ≠ some "" ∧ (∀ s ∈ o.info, isInfoFlag s = true) ∧ ∀ flag ∈ o.extras, isExtraFlag flag = true := by
  rw [valueFaults, List.append_eq_nil_iff, List.append_eq_nil_iff, List.append_eq_nil_iff, List.map_eq_nil_iff,
    List.map_eq_nil_iff, List.filter_eq_nil_iff, List.filter_eq_nil_iff, and_assoc, and_assoc]
  refine and_congr ?_ (and_congr ?_ (and_congr ?_ ?_))
  · cases o.bwLimit with
    | none => simp
    | some n =>
      by_cases h : n ≤ 0
      · simp [Option.filter, h]
      · simp [Option.filter, h]
        omega
  · by_cases h : o.logFile = some "" <;> simp [h]
  · simp
  · simp

theorem legible_bare : Legible bare where
  limit n h := by cases h
  logFile path h := by cases h
  extras flag h := by cases h

/-- Adding a flag that does not end with a blank. -/
theorem Legible.addFlag {o : RsyncOptions} (h : o.Legible) (faults : List Fault) {flag : String}
    (hend : ∀ c ∈ flag.toList.getLast?, isBlank c = false) : (addFlag (o, faults) flag).1.Legible := by
  unfold RsyncOptions.addFlag
  simp only
  split
  · exact ⟨h.limit, h.logFile, h.extras⟩
  · split
    · rename_i n hn
      refine ⟨fun m hm => ?_, h.logFile, h.extras⟩
      cases hm
      exact Text.readInt64?_le hn
    · exact h
  · rename_i path _ _ hpath
    refine ⟨h.limit, fun p hp c hc => hend c ?_, h.extras⟩
    cases hp
    rw [flagValue?_eq_some_iff.1 hpath, String.toList_append, List.getLast?_append, hc]
    rfl
  · exact ⟨h.limit, h.logFile, h.extras⟩
  · rename_i hswitch hlimit hlog hinfo
    refine ⟨h.limit, h.logFile, fun e he => ?_⟩
    rcases List.mem_append.1 he with he | he
    · exact h.extras e he
    · rw [List.mem_singleton.1 he]
      exact not_isNamed_iff.2 ⟨hswitch, hlimit, hlog, hinfo⟩

theorem Legible.foldl {flags : List String} (hend : ∀ flag ∈ flags, ∀ c ∈ flag.toList.getLast?, isBlank c = false)
    {o : RsyncOptions} (h : o.Legible) (faults : List Fault) :
    (flags.foldl RsyncOptions.addFlag (o, faults)).1.Legible := by
  induction flags generalizing o faults with
  | nil => exact h
  | cons flag r ih =>
    rw [List.foldl_cons]
    exact ih (fun f hf => hend f (by simp [hf])) (h.addFlag faults (hend flag (by simp))) _

theorem foldl_toFlags {o : RsyncOptions} (h : o.Restorable) : o.toFlags.foldl addFlag (bare, []) = (o, []) := by
  obtain ⟨hlimit, -, hinfo, -⟩ := valueFaults_eq_nil_iff.1 h.checked
  have hon : (fun s => bare.on s || (RsyncSwitch.all.filter o.on).contains s) = o.on := by
    funext s
    simp [bare, RsyncSwitch.mem_all]
  rw [toFlags, List.foldl_append, List.foldl_append, List.foldl_append, List.foldl_append, foldl_switches, hon,
    foldl_limit (fun n hn => ⟨hlimit n hn, h.limit n hn⟩) rfl, foldl_logFile o.logFile rfl, foldl_info hinfo rfl,
    foldl_extras h.extras]
  rfl

theorem trim_append {start value : String} (hstart : (start.toList.any isBlank) = false)
    (hvalue : ∀ c ∈ value.toList, isBlank c = false) : Text.trim (start ++ value) = start ++ value := by
  refine Text.trim_of_all fun c hc => ?_
  rw [String.toList_append, List.mem_append] at hc
  rcases hc with hc | hc
  · simpa using List.any_eq_false.1 hstart c hc
  · exact hvalue c hc

theorem trim_logFile {path : String} (hne : path ≠ "") (hend : ∀ c ∈ path.toList.getLast?, isBlank c = false) :
    Text.trim (logFileStart ++ path) = logFileStart ++ path := by
  refine Text.trim_of_ends (fun c hc => ?_) fun c hc => hend c ?_
  · rw [String.toList_append, List.head?_append] at hc
    cases hc
    rfl
  · obtain ⟨d, hd⟩ := Option.ne_none_iff_exists'.1 (mt List.getLast?_eq_none_iff.1 (mt String.toList_eq_nil_iff.1 hne))
    rwa [String.toList_append, List.getLast?_append, hd, Option.some_or, ← hd] at hc

/-- Nothing is cut off the flags of options. -/
theorem trim_of_mem_toFlags {o : RsyncOptions} (h : o.Restorable) {flag : String} (hflag : flag ∈ o.toFlags) :
    Text.trim flag = flag := by
  obtain ⟨hlimit, hlog, hinfo, hextras⟩ := valueFaults_eq_nil_iff.1 h.checked
  simp only [toFlags, List.mem_append, List.mem_map, Option.mem_toList, Option.map_eq_some_iff] at hflag
  rcases hflag with (((⟨s, -, rfl⟩ | ⟨n, hn, rfl⟩) | ⟨path, hpath, rfl⟩) | hflag) | hflag
  · cases s <;> decide
  · obtain ⟨k, rfl⟩ := Int.eq_ofNat_of_zero_le (Int.le_of_lt (hlimit n hn))
    exact trim_append rfl fun c hc => Text.isBlank_of_isDigit (Text.isDigit_of_mem_repr hc)
  · exact trim_logFile (fun he => hlog (he ▸ hpath)) (h.logFile path hpath)
  · split at hflag
    · cases hflag
    · rw [List.mem_singleton.1 hflag]
      refine trim_append rfl fun c hc => ?_
      rw [show ("," : String) = String.singleton ',' from rfl, Text.toList_join] at hc
      rcases Text.mem_joinChars hc with rfl | ⟨word, hword, hc⟩
      · rfl
      · obtain ⟨w, hw, rfl⟩ := List.mem_map.1 hword
        exact isBlank_of_mem_info (hinfo w hw) hc
  · exact Text.trim_of_all fun c hc => isBlank_of_mem_extra (hextras flag hflag) hc

/-! ## Reading options back -/

/-- Options are read if every flag was read without a fault and the values pass their checks. -/
theorem ofFlags_eq_ok_iff {flags : List String} {o : RsyncOptions} :
    ofFlags flags = .ok o ↔ (flags.map Text.trim).foldl addFlag (bare, []) = (o, []) ∧ o.valueFaults = [] := by
  rcases hread : (flags.map Text.trim).foldl addFlag (bare, []) with ⟨r, faults⟩
  have hflags : ofFlags flags =
      (Failure.checkValidation ((faults ++ r.valueFaults).map (·.message)) >>= fun _ => .ok r) := by
    unfold ofFlags
    rw [hread]
    rfl
  rw [hflags]
  cases hfaults : faults ++ r.valueFaults with
  | nil =>
    obtain ⟨rfl, hchecked⟩ := List.append_eq_nil_iff.1 hfaults
    constructor
    · rintro ⟨⟩
      exact ⟨rfl, hchecked⟩
    · rintro ⟨heq, -⟩
      cases heq
      rfl
  | cons fault rest =>
    constructor
    · rintro ⟨⟩
    · rintro ⟨heq, hchecked⟩
      cases heq
      rw [hchecked] at hfaults
      cases hfaults

theorem ofFlags_toFlags {o : RsyncOptions} (h : o.Restorable) : ofFlags o.toFlags = .ok o := by
  have htrim : o.toFlags.map Text.trim = o.toFlags := by
    refine (List.map_congr_left fun flag hflag => ?_).trans (List.map_id _)
    exact trim_of_mem_toFlags h hflag
  rw [ofFlags_eq_ok_iff, htrim, foldl_toFlags h]
  exact ⟨rfl, h.checked⟩

theorem restorable_of_ofFlags {flags : List String} {o : RsyncOptions} (h : ofFlags flags = .ok o) : o.Restorable := by
  obtain ⟨hread, hchecked⟩ := ofFlags_eq_ok_iff.1 h
  have hend : ∀ flag ∈ flags.map Text.trim, ∀ c ∈ flag.toList.getLast?, isBlank c = false := by
    intro flag hflag c hc
    obtain ⟨s, -, rfl⟩ := List.mem_map.1 hflag
    exact Text.getLast?_trim hc
  have hlegible := legible_bare.foldl hend []
  rw [hread] at hlegible
  exact ⟨hlegible, hchecked⟩

/-- Options are read back from their flags exactly if they can be read from any flags, and these are the options
whose values pass their checks, whose extras spell no named option and whose log file does not end with a blank. -/
theorem ofFlags_toFlags_iff (o : RsyncOptions) :
    (ofFlags o.toFlags = .ok o ↔ o.Restorable) ∧ ((∃ flags, ofFlags flags = .ok o) ↔ o.Restorable) := by
  have hback : ofFlags o.toFlags = .ok o ↔ o.Restorable := ⟨restorable_of_ofFlags, ofFlags_toFlags⟩
  refine ⟨hback, ?_, fun h => ⟨o.toFlags, hback.2 h⟩⟩
  rintro ⟨flags, hflags⟩
  exact restorable_of_ofFlags hflags

end RsyncOptions
end VolumeMigration
