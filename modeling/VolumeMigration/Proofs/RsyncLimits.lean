import VolumeMigration.Proofs.RsyncFlags
/-!
# The limit of the rsync client

Options that pass their checks have a positive limit, and their flags set it
(`filter_toFlags`). The extras are not looked at for what they say, only for
their shape, so one of them may set the limit once more, to whatever it likes:
the last limit counts for rsync. The flags keep the limit exactly if no extra sets
one (`limited_iff_of_validate`).
-/

namespace VolumeMigration.RsyncOptions

open Text (isBlank)

/-! ## Checks -/

theorem validate_eq_ok_iff {o : RsyncOptions} :
    o.validate = .ok () ↔ (∃ n, o.bwLimit = some n) ∧ o.valueFaults = [] := by
  have hpasses : o.validate = .ok () ↔ o.faults = [] :=
    Failure.checkValidation_eq_ok.trans List.map_eq_nil_iff
  rw [hpasses, faults, List.append_eq_nil_iff]
  cases o.bwLimit <;> simp

/-- The checks of an extra that sets the limit: there is a value, and it has no blanks. -/
theorem isExtraFlag_limit (value : String) :
    isExtraFlag (limitStart ++ value) = true ↔ value ≠ "" ∧ ∀ c ∈ value.toList, isBlank c = false := by
  have hlist : (limitStart ++ value).toList = '-' :: '-' :: ("bwlimit".toList ++ '=' :: value.toList) := by
    rw [String.toList_append]
    rfl
  have hcut : Text.cutFirst? '=' ("bwlimit".toList ++ '=' :: value.toList) = some ("bwlimit".toList, value.toList) :=
    Text.cutFirst?_append (by decide) _
  unfold isExtraFlag
  rw [hlist]
  split
  · rename_i heq
    simp at heq
  · rename_i r _ heq
    cases heq
    have hname : isLongName "bwlimit".toList = true := by decide
    rw [hcut]
    show (isLongName "bwlimit".toList && !value.toList.isEmpty && value.toList.all fun c => !isBlank c) = true ↔ _
    rw [hname]
    simp
  · rename_i hother
    exact absurd rfl (hother _)

/-! ## Limits among the flags -/

/-- The flags that set the limit: the one of the options' own, and the extras that do. -/
theorem filter_toFlags {o : RsyncOptions} {n : Int} (h : o.bwLimit = some n) :
    o.toFlags.filter (Begins limitStart ·) = (limitStart ++ Int.repr n) :: o.extras.filter (Begins limitStart ·) := by
  have hswitches : ((RsyncSwitch.all.filter o.on).map (·.flag)).filter (Begins limitStart ·) = [] := by
    rw [List.filter_eq_nil_iff]
    intro flag hflag
    obtain ⟨s, -, rfl⟩ := List.mem_map.1 hflag
    cases s <;> decide
  have hlog : ((o.logFile.map fun path => logFileStart ++ path).toList).filter (Begins limitStart ·) = [] := by
    rw [List.filter_eq_nil_iff]
    intro flag hflag
    obtain ⟨path, -, rfl⟩ := Option.map_eq_some_iff.1 (Option.mem_toList.1 hflag)
    simpa using not_begins_append logFileStart limitStart path (by decide)
  have hinfo :
      (if o.info.isEmpty then [] else [infoStart ++ Text.join "," o.info]).filter (Begins limitStart ·) = [] := by
    split
    · rfl
    · simpa using not_begins_append infoStart limitStart _ (by decide)
  rw [toFlags, h, List.filter_append, List.filter_append, List.filter_append, List.filter_append, hswitches, hlog,
    hinfo]
  simp [begins_append]

/-! ## Values of named options -/

/-- A flag gives a named option a value that the option may not have. -/
def Misuses (flag : String) : Prop := IsNamed flag ∧ ∀ o, ofFlags [flag] ≠ .ok o

/-- The client is limited to `n` kibibytes in a second, and no extra gives a named option a value that it may not
have. -/
structure Limited (o : RsyncOptions) (n : Int) : Prop where
  limit : o.toFlags.filter (Begins limitStart ·) = [limitStart ++ Int.repr n]
  extras : ∀ flag ∈ o.extras, ¬Misuses flag

theorem ofFlags_singleton {flag : String} {r : RsyncOptions} (hextra : isExtraFlag flag = true)
    (hread : addFlag (bare, []) flag = (r, [])) : (∃ o, ofFlags [flag] = .ok o) ↔ r.valueFaults = [] := by
  have htrim : Text.trim flag = flag := Text.trim_of_all fun c hc => isBlank_of_mem_extra hextra hc
  simp only [ofFlags_eq_ok_iff, List.map_cons, List.map_nil, htrim, List.foldl_cons, List.foldl_nil, hread]
  constructor
  · rintro ⟨o, heq, hchecked⟩
    cases heq
    exact hchecked
  · intro hchecked
    exact ⟨r, rfl, hchecked⟩

/-- An extra that reports something is read if every word may be reported. -/
theorem ofFlags_info {words : String} (h : isExtraFlag (infoStart ++ words) = true) :
    (∃ o, ofFlags [infoStart ++ words] = .ok o) ↔ ∀ w ∈ Text.pieces ',' words, w ≠ "" → isInfoFlag w = true := by
  rw [ofFlags_singleton h (addFlag_info words), valueFaults_eq_nil_iff]
  simp [bare]

/-- The only extras that misuse an option are those that set the limit and those that report something. -/
theorem not_misuses {flag : String} (hextra : isExtraFlag flag = true) (hlimit : ¬Begins limitStart flag)
    (hinfo : ∀ words, flag = infoStart ++ words → ∀ w ∈ Text.pieces ',' words, w ≠ "" → isInfoFlag w = true) :
    ¬Misuses flag := by
  rintro ⟨hnamed, hunread⟩
  refine not_exists.2 hunread ?_
  rcases hnamed with ⟨s, rfl⟩ | hbegins | hbegins | hbegins
  · refine (ofFlags_singleton hextra (addFlag_switch s)).2 ?_
    rfl
  · exact absurd hbegins hlimit
  · obtain ⟨path, rfl⟩ := begins_iff.1 hbegins
    refine (ofFlags_singleton hextra (addFlag_logFile path)).2 (valueFaults_eq_nil_iff.2 ?_)
    have hne : path ≠ "" := by
      rintro rfl
      exact absurd hextra (by decide)
    simpa [bare] using hne
  · obtain ⟨words, rfl⟩ := begins_iff.1 hbegins
    exact (ofFlags_info hextra).2 (hinfo words rfl)

/-- Options that pass their checks have a positive limit, and their flags keep it exactly if no extra sets a limit and
no extra reports what may not be reported. The checks let pass every extra that sets a limit to a text without
blanks. -/
theorem limited_iff_of_validate {o : RsyncOptions} (h : o.validate = .ok ()) : ∃ n, o.bwLimit = some n ∧ 0 < n ∧
    o.toFlags.filter (Begins limitStart ·) = (limitStart ++ Int.repr n) :: o.extras.filter (Begins limitStart ·) ∧
    (o.Limited n ↔ ∀ flag ∈ o.extras, ¬Begins limitStart flag ∧
      ∀ words, flag = infoStart ++ words → ∀ w ∈ Text.pieces ',' words, w ≠ "" → isInfoFlag w = true) ∧
    ∀ value, { o with extras := o.extras ++ [limitStart ++ value] }.validate = .ok () ↔
      value ≠ "" ∧ ∀ c ∈ value.toList, isBlank c = false := by
  obtain ⟨⟨n, hn⟩, hchecked⟩ := validate_eq_ok_iff.1 h
  obtain ⟨hpos, hlog, hinfo, hextras⟩ := valueFaults_eq_nil_iff.1 hchecked
  refine ⟨n, hn, hpos n hn, filter_toFlags hn, ⟨fun hlimited flag hflag => ?_, fun hkeep => ?_⟩, fun value => ?_⟩
  · have hnone := hlimited.limit
    rw [filter_toFlags hn, List.cons_eq_cons, List.filter_eq_nil_iff] at hnone
    refine ⟨by simpa using hnone.2 flag hflag, ?_⟩
    rintro words rfl
    refine (ofFlags_info (hextras _ hflag)).1 (Classical.not_forall_not.1 fun hunread => ?_)
    exact hlimited.extras _ hflag ⟨.inr (.inr (.inr (begins_append infoStart words))), hunread⟩
  · have hnone : o.extras.filter (Begins limitStart ·) = [] :=
      List.filter_eq_nil_iff.2 fun flag hflag => by simpa using (hkeep flag hflag).1
    refine ⟨by rw [filter_toFlags hn, hnone], fun flag hflag => ?_⟩
    exact not_misuses (hextras flag hflag) (hkeep flag hflag).1 (hkeep flag hflag).2
  · rw [← isExtraFlag_limit, validate_eq_ok_iff, valueFaults_eq_nil_iff]
    simp only [List.forall_mem_append, List.forall_mem_singleton]
    exact ⟨fun hall => hall.2.2.2.2.2, fun hvalue => ⟨⟨n, hn⟩, hpos, hlog, hinfo, hextras, hvalue⟩⟩

theorem limited_archive : archive.validate = .ok () ∧ ∃ n, archive.bwLimit = some n ∧ 0 < n ∧ archive.Limited n := by
  have hchecked : archive.validate = .ok () := rfl
  obtain ⟨n, hn, hpos, -, hlimited, -⟩ := limited_iff_of_validate hchecked
  exact ⟨hchecked, n, hn, hpos, hlimited.2 fun flag hflag => absurd hflag List.not_mem_nil⟩

/-- An archive that an extra takes the limit off. -/
def unlimited : RsyncOptions := { archive with extras := [limitStart ++ "0"] }

theorem validate_unlimited : unlimited.validate = .ok () ∧ unlimited.extras = ["--bwlimit=0"] ∧
    unlimited.toFlags.filter (Begins limitStart ·) = ["--bwlimit=1048576", "--bwlimit=0"] ∧ Misuses "--bwlimit=0" := by
  refine ⟨rfl, rfl, by decide +kernel, .inr (.inl (by decide)), fun o ho => ?_⟩
  obtain ⟨hread, hchecked⟩ := ofFlags_eq_ok_iff.1 ho
  have hlimit : o.bwLimit = some 0 := congrArg (·.1.bwLimit) hread.symm
  exact absurd ((valueFaults_eq_nil_iff.1 hchecked).1 0 hlimit) (by decide)

end VolumeMigration.RsyncOptions
