import WindSymbols.Console.Command
import WindSymbols.Proofs.Console.ShownRows
import WindSymbols.Proofs.Symbols.Session
import WindSymbols.Proofs.Wind.Boundaries

/-! The table of a symbol set against the classification of speeds. Below a million knots each
finite speed is in the range of one row, that of its bucket (`tellsTruth_shownRows`); from there on
six digits are too few (`not_tellsTruth_shownRows`), and a title whose markup is at fault keeps the
whole table from being shown. Nothing else does (`Command.table_tellsTruth_iff`). -/

namespace WindSymbols

namespace Report

def rowHolds (x : ℚ) (row : List String) : Bool := row[1]?.any (cellHolds · x)

@[simp] theorem rowHolds_rowOf (x : ℚ) (b : Bucket) (speeds : String) :
    rowHolds x (rowOf b speeds) = cellHolds speeds x := by
  simp [rowHolds, rowOf]

/-- Every finite speed is in the range of one row alone, which is the row of its bucket. -/
def TellsTruth (s : SymbolSet) (rows : List (List String)) : Prop :=
  ∀ x : Binary64, x.isFinite = true →
    ∃ speeds, rows.filter (rowHolds x.toRat) = [rowOf (s.classify x) speeds]

/-! The ranges of the rows. -/

section

variable {K k : Nat} {x : ℚ}

theorem inFamily_iff : inFamily x k = true ↔ 5 * k + 3 ≤ x ∧ x < 5 * k + 8 := decide_eq_true_iff

theorem filter_inFamily_eq_singleton (hk : k < K) (h : inFamily x k = true) :
    (List.range K).filter (inFamily x) = [k] := by
  obtain ⟨hlow, hhigh⟩ := inFamily_iff.mp h
  have hiff : ∀ j : Nat, inFamily x j = decide (j = k) := by
    intro j
    rw [Bool.eq_iff_iff, inFamily_iff, decide_eq_true_iff]
    constructor
    · rintro ⟨hj, hj'⟩
      have hle : (5 * j : ℚ) < 5 * (k + 1) := by linarith
      have hge : (5 * k : ℚ) < 5 * (j + 1) := by linarith
      have hle' : 5 * j < 5 * (k + 1) := by exact_mod_cast hle
      have hge' : 5 * k < 5 * (j + 1) := by exact_mod_cast hge
      omega
    · rintro rfl
      exact ⟨hlow, hhigh⟩
  rw [funext hiff, List.filter_eq,
    List.count_eq_one_of_mem List.nodup_range (List.mem_range.mpr hk)]
  rfl

theorem filter_inFamily_eq_nil (h : x < 3 ∨ 5 * K + 3 ≤ x) :
    (List.range K).filter (inFamily x) = [] := by
  rw [List.filter_eq_nil_iff]
  intro j hj
  rw [inFamily_iff]
  rintro ⟨hlow, hhigh⟩
  rcases h with hcalm | hinvalid
  · have hj0 : (0 : ℚ) ≤ j := Nat.cast_nonneg j
    linarith
  · have hj1 : ((j + 1 : Nat) : ℚ) ≤ K := Nat.cast_le.mpr (List.mem_range.mp hj)
    push_cast at hj1
    linarith

end

theorem filter_shownRows {largest : Nat} (hmod : largest % 5 = 0) (hlargest : largest < 10 ^ 6)
    (x : ℚ) :
    (shownRows largest).filter (rowHolds x) =
      (if x < 3 then [rowOf .calm calmText] else []) ++
        (((List.range (largest / 5)).filter (inFamily x)).map shownFamily ++
          if largest + 3 ≤ x then [rowOf .invalid (invalidText largest)] else []) := by
  have hfamilies : ((List.range (largest / 5)).map shownFamily).filter (rowHolds x) =
      ((List.range (largest / 5)).filter (inFamily x)).map shownFamily := by
    have hcells : ∀ j ∈ List.range (largest / 5), (rowHolds x ∘ shownFamily) j = inFamily x j := by
      intro j hj
      have hj := List.mem_range.mp hj
      rw [Function.comp_apply, shownFamily, rowHolds_rowOf, familyAt, cellHolds_range (by omega)]
    rw [List.filter_map, List.filter_congr hcells]
  have hsum : largest + 3 < 10 ^ 6 := by omega
  rw [shownRows, List.cons_append, List.filter_cons, List.filter_append, hfamilies,
    List.filter_cons, List.filter_singleton]
  simp only [rowHolds_rowOf, cellHolds_calm, cellHolds_noData, cellHolds_invalid hsum,
    Bool.cond_decide, decide_eq_true_iff, Bool.false_eq_true, if_false]
  split
  · rfl
  · rw [List.nil_append]

/-- As long as six digits are enough, the table tells the truth. -/
theorem tellsTruth_shownRows {s : SymbolSet} (h : s.profile.largest < 10 ^ 6) :
    TellsTruth s (shownRows s.profile.largest) := by
  intro x hx
  have hmod := s.profile.largest_mod
  have hlimit : 10 ^ 6 ≤ twoTo 52 := by decide
  have hcuts : s.profile.largest ≤ twoTo 52 := by omega
  obtain ⟨K, hK⟩ : ∃ K, s.profile.largest = 5 * K := ⟨s.profile.largest / 5, by omega⟩
  have hcount : s.profile.largest / 5 = K := by omega
  have hwhole : (s.profile.largest : ℚ) = 5 * K := by
    rw [hK]
    push_cast
    rfl
  have hpos : (0 : ℚ) ≤ K := Nat.cast_nonneg K
  rw [filter_shownRows hmod h, hcount, hwhole]
  rcases classify_cases x s.profile.largest with hb | hb | hb | ⟨n, hn, hle, hb⟩
  · rw [classify_eq_noData_iff] at hb
    rw [hb] at hx
    cases hx
  · have hcut := (classify_eq_invalid_iff hmod hcuts).mp hb
    have hhigh : 5 * (K : ℚ) + 3 ≤ x.toRat := by
      rcases hcut with hinfinite | ⟨-, hhigh⟩
      · cases x <;> simp_all [Binary64.isFinite, Binary64.isInfinite]
      · rwa [hwhole] at hhigh
    rw [SymbolSet.classify, hb, filter_inFamily_eq_nil (.inr hhigh), if_neg (by linarith),
      if_pos hhigh]
    exact ⟨_, rfl⟩
  · obtain ⟨-, hcalm⟩ := classify_eq_calm_iff.mp hb
    rw [SymbolSet.classify, hb, filter_inFamily_eq_nil (.inl hcalm), if_pos hcalm,
      if_neg (by linarith)]
    exact ⟨_, rfl⟩
  · obtain ⟨-, -, -, -, hlow, hhigh⟩ := (classify_eq_family_iff hmod hcuts).mp hb
    obtain ⟨k, rfl⟩ : ∃ k, n = k + 1 := ⟨n - 1, by omega⟩
    push_cast at hlow hhigh
    have hk : k < K := by omega
    have hk1 : ((k + 1 : Nat) : ℚ) ≤ K := Nat.cast_le.mpr hk
    have hk0 : (0 : ℚ) ≤ k := Nat.cast_nonneg k
    push_cast at hk1
    have hin : inFamily x.toRat k = true := inFamily_iff.mpr ⟨by linarith, by linarith⟩
    rw [SymbolSet.classify, hb, filter_inFamily_eq_singleton hk hin, if_neg (by linarith),
      if_neg (by linarith)]
    exact ⟨_, rfl⟩

theorem symbolText_ofFamily (n : Nat) :
    (symbolText (.ofFamily n)).toList = digitsOf n ++ " kn".toList := by
  rw [← integerText_natCast]
  exact String.toList_append

theorem familyAt_of_symbolText {k n : Nat}
    (h : symbolText (.ofFamily (familyAt k)) = symbolText (.ofFamily n)) : familyAt k = n := by
  have hfamily : familyAt k = ((5 * (k + 1) : Nat) : Int) := by
    unfold familyAt
    push_cast
    rfl
  have htext := congrArg String.toList h
  rw [hfamily, symbolText_ofFamily, symbolText_ofFamily] at htext
  rw [hfamily, digitsOf_injective (List.append_cancel_right htext)]

theorem eq_of_rowOf_eq {b c : Bucket} {speeds other : String}
    (h : rowOf b speeds = rowOf c other) : symbolText b = symbolText c ∧ speeds = other := by
  obtain ⟨hsymbol, hrest⟩ := List.cons.inj h
  exact ⟨hsymbol, (List.cons.inj hrest).1⟩

theorem speeds_of_mem_shownRows {largest n : Nat} {speeds : String}
    (h : rowOf (.ofFamily n) speeds ∈ shownRows largest) : speeds = rangeText n := by
  have hother : ∀ b : Bucket, (symbolText b).toList.head?.any Char.isDigit = false →
      symbolText (.ofFamily n) ≠ symbolText b := by
    intro b hb heq
    obtain ⟨c, cs, hdigits⟩ := List.exists_cons_of_ne_nil (digitsOf_ne_nil n)
    have hc : c.isDigit = true := digits_digitsOf n c (hdigits ▸ List.mem_cons_self)
    rw [← heq, symbolText_ofFamily, hdigits, List.cons_append, List.head?_cons, Option.any_some,
      hc] at hb
    cases hb
  simp only [shownRows, List.mem_append, List.mem_cons, List.mem_map, List.not_mem_nil,
    or_false] at h
  rcases h with (h | ⟨k, -, h⟩) | h | h
  · exact absurd (eq_of_rowOf_eq h).1 (hother _ (by decide))
  · obtain ⟨hsymbol, hspeeds⟩ := eq_of_rowOf_eq h
    rw [← hspeeds, familyAt_of_symbolText hsymbol]
  · exact absurd (eq_of_rowOf_eq h).1 (hother _ (by decide))
  · exact absurd (eq_of_rowOf_eq h).1 (hother _ (by decide))

theorem classify_million {largest : Nat} (h : 10 ^ 6 ≤ largest) :
    classify 1000000 (.whole largest) = .ofFamily 1000000 := by
  have hsmall : 1000000 ≤ twoTo 53 := by decide
  have hliteral := Binary64.literal_eq hsmall
  have hfamily : familyUnits (1000000 * unitsPerOne) / unitsPerOne = 200000 := by decide +kernel
  have hthree : 3 * unitsPerOne ≤ (Binary64.wholeMagnitude 1000000 hsmall).units :=
    Nat.mul_le_mul_right _ (by decide)
  rw [hliteral, classify_family _ hthree, Binary64.wholeMagnitude_units, hfamily, if_neg (by omega)]
  rfl

/-- A table that goes on to a million knots does not have them in the row of their family. -/
theorem not_tellsTruth_shownRows {s : SymbolSet} (h : 10 ^ 6 ≤ s.profile.largest) :
    ¬ TellsTruth s (shownRows s.profile.largest) := by
  intro htruth
  have hfinite : (1000000 : Binary64).isFinite = true := by decide +kernel
  have hvalue : (1000000 : Binary64).toRat = 1000000 := by decide +kernel
  obtain ⟨speeds, hrows⟩ := htruth 1000000 hfinite
  rw [SymbolSet.classify, classify_million h, hvalue] at hrows
  have hmem : rowOf (.ofFamily 1000000) speeds ∈
      (shownRows s.profile.largest).filter (rowHolds 1000000) := by
    rw [hrows]
    exact List.mem_singleton_self _
  obtain ⟨hrow, hholds⟩ := List.mem_filter.mp hmem
  rw [rowHolds_rowOf, speeds_of_mem_shownRows (n := 1000000) hrow] at hholds
  exact Bool.false_ne_true (cellHolds_range_million.symm.trans hholds)

end Report

/-! The command. -/

namespace Command

variable {r : Registry} {a : Arguments} {s : SymbolSet}

theorem table_of_plain (ha : a.operands = [])
    (hs : r.get ((a.value? "set").getD standardName) = .ok s) {title : String}
    (htitle : Markup.plain ("Symbol set: " ++ s.name) = .ok title) :
    ∃ panel, table r a = .ok { exit := succeeded, printed :=
      [.table title Report.setColumns (Report.shownRows s.profile.largest), panel] } := by
  obtain ⟨panel, hpanel⟩ := Report.exists_plain_geometry s.profile
  refine ⟨panel, ?_⟩
  rw [table, if_neg (not_not_intro ha), hs]
  simp only [printing, List.mapM_cons, List.mapM_nil, Report.plain_setTable htitle, hpanel]
  rfl

theorem table_of_fault (ha : a.operands = [])
    (hs : r.get ((a.value? "set").getD standardName) = .ok s) {fault : Markup.MarkupFault}
    (htitle : Markup.plain ("Symbol set: " ++ s.name) = .error fault) :
    table r a = .error (.markup fault) := by
  rw [table, if_neg (not_not_intro ha), hs]
  simp only [printing, List.mapM_cons, Report.setTable, Printed.plain, htitle]
  rfl

/-- The table of a set is shown and tells the truth if and only if the title can be shown and six
digits are enough for all of its speeds. -/
theorem table_tellsTruth_iff (r : Registry) (a : Arguments) (s : SymbolSet) (ha : a.operands = [])
    (hs : r.get ((a.value? "set").getD standardName) = .ok s) :
    (∃ outcome title rows rest, table r a = .ok outcome ∧
        outcome.printed = .table title Report.setColumns rows :: rest ∧
        Report.TellsTruth s rows) ↔
      (∃ title, Markup.plain ("Symbol set: " ++ s.name) = .ok title) ∧
        s.profile.largest < 10 ^ 6 := by
  cases htitle : Markup.plain ("Symbol set: " ++ s.name) with
  | error fault =>
    rw [table_of_fault ha hs htitle]
    constructor
    · rintro ⟨_, _, _, _, h, -⟩
      cases h
    · rintro ⟨⟨_, h⟩, -⟩
      cases h
  | ok title =>
    obtain ⟨panel, htable⟩ := table_of_plain ha hs htitle
    rw [htable]
    constructor
    · rintro ⟨_, _, _, _, h, hprinted, htruth⟩
      cases h
      cases hprinted
      refine ⟨⟨title, rfl⟩, Nat.lt_of_not_le fun hlarge => ?_⟩
      exact Report.not_tellsTruth_shownRows hlarge htruth
    · rintro ⟨-, hlargest⟩
      exact ⟨_, title, _, [panel], rfl, rfl, Report.tellsTruth_shownRows hlargest⟩

theorem table_tellsTruth_standard :
    ∃ s, Registry.initial.get ((Arguments.value? ⟨[], []⟩ "set").getD standardName) = .ok s ∧
      ∃ outcome title rows rest, table Registry.initial ⟨[], []⟩ = .ok outcome ∧
        outcome.printed = .table title Report.setColumns rows :: rest ∧
        Report.TellsTruth s rows := by
  obtain ⟨s, -, hname, hprofile, hget⟩ := Registry.exists_get_initial
  refine ⟨s, hget, (table_tellsTruth_iff Registry.initial ⟨[], []⟩ s rfl hget).mpr ⟨?_, ?_⟩⟩
  · rw [hname]
    exact Markup.exists_plain (by decide)
  · rw [hprofile]
    decide

deriving instance DecidableEq for Arguments.Found

theorem run_table_of_set [UnitLibrary] (r : Registry) (directory name : String) :
    run r directory ["table", "--set", name] = table r ⟨[("set", name)], []⟩ := by
  have hgeneral : Arguments.read generalOptions true ["table", "--set", name] =
      some ⟨[], ["table", "--set", name]⟩ := by
    rw [Arguments.read, if_neg (by decide), if_neg (by decide +kernel), if_pos rfl]
  have hoption : Arguments.readOption tableOptions "--set" = some ⟨[], some "set"⟩ := by
    decide
  have hset : Arguments.read tableOptions false ["--set", name] =
      some ⟨[("set", name)], []⟩ := by
    rw [Arguments.read, if_neg (by decide), if_pos (by decide +kernel), hoption]
    rfl
  have hcommand : withOptions tableOptions ["--set", name] (table r) =
      table r ⟨[("set", name)], []⟩ := by
    rw [withOptions, hset]
    rfl
  rw [run, hgeneral]
  exact hcommand

/-- A name may close a style, and then the table of the set is never shown. -/
theorem run_table_of_closing_name [UnitLibrary] {r : Registry} {s : SymbolSet} (hs : r.get "[/b]" = .ok s)
    (hname : s.name = "[/b]") :
    run r "" ["table", "--set", "[/b]"] = .error (.markup .closesNothing) := by
  have hmarkup : Markup.plain ("Symbol set: " ++ s.name) = .error .closesNothing := by
    rw [hname]
    decide +kernel
  have hvalue : (Arguments.value? ⟨[("set", "[/b]")], []⟩ "set").getD standardName = "[/b]" := by
    decide
  rw [run_table_of_set]
  refine table_of_fault rfl ?_ hmarkup
  rw [hvalue]
  exact hs

theorem table_of_registered_closing_name :
    ∃ s r, Registry.initial.register "[/b]" .standard false = .ok (s, r) ∧
      r.get "[/b]" = .ok s ∧ s.profile = .standard ∧
      run r "" ["table", "--set", "[/b]"] = .error (.markup .closesNothing) := by
  have hkey : Text.nameKey "[/b]" = "[/b]" := by decide
  have hnamed : Text.nameKey "[/b]" ≠ "" := by
    rw [hkey]
    decide
  have hfree : Text.nameKey "[/b]" ∉ Registry.initial.map SymbolSet.name := by
    obtain ⟨t, hinitial, hname, -⟩ := Registry.exists_initial
    rw [hkey, hinitial, List.map_singleton, hname]
    decide
  have hbuilds := (SymbolSet.exists_build_iff "[/b]" .standard).mp
    (SymbolSet.exists_build_standard "[/b]")
  have hregisters : ∃ s r, Registry.initial.register "[/b]" .standard false = .ok (s, r) :=
    Registry.exists_register_iff.mpr ⟨hnamed, hbuilds, fun hmem => absurd hmem hfree⟩
  obtain ⟨s, r, hregister⟩ := hregisters
  have hget : r.get "[/b]" = .ok s := by
    rw [Registry.get_register hregister, if_pos rfl]
  obtain ⟨-, hbuild, -, -⟩ := Registry.register_eq_ok hregister
  obtain ⟨hname, hprofile⟩ := SymbolSet.build_eq_ok hbuild
  exact ⟨s, r, hregister, hget, hprofile, run_table_of_closing_name hget (hname.trans hkey)⟩

end Command
end WindSymbols
