import WindSymbols.Proofs.Symbols.Shape

/-! Speeds that are no finite numbers. A text is drawn as one without data if and only if its speed
is written as NaN (`resolve_eq_noData_iff`), an infinite speed has no symbol, and a finite one is
never taken for either, since the factor of a unit is neither zero nor infinite. -/

namespace WindSymbols

open Text Binary64

theorem Binary64.ofMagnitude_ne_nan (s : Bool) (q : ℚ) : ofMagnitude s q ≠ .nan := by
  unfold ofMagnitude ofRatio
  exact ofUnits_ne_nan _ _ _

theorem Speed.Literal.value_eq_nan_iff {lit : Speed.Literal} :
    lit.value = .nan ↔ lit = .notANumber := by
  cases lit with
  | notANumber => exact ⟨fun _ => rfl, fun _ => rfl⟩
  | infinity sign => exact ⟨nofun, nofun⟩
  | decimal sign n => exact ⟨fun h => absurd h (ofMagnitude_ne_nan _ _), nofun⟩

namespace Locator

/-- The literal that stands for the speed of a text. -/
def HasSpeed (t : List Char) (lit : Speed.Literal) : Prop :=
  ∃ p : Pieces, t = p.text ∧ trim p.speed = lit.text

theorem Denotes.exists_hasSpeed {t : List Char} {l : Locator} (h : Denotes t l) :
    ∃ lit, HasSpeed t lit := by
  obtain ⟨p, -, lit, ht, -, -, hspeed, -⟩ := h
  exact ⟨lit, p, ht, hspeed⟩

theorem Denotes.speed_eq {t : List Char} {l : Locator} {lit : Speed.Literal} (h : Denotes t l)
    (hlit : HasSpeed t lit) : l.speed = lit.value := by
  obtain ⟨p, unit, other, rfl, -, -, hother, rfl⟩ := h
  obtain ⟨q, htext, hspeed⟩ := hlit
  rw [← (Pieces.parts_eq htext).2.1] at hspeed
  have hvalue := Speed.read_literal hother
  rw [Speed.read_literal hspeed] at hvalue
  exact (Option.some.inj hvalue).symm

end Locator

namespace Registry

section

variable [UnitLibrary] {r : Registry} {text : Option String} {l : Locator} {set : SymbolSet} {factor : Binary64}
  (hread : Locator.read text = .ok l) (hget : r.get l.symbolSet = .ok set)
  (hunit : knotsFactor (some l.unit) = .ok factor)

include hread hget hunit

theorem exists_resolve_noData_iff :
    (∃ res, r.resolve text = .ok res ∧ res.bucket = .noData) ↔ l.speed = .nan := by
  rw [← mul_eq_nan_iff (isPositive_of_knotsFactor hunit)]
  rcases resolve_of_factor hread hget hunit with ⟨hinvalid, herror⟩ | ⟨-, g, -, hok⟩
  · have hnan : l.speed * factor ≠ .nan := by
      intro hnan
      rw [hnan] at hinvalid
      cases hinvalid
    simp [herror, hnan]
  · rw [hok]
    constructor
    · rintro ⟨res, hres, hbucket⟩
      cases hres
      exact classify_eq_noData_iff.mp hbucket
    · exact fun hnan => ⟨_, rfl, classify_eq_noData_iff.mpr hnan⟩

theorem resolve_infinite {s : Bool} (h : l.speed = .infinite s) :
    r.resolve text = .error (.symbol (.noSymbol (.real (.infinite s)) set.profile.largest)) := by
  have hproduct := infinite_mul (isPositive_of_knotsFactor hunit) s
  rcases resolve_of_factor hread hget hunit with ⟨-, herror⟩ | ⟨hvalid, -⟩
  · rwa [h, hproduct] at herror
  · rw [h, hproduct] at hvalid
    exact absurd rfl hvalid

theorem resolve_number (h : l.speed ≠ .nan) :
    (∃ res, r.resolve text = .ok res ∧
        (res.bucket = .calm ∨ ∃ n, res.bucket = .ofFamily n)) ∨
      ∃ x, r.resolve text = .error (.symbol (.noSymbol (.real x) set.profile.largest)) := by
  rcases resolve_of_factor hread hget hunit with ⟨-, herror⟩ | ⟨hvalid, g, -, hok⟩
  · exact .inr ⟨_, herror⟩
  · refine .inl ⟨_, hok, ?_⟩
    rcases classify_cases (l.speed * factor) set.profile.largest with hx | hx | hx | ⟨n, -, -, hx⟩
    · rw [classify_eq_noData_iff, mul_eq_nan_iff (isPositive_of_knotsFactor hunit)] at hx
      exact absurd hx h
    · exact absurd hx hvalid
    · exact .inl hx
    · exact .inr ⟨_, hx⟩

/-- No data means NaN and NaN alone. Where a text is read, its set is there and its unit is
accepted, the bucket is that of no data if and only if the speed is written as NaN; an infinity has
no symbol and is reported with its sign, be it written as such or too large for a finite number;
and a finite speed is calm, has a family, or is refused, whatever the conversion makes of it. -/
theorem resolve_eq_noData_iff :
    (∃ lit, Locator.HasSpeed (trim (text.getD "").toList) lit) ∧
      ∀ lit, Locator.HasSpeed (trim (text.getD "").toList) lit →
        l.speed = lit.value ∧
          ((∃ res, r.resolve text = .ok res ∧ res.bucket = .noData) ↔ lit = .notANumber) ∧
          (∀ sign, lit = .infinity sign → l.speed = .infinite sign.isNegative) ∧
          (∀ s, l.speed = .infinite s →
            r.resolve text =
              .error (.symbol (.noSymbol (.real (.infinite s)) set.profile.largest))) ∧
          (l.speed.isFinite = true →
            (∃ res, r.resolve text = .ok res ∧
                (res.bucket = .calm ∨ ∃ n, res.bucket = .ofFamily n)) ∨
              ∃ x, r.resolve text =
                .error (.symbol (.noSymbol (.real x) set.profile.largest))) := by
  have hdenotes := Locator.read_eq_ok_iff.mp hread
  refine ⟨hdenotes.exists_hasSpeed, fun lit hlit => ?_⟩
  have hspeed := hdenotes.speed_eq hlit
  refine ⟨hspeed, ?_, ?_, fun s hs => resolve_infinite hread hget hunit hs, fun hfinite => ?_⟩
  · rw [exists_resolve_noData_iff hread hget hunit, hspeed, Speed.Literal.value_eq_nan_iff]
  · rintro sign rfl
    exact hspeed
  · refine resolve_number hread hget hunit fun hnan => ?_
    rw [hnan] at hfinite
    cases hfinite

end

theorem resolve_noData_of_feet :
    ∃ l set factor, Locator.read (some "windbarbs://Default(NaN)[ft/s]") = .ok l ∧
      initial.get l.symbolSet = .ok set ∧ knotsFactor (some l.unit) = .ok factor ∧
      Locator.HasSpeed "windbarbs://Default(NaN)[ft/s]".toList .notANumber ∧
      ∃ res, initial.resolve (some "windbarbs://Default(NaN)[ft/s]") = .ok res ∧
        res.bucket = .noData := by
  have hread : Locator.read (some "windbarbs://Default(NaN)[ft/s]") =
      .ok ⟨"default", .nan, "ft/s", [], "windbarbs://Default(NaN)[ft/s]"⟩ := by decide
  obtain ⟨set, -, -, -, hget⟩ := exists_get_initial
  have hsome : (knotsFactor (some "ft/s")).toOption.isSome = true := by decide +kernel
  obtain ⟨factor, hunit⟩ := exists_of_isSome_toOption hsome
  obtain ⟨⟨lit, hlit⟩, hall⟩ := resolve_eq_noData_iff hread hget hunit
  obtain ⟨hspeed, hnoData, -⟩ := hall lit hlit
  have hnan := Speed.Literal.value_eq_nan_iff.mp hspeed.symm
  have htrim : trim "windbarbs://Default(NaN)[ft/s]".toList =
      "windbarbs://Default(NaN)[ft/s]".toList := by decide
  rw [hnan, Option.getD_some, htrim] at hlit
  exact ⟨_, set, factor, hread, hget, hunit, hlit, hnoData.mpr hnan⟩

end Registry
end WindSymbols
