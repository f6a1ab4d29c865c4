import WindSymbols.Proofs.Symbols.TextPath
import WindSymbols.Proofs.Velocity.Knots

/-! What becomes of any text and of any feature. Resolving a text gives a symbol or refuses it for
one of four causes (`resolve_eq_error_iff`), and nothing else goes wrong on the way. So a shape is
always told, with one record of how it came about (`shape_cases`). -/

namespace WindSymbols

open Text

namespace Registry

variable [UnitLibrary]

/-- Why a text has no symbol. Each cause is met only after those before it are ruled out. -/
inductive Refused (r : Registry) (text : Option String) : SymbolError → Prop
  | malformed {part : LocatorPart}
      (hmissing : Locator.FirstMissing (trim (text.getD "").toList) part) :
      Refused r text (.malformed part text)
  | unknownSet {l : Locator} (hread : Locator.read text = .ok l)
      (hnone : ∀ s ∈ r, s.name ≠ nameKey l.symbolSet) :
      Refused r text (.unknownSet l.symbolSet)
  | unsupportedUnit {l : Locator} {set : SymbolSet} {unit : Option String} {fault : UnitFault}
      (hread : Locator.read text = .ok l) (hget : r.get l.symbolSet = .ok set)
      (hunit : knotsFactor (some l.unit) = .error (.unsupportedUnit unit fault)) :
      Refused r text (.unsupportedUnit unit fault)
  | noSymbol {l : Locator} {set : SymbolSet} {factor : Binary64}
      (hread : Locator.read text = .ok l) (hget : r.get l.symbolSet = .ok set)
      (hunit : knotsFactor (some l.unit) = .ok factor)
      (hinvalid : set.classify (l.speed * factor) = .invalid) :
      Refused r text (.noSymbol (.real (l.speed * factor)) set.profile.largest)

theorem Refused.resolve_eq {r : Registry} {text : Option String} {e : SymbolError}
    (h : Refused r text e) : r.resolve text = .error (.symbol e) := by
  cases h with
  | malformed hmissing =>
    have hread := Locator.read_eq_error_iff.mpr ⟨_, hmissing, rfl⟩
    simp only [resolve, hread]
    rfl
  | unknownSet hread hnone =>
    have hget := get_eq_error_iff.mpr ⟨rfl, hnone⟩
    simp only [resolve, hread, hget, Except.mapError, bind, Except.bind]
  | unsupportedUnit hread hget hunit =>
    simp only [resolve, hread, hget, speedInKnots_eq, hunit, Except.map, Except.mapError, bind,
      Except.bind]
  | @noSymbol l set factor hread hget hunit hinvalid =>
    rw [resolve_of_steps hread hget (speedInKnots_of_factor hunit l.speed), hinvalid]
    rfl

theorem resolve_of_factor {r : Registry} {text : Option String} {l : Locator} {set : SymbolSet}
    {factor : Binary64} (hread : Locator.read text = .ok l) (hget : r.get l.symbolSet = .ok set)
    (hunit : knotsFactor (some l.unit) = .ok factor) :
    (set.classify (l.speed * factor) = .invalid ∧
      r.resolve text =
        .error (.symbol (.noSymbol (.real (l.speed * factor)) set.profile.largest))) ∨
    (set.classify (l.speed * factor) ≠ .invalid ∧
      ∃ g, set.lookup (set.classify (l.speed * factor)) = .ok g ∧
        r.resolve text =
          .ok ⟨l, l.speed * factor, set.classify (l.speed * factor),
            if l.params.southern then g.reflected else g, l.params.southern⟩) := by
  have hsteps := resolve_of_steps hread hget (speedInKnots_of_factor hunit l.speed)
  rcases set.glyphFor_cases (l.speed * factor) with
    ⟨hinvalid, -⟩ | ⟨hne, hvalid, g, hlookup, -⟩
  · refine .inl ⟨hinvalid, ?_⟩
    rw [hsteps, hinvalid]
    rfl
  · refine .inr ⟨hne, g, hlookup, ?_⟩
    rw [hsteps, if_pos hvalid, hlookup]
    rfl

theorem exists_steps_or_refused (r : Registry) (text : Option String) :
    (∃ l set factor, Locator.read text = .ok l ∧ r.get l.symbolSet = .ok set ∧
        knotsFactor (some l.unit) = .ok factor) ∨
      ∃ e, Refused r text e := by
  cases hread : Locator.read text with
  | error e =>
    obtain ⟨part, hmissing, -⟩ := Locator.read_eq_error_iff.mp hread
    exact .inr ⟨_, .malformed hmissing⟩
  | ok l =>
    cases hget : r.get l.symbolSet with
    | error e => exact .inr ⟨_, .unknownSet hread (get_eq_error_iff.mp hget).2⟩
    | ok set =>
      cases hunit : knotsFactor (some l.unit) with
      | error e =>
        obtain ⟨unit, fault, rfl⟩ := knotsFactor_eq_error hunit
        exact .inr ⟨_, .unsupportedUnit hread hget hunit⟩
      | ok factor => exact .inl ⟨l, set, factor, rfl, hget, hunit⟩

/-- A text is resolved or refused. The look-up cannot fail after a valid classification, so no
family is ever too large for the report of a missing bucket. -/
theorem resolve_cases (r : Registry) (text : Option String) :
    (∃ res, r.resolve text = .ok res) ∨
      ∃ e, Refused r text e ∧ r.resolve text = .error (.symbol e) := by
  obtain ⟨l, set, factor, hread, hget, hunit⟩ | ⟨e, hrefused⟩ := r.exists_steps_or_refused text
  · rcases resolve_of_factor hread hget hunit with ⟨hinvalid, herror⟩ | ⟨-, g, -, hok⟩
    · exact .inr ⟨_, .noSymbol hread hget hunit hinvalid, herror⟩
    · exact .inl ⟨_, hok⟩
  · exact .inr ⟨e, hrefused, hrefused.resolve_eq⟩

theorem resolve_eq_ok_iff {r : Registry} {text : Option String} {res : Resolved} :
    r.resolve text = .ok res ↔
      ∃ l set factor g, Locator.read text = .ok l ∧ r.get l.symbolSet = .ok set ∧
        knotsFactor (some l.unit) = .ok factor ∧ set.classify (l.speed * factor) ≠ .invalid ∧
        set.lookup (set.classify (l.speed * factor)) = .ok g ∧
        res = ⟨l, l.speed * factor, set.classify (l.speed * factor),
          if l.params.southern then g.reflected else g, l.params.southern⟩ := by
  constructor
  · intro h
    obtain ⟨l, set, factor, hread, hget, hunit⟩ | ⟨e, hrefused⟩ := r.exists_steps_or_refused text
    · rcases resolve_of_factor hread hget hunit with ⟨-, herror⟩ | ⟨hvalid, g, hlookup, hok⟩
      · rw [herror] at h
        cases h
      · rw [hok] at h
        cases h
        exact ⟨l, set, factor, g, hread, hget, hunit, hvalid, hlookup, rfl⟩
    · rw [hrefused.resolve_eq] at h
      cases h
  · rintro ⟨l, set, factor, g, hread, hget, hunit, hvalid, hlookup, rfl⟩
    rcases resolve_of_factor hread hget hunit with ⟨hinvalid, -⟩ | ⟨-, g', hlookup', hok⟩
    · exact absurd hinvalid hvalid
    · rw [hlookup] at hlookup'
      cases hlookup'
      exact hok

theorem Refused.hasScheme {r : Registry} {text : Option String} {e : SymbolError}
    (h : Refused r text e) (hform : ∀ part, e ≠ .malformed part text) :
    Locator.hasScheme text = true := by
  have hfound {l : Locator} (hread : Locator.read text = .ok l) :
      Locator.hasScheme text = true :=
    Locator.hasScheme_iff.mpr ((Locator.read_eq_ok_iff.mp hread).found .scheme)
  cases h with
  | malformed => exact absurd rfl (hform _)
  | unknownSet hread => exact hfound hread
  | unsupportedUnit hread => exact hfound hread
  | noSymbol hread => exact hfound hread

def glyph? (r : Registry) (text : Option String) : Option Glyph :=
  (r.resolve text).toOption.map Resolved.glyph

theorem glyph?_of_ok {r : Registry} {text : Option String} {res : Resolved}
    (h : r.resolve text = .ok res) : r.glyph? text = some res.glyph := by
  rw [glyph?, h]
  rfl

theorem Refused.glyph?_eq {r : Registry} {text : Option String} {e : SymbolError}
    (h : Refused r text e) : r.glyph? text = none := by
  rw [glyph?, h.resolve_eq]
  rfl

/-- The record of a failure is news if and only if the text has the scheme of locators. -/
theorem Refused.level_eq {r : Registry} {text : Option String} {e : SymbolError}
    (h : Refused r text e) :
    (failureRecord e text).level = if Locator.hasScheme text then .info else .debug := by
  cases e with
  | malformed part => rfl
  | _ =>
    rw [h.hasScheme nofun]
    rfl

theorem shape_cases (r : Registry) (text : Option String) :
    (∃ res, r.resolve text = .ok res ∧
        r.shape text = .ok ⟨some res.glyph, [⟨.debug, res.summary⟩]⟩) ∨
      ∃ e, Refused r text e ∧ r.shape text = .ok ⟨none, [failureRecord e text]⟩ := by
  unfold shape
  obtain ⟨res, hok⟩ | ⟨e, hrefused, herror⟩ := resolve_cases r text
  · rw [hok]
    exact .inl ⟨res, rfl, rfl⟩
  · rw [herror]
    exact .inr ⟨e, hrefused, rfl⟩

/-- The test for the scheme, the reader and the log agree. The reader misses the scheme of a text
if and only if the test does. A shape comes with one record, of the lower level if there is a glyph
or the text is none of ours. -/
theorem levels_follow_scheme :
    (∀ text, Locator.read text = .error (.malformed .scheme text) ↔
      Locator.hasScheme text = false) ∧
      ∀ (r : Registry) text, ∃ record,
        r.shape text = .ok ⟨r.glyph? text, [record]⟩ ∧
          record.level =
            match r.glyph? text with
            | some _ => .debug
            | none => if Locator.hasScheme text then .info else .debug := by
  refine ⟨fun _ => Locator.read_eq_scheme_error_iff, fun r text => ?_⟩
  obtain ⟨res, hok, hshape⟩ | ⟨e, hrefused, hshape⟩ := r.shape_cases text
  · rw [hshape, glyph?_of_ok hok]
    exact ⟨_, rfl, rfl⟩
  · rw [hshape, hrefused.glyph?_eq]
    exact ⟨_, rfl, hrefused.level_eq⟩

end Registry
end WindSymbols
