import WindSymbols.Locator.Reader
import WindSymbols.Proofs.Failure
import WindSymbols.Proofs.Locator.Literal
import WindSymbols.Proofs.Text.Lower

/-! The grammar of locators. A text is read as a locator if and only if it is written in the
grammar, and the locator holds its pieces (`readChars_eq_ok_iff`). Any other text is refused with
the first of its pieces that is not there (`readChars_eq_error_iff`). -/

namespace WindSymbols

open Text

namespace LocatorPart

/-- The order in which missing pieces are told. -/
def order : List LocatorPart := [scheme, parentheses, symbolSet, brackets, speed]

def earlier (part : LocatorPart) : List LocatorPart := order.takeWhile (· ≠ part)

@[simp] theorem earlier_scheme : scheme.earlier = [] := rfl
@[simp] theorem earlier_parentheses : parentheses.earlier = [scheme] := rfl
@[simp] theorem earlier_symbolSet : symbolSet.earlier = [scheme, parentheses] := rfl
@[simp] theorem earlier_brackets : brackets.earlier = [scheme, parentheses, symbolSet] := rfl
@[simp] theorem earlier_speed : speed.earlier = [scheme, parentheses, symbolSet, brackets] := rfl

theorem earlier_or_earlier (a b : LocatorPart) : a = b ∨ a ∈ b.earlier ∨ b ∈ a.earlier := by
  cases a <;> cases b <;> decide

end LocatorPart

namespace Locator

def queryText : Option (List Char) → List Char
  | none => []
  | some query => '?' :: query

/-- A text with the scheme of locators and a speed in parentheses. -/
structure Pieces where
  scheme : List Char
  name : List Char
  speed : List Char
  rest : List Char
  query : Option (List Char)
  scheme_eq : lower scheme = Locator.scheme
  name_end : '(' ∉ name
  speed_end : ')' ∉ speed
  speed_ne_nil : speed ≠ []
  no_query : '?' ∉ name ∧ '?' ∉ speed ∧ '?' ∉ rest

namespace Pieces

def body (p : Pieces) : List Char := p.name ++ '(' :: (p.speed ++ ')' :: p.rest)

def text (p : Pieces) : List Char := p.scheme ++ ("://".toList ++ (p.body ++ queryText p.query))

def params (p : Pieces) : Params := p.query.elim [] Params.read

end Pieces

def Bracketed (unit t : List Char) : Prop :=
  t = '[' :: (unit ++ [']']) ∧ ']' ∉ unit ∧ trim unit ≠ []

/-- A text of the grammar and the locator it stands for. -/
def Denotes (t : List Char) (l : Locator) : Prop :=
  ∃ (p : Pieces) (unit : List Char) (lit : Speed.Literal),
    t = p.text ∧ trim p.name ≠ [] ∧ Bracketed unit (trim p.rest) ∧ trim p.speed = lit.text ∧
      l = { symbolSet := .ofList (lower (trim p.name))
            speed := lit.value
            unit := .ofList (trim unit)
            params := p.params
            text := .ofList t }

def Found (t : List Char) : LocatorPart → Prop
  | .scheme => ∃ before rest, t = before ++ ("://".toList ++ rest) ∧ lower before = scheme
  | .parentheses => ∃ p : Pieces, t = p.text
  | .symbolSet => ∃ p : Pieces, t = p.text ∧ trim p.name ≠ []
  | .brackets => ∃ p : Pieces, t = p.text ∧ ∃ unit, Bracketed unit (trim p.rest)
  | .speed => ∃ p : Pieces, t = p.text ∧ ∃ lit : Speed.Literal, trim p.speed = lit.text

def FirstMissing (t : List Char) (part : LocatorPart) : Prop :=
  (∀ before ∈ part.earlier, Found t before) ∧ ¬ Found t part

theorem FirstMissing.unique {t : List Char} {a b : LocatorPart} (ha : FirstMissing t a)
    (hb : FirstMissing t b) : a = b := by
  rcases a.earlier_or_earlier b with h | h | h
  · exact h
  · exact absurd (hb.1 a h) ha.2
  · exact absurd (ha.1 b h) hb.2

theorem Denotes.found {t : List Char} {l : Locator} (h : Denotes t l) (part : LocatorPart) :
    Found t part := by
  obtain ⟨p, unit, lit, ht, hname, hunit, hspeed, -⟩ := h
  cases part with
  | scheme => exact ⟨p.scheme, _, ht, p.scheme_eq⟩
  | parentheses => exact ⟨p, ht⟩
  | symbolSet => exact ⟨p, ht, hname⟩
  | brackets => exact ⟨p, ht, unit, hunit⟩
  | speed => exact ⟨p, ht, lit, hspeed⟩

theorem colon_not_mem_of_lower_eq {cs : List Char} (h : lower cs = scheme) : ':' ∉ cs := by
  have hcaseless : Caseless [(':'.toNat, ':'.toNat)] := by decide
  rw [← mem_lower_iff hcaseless, h]
  decide

theorem afterScheme?_eq_some_iff {t rest : List Char} :
    afterScheme? t = some rest ↔
      ∃ before, t = before ++ ("://".toList ++ rest) ∧ lower before = scheme := by
  unfold afterScheme?
  constructor
  · intro h
    split at h
    · rename_i before after hcut
      split at h
      · rename_i hscheme
        cases h
        exact ⟨before, eq_append_of_cut? hcut, hscheme⟩
      · cases h
    · cases h
  · rintro ⟨before, rfl, hscheme⟩
    have hcut : cut? "://".toList (before ++ ("://".toList ++ rest)) = some (before, rest) :=
      cut?_append_of_head (colon_not_mem_of_lower_eq hscheme) _ rest
    rw [hcut]
    exact if_pos hscheme

theorem splitQuery_append {body : List Char} (h : '?' ∉ body) (query : Option (List Char)) :
    splitQuery (body ++ queryText query) = (body, query.getD []) := by
  cases query with
  | none => simp [splitQuery, queryText, cut?_eq_none_iff.mpr h]
  | some query => simp [splitQuery, queryText, cut?_append h]

theorem exists_query (t : List Char) :
    ∃ query, t = (splitQuery t).1 ++ queryText query ∧ '?' ∉ (splitQuery t).1 ∧
      (splitQuery t).2 = query.getD [] := by
  unfold splitQuery
  cases hcut : cut? ['?'] t with
  | none => exact ⟨none, (List.append_nil t).symm, cut?_eq_none_iff.mp hcut, rfl⟩
  | some parts =>
    obtain ⟨ht, hfree⟩ := cut?_eq_some_iff.mp hcut
    exact ⟨some parts.2, ht, hfree, rfl⟩

theorem splitGroup?_eq_some_iff {body name speed rest : List Char} :
    splitGroup? body = some (name, speed, rest) ↔
      body = name ++ '(' :: (speed ++ ')' :: rest) ∧ '(' ∉ name ∧ ')' ∉ speed ∧ speed ≠ [] := by
  unfold splitGroup?
  constructor
  · intro h
    split at h
    · cases h
    · rename_i hname
      split at h
      · cases h
      · rename_i hspeed
        split at h
        · cases h
        · rename_i hne
          cases h
          obtain ⟨rfl, hopen⟩ := cut?_eq_some_iff.mp hname
          obtain ⟨rfl, hclose⟩ := cut?_eq_some_iff.mp hspeed
          exact ⟨rfl, hopen, hclose, hne⟩
  · rintro ⟨rfl, hname, hspeed, hne⟩
    simp only [cut?_append hname, cut?_append hspeed, if_neg hne]

theorem bracketed?_eq_some_iff {t value : List Char} :
    bracketed? t = some value ↔ ∃ unit, Bracketed unit t ∧ value = trim unit := by
  unfold bracketed?
  constructor
  · intro h
    split at h
    · split at h
      · rename_i unit hcut
        split at h
        · cases h
        · rename_i hblank
          cases h
          obtain ⟨rfl, hfree⟩ := cut?_eq_some_iff.mp hcut
          exact ⟨unit, ⟨rfl, hfree, hblank⟩, rfl⟩
      · cases h
    · cases h
  · rintro ⟨unit, ⟨rfl, hfree, hblank⟩, rfl⟩
    simp only [cut?_append hfree, if_neg hblank]

namespace Pieces

theorem not_mem_body (p : Pieces) : '?' ∉ p.body := by
  obtain ⟨hname, hspeed, hrest⟩ := p.no_query
  simp [body, hname, hspeed, hrest]

theorem afterScheme?_text (p : Pieces) :
    afterScheme? p.text = some (p.body ++ queryText p.query) :=
  afterScheme?_eq_some_iff.mpr ⟨p.scheme, rfl, p.scheme_eq⟩

theorem splitGroup?_body (p : Pieces) : splitGroup? p.body = some (p.name, p.speed, p.rest) :=
  splitGroup?_eq_some_iff.mpr ⟨rfl, p.name_end, p.speed_end, p.speed_ne_nil⟩

theorem parts_eq {p q : Pieces} (h : p.text = q.text) :
    p.name = q.name ∧ p.speed = q.speed ∧ p.rest = q.rest := by
  have hscheme := p.afterScheme?_text
  rw [h, q.afterScheme?_text] at hscheme
  have hsplit := congrArg splitQuery (Option.some.inj hscheme)
  rw [splitQuery_append q.not_mem_body, splitQuery_append p.not_mem_body] at hsplit
  have hgroup := p.splitGroup?_body
  rw [← (Prod.mk.inj hsplit).1, q.splitGroup?_body] at hgroup
  simpa only [Option.some.injEq, Prod.mk.injEq, eq_comm] using hgroup

theorem params_eq (p : Pieces) : p.params = Params.read (p.query.getD []) := by
  unfold params
  cases p.query <;> rfl

end Pieces

theorem readChars_of_not_found_scheme {t : List Char} (h : ¬ Found t .scheme) :
    readChars t = .error .scheme := by
  have hnone : afterScheme? t = none := by
    rw [Option.eq_none_iff_forall_ne_some]
    intro rest hrest
    obtain ⟨before, ht⟩ := afterScheme?_eq_some_iff.mp hrest
    exact h ⟨before, rest, ht⟩
  simp only [readChars, hnone]
  rfl

theorem readChars_of_not_found_parentheses {t : List Char} (hscheme : Found t .scheme)
    (h : ¬ Found t .parentheses) : readChars t = .error .parentheses := by
  obtain ⟨before, rest, ht⟩ := hscheme
  have hrest := afterScheme?_eq_some_iff.mpr ⟨before, ht⟩
  have hnone : splitGroup? (splitQuery rest).1 = none := by
    rw [Option.eq_none_iff_forall_ne_some]
    rintro ⟨name, speed, tail⟩ hparts
    obtain ⟨query, hquery, hfree, -⟩ := exists_query rest
    obtain ⟨hbody, hname, hspeed, hne⟩ := splitGroup?_eq_some_iff.mp hparts
    have hno : '?' ∉ name ∧ '?' ∉ speed ∧ '?' ∉ tail := by
      rw [hbody] at hfree
      simpa using hfree
    refine h ⟨⟨before, name, speed, tail, query, ht.2, hname, hspeed, hne, hno⟩, ?_⟩
    rw [Pieces.text, Pieces.body, ← hbody, ← hquery]
    exact ht.1
  simp only [readChars, hrest, hnone]
  rfl

theorem readChars_text (p : Pieces) :
    readChars p.text =
      if trim p.name = [] then .error .symbolSet
      else
        match bracketed? (trim p.rest), Speed.read p.speed with
        | none, _ => .error .brackets
        | some _, none => .error .speed
        | some unit, some speed =>
          .ok {
            symbolSet := .ofList (lower (trim p.name))
            speed
            unit := .ofList unit
            params := p.params
            text := .ofList p.text } := by
  simp only [readChars, p.afterScheme?_text, splitQuery_append p.not_mem_body, p.splitGroup?_body,
    p.params_eq]
  by_cases hname : trim p.name = []
  · rw [if_pos hname, if_pos hname]
    rfl
  · rw [if_neg hname, if_neg hname]
    cases bracketed? (trim p.rest) with
    | none => rfl
    | some unit => cases Speed.read p.speed <;> rfl

theorem found_symbolSet_iff (p : Pieces) : Found p.text .symbolSet ↔ trim p.name ≠ [] := by
  constructor
  · rintro ⟨q, hq, hname⟩
    rwa [(Pieces.parts_eq hq).1]
  · exact fun h => ⟨p, rfl, h⟩

theorem found_brackets_iff (p : Pieces) :
    Found p.text .brackets ↔ ∃ unit, bracketed? (trim p.rest) = some unit := by
  constructor
  · rintro ⟨q, hq, unit, hunit⟩
    rw [(Pieces.parts_eq hq).2.2]
    exact ⟨_, bracketed?_eq_some_iff.mpr ⟨unit, hunit, rfl⟩⟩
  · rintro ⟨_, hunit⟩
    obtain ⟨unit, hunit, -⟩ := bracketed?_eq_some_iff.mp hunit
    exact ⟨p, rfl, unit, hunit⟩

theorem found_speed_iff (p : Pieces) :
    Found p.text .speed ↔ ∃ speed, Speed.read p.speed = some speed := by
  constructor
  · rintro ⟨q, hq, lit, hlit⟩
    rw [(Pieces.parts_eq hq).2.1]
    exact ⟨_, Speed.read_eq_some_iff.mpr ⟨lit, hlit, rfl⟩⟩
  · rintro ⟨_, hspeed⟩
    obtain ⟨lit, hlit, -⟩ := Speed.read_eq_some_iff.mp hspeed
    exact ⟨p, rfl, lit, hlit⟩

theorem readChars_of_denotes {t : List Char} {l : Locator} (h : Denotes t l) :
    readChars t = .ok l := by
  obtain ⟨p, unit, lit, rfl, hname, hunit, hspeed, rfl⟩ := h
  have hvalue := Speed.read_eq_some_iff.mpr ⟨lit, hspeed, rfl⟩
  have hbracketed := bracketed?_eq_some_iff.mpr ⟨unit, hunit, rfl⟩
  rw [readChars_text, if_neg hname, hbracketed, hvalue]

theorem readChars_cases (t : List Char) :
    (∃ l, readChars t = .ok l ∧ Denotes t l) ∨
      ∃ part, readChars t = .error part ∧ FirstMissing t part := by
  by_cases hscheme : Found t .scheme
  swap
  · exact .inr ⟨.scheme, readChars_of_not_found_scheme hscheme, by simp, hscheme⟩
  by_cases hgroup : Found t .parentheses
  swap
  · have hread := readChars_of_not_found_parentheses hscheme hgroup
    exact .inr ⟨.parentheses, hread, by simpa, hgroup⟩
  obtain ⟨p, rfl⟩ := hgroup
  have hgroup : Found p.text .parentheses := ⟨p, rfl⟩
  rw [readChars_text]
  by_cases hname : trim p.name = []
  · refine .inr ⟨.symbolSet, if_pos hname, by simp [hscheme, hgroup], ?_⟩
    exact fun h => (found_symbolSet_iff p).mp h hname
  have hfoundName := (found_symbolSet_iff p).mpr hname
  rw [if_neg hname]
  cases hunit : bracketed? (trim p.rest) with
  | none =>
    refine .inr ⟨.brackets, rfl, by simp [hscheme, hgroup, hfoundName], fun h => ?_⟩
    obtain ⟨unit, h⟩ := (found_brackets_iff p).mp h
    rw [hunit] at h
    cases h
  | some value =>
    have hfoundUnit := (found_brackets_iff p).mpr ⟨value, hunit⟩
    cases hspeed : Speed.read p.speed with
    | none =>
      refine .inr ⟨.speed, rfl, by simp [hscheme, hgroup, hfoundName, hfoundUnit], fun h => ?_⟩
      obtain ⟨speed, h⟩ := (found_speed_iff p).mp h
      rw [hspeed] at h
      cases h
    | some speed =>
      obtain ⟨unit, hbrackets, rfl⟩ := bracketed?_eq_some_iff.mp hunit
      obtain ⟨lit, hlit, rfl⟩ := Speed.read_eq_some_iff.mp hspeed
      exact .inl ⟨_, rfl, p, unit, lit, rfl, hname, hbrackets, hlit, rfl⟩

theorem readChars_eq_ok_iff {t : List Char} {l : Locator} :
    readChars t = .ok l ↔ Denotes t l := by
  refine ⟨fun h => ?_, readChars_of_denotes⟩
  obtain ⟨l', hread, hdenotes⟩ | ⟨part, hread, -⟩ := readChars_cases t
  · rw [hread] at h
    cases h
    exact hdenotes
  · rw [hread] at h
    cases h

theorem readChars_eq_error_iff {t : List Char} {part : LocatorPart} :
    readChars t = .error part ↔ FirstMissing t part := by
  obtain ⟨l, hread, hdenotes⟩ | ⟨first, hread, hfirst⟩ := readChars_cases t
  · rw [hread]
    exact ⟨nofun, fun h => absurd (hdenotes.found part) h.2⟩
  · rw [hread]
    constructor
    · intro h
      cases h
      exact hfirst
    · intro h
      rw [hfirst.unique h]

example : readChars "windbarbs://(x)kts".toList = .error .symbolSet := by decide

/-- Reading on would refuse the texts that are refused beforehand, and for the same cause. -/
theorem read_eq (text : Option String) :
    read text = (readChars (trim (text.getD "").toList)).mapError (.malformed · text) := by
  have hempty : readChars [] = .error .scheme := rfl
  cases text with
  | none => rfl
  | some s =>
    rw [read, Option.getD_some]
    split
    · rename_i hblank
      rw [hblank, hempty]
      rfl
    · rfl

theorem isSome_afterScheme? (t : List Char) :
    (afterScheme? t).isSome = (cut? "://".toList t).any fun parts => lower parts.1 = scheme := by
  unfold afterScheme?
  cases cut? "://".toList t with
  | none => rfl
  | some parts =>
    dsimp only
    by_cases h : lower parts.1 = scheme <;> simp [h]

/-- The test for the scheme looks for what the reader needs after its own test for blanks. -/
theorem hasScheme_eq (text : Option String) :
    hasScheme text = (afterScheme? (trim (text.getD "").toList)).isSome := by
  rw [isSome_afterScheme?]
  cases text with
  | none => rfl
  | some s =>
    rw [hasScheme, Option.getD_some]
    split
    · rename_i hempty
      rw [hempty]
      rfl
    · rfl

theorem read_eq_ok_iff {text : Option String} {l : Locator} :
    read text = .ok l ↔ Denotes (trim (text.getD "").toList) l := by
  rw [← readChars_eq_ok_iff, read_eq, mapError_eq_ok_iff]

theorem read_of_denotes {text : String} {l : Locator} (ht : Trimmed text.toList)
    (h : Denotes text.toList l) : read (some text) = .ok l := by
  rw [read_eq_ok_iff, Option.getD_some, ht.trim_eq]
  exact h

theorem read_eq_error_iff {text : Option String} {e : SymbolError} :
    read text = .error e ↔
      ∃ part, FirstMissing (trim (text.getD "").toList) part ∧ e = .malformed part text := by
  simp only [← readChars_eq_error_iff, read_eq, mapError_eq_error_iff]

theorem hasScheme_iff {text : Option String} :
    hasScheme text = true ↔ Found (trim (text.getD "").toList) .scheme := by
  rw [hasScheme_eq, Option.isSome_iff_exists]
  constructor
  · rintro ⟨rest, hrest⟩
    obtain ⟨before, ht⟩ := afterScheme?_eq_some_iff.mp hrest
    exact ⟨before, rest, ht⟩
  · rintro ⟨before, rest, ht⟩
    exact ⟨rest, afterScheme?_eq_some_iff.mpr ⟨before, ht⟩⟩

/-- The scheme is the first piece to be missed, so it is missed whenever it is not there. -/
theorem read_eq_scheme_error_iff {text : Option String} :
    read text = .error (.malformed .scheme text) ↔ hasScheme text = false := by
  rw [read_eq_error_iff, Bool.eq_false_iff, Ne, hasScheme_iff]
  constructor
  · rintro ⟨part, hmissing, heq⟩
    cases heq
    exact hmissing.2
  · intro h
    exact ⟨.scheme, ⟨by simp, h⟩, rfl⟩

/-- A text that is not given is read as an empty one. -/
theorem read_follows_grammar (text : Option String) :
    (∀ l, read text = .ok l ↔ Denotes (trim (text.getD "").toList) l) ∧
      ∀ e, read text = .error e ↔
        ∃ part, FirstMissing (trim (text.getD "").toList) part ∧ e = .malformed part text :=
  ⟨fun _ => read_eq_ok_iff, fun _ => read_eq_error_iff⟩

end Locator
end WindSymbols
