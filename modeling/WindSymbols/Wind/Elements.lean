import WindSymbols.Number.Division

/-!
Barb elements. A family of wind speeds is drawn with pennants of 50 knots, long barbs of 10 and
short barbs of 5, as many of the larger as fit. The main statement is `knots_ofFamily?`: the
elements of a family have its speed.
-/

namespace WindSymbols

def pennantKnots : Int := 50

def longBarbKnots : Int := 10

def shortBarbKnots : Int := 5

structure ElementsOf (Count : Type) where
  pennants : Count
  longBarbs : Count
  shortBarbs : Count
deriving DecidableEq

abbrev Elements := ElementsOf Int

namespace Elements

def knots (e : Elements) : Int :=
  e.pennants * pennantKnots + e.longBarbs * longBarbKnots + e.shortBarbs * shortBarbKnots

def isEmpty (e : Elements) : Bool := e.pennants = 0 && e.longBarbs = 0 && e.shortBarbs = 0

/-- The elements of a family, which is a natural multiple of five knots. -/
def ofFamily? (family : Int) : Option Elements :=
  if family < 0 ∨ family % shortBarbKnots ≠ 0 then none
  else
    let rest := family % pennantKnots
    some ⟨family / pennantKnots, rest / longBarbKnots, rest % longBarbKnots / shortBarbKnots⟩

theorem knots_ofFamily? {family : Int} {e : Elements} (h : ofFamily? family = some e) :
    e.knots = family := by
  simp only [ofFamily?] at h
  split at h
  · cases h
  · cases h
    simp only [knots, pennantKnots, longBarbKnots, shortBarbKnots] at *
    omega

end Elements

abbrev ElementCounts := ElementsOf Scalar

inductive FamilyFault
  | notAFamily
  /-- The counts were rounded, and no longer have the speed of the family. -/
  | rounded
deriving DecidableEq

namespace ElementCounts

def ofElements (e : Elements) : ElementCounts :=
  ⟨.whole e.pennants, .whole e.longBarbs, .whole e.shortBarbs⟩

def knots (c : ElementCounts) : Except NumberFault Scalar := do
  let pennants ← c.pennants.mul (.whole pennantKnots)
  let longBarbs ← c.longBarbs.mul (.whole longBarbKnots)
  let shortBarbs ← c.shortBarbs.mul (.whole shortBarbKnots)
  (← pennants.add longBarbs).add shortBarbs

def isEmpty (c : ElementCounts) : Bool :=
  c.pennants.isZero && c.longBarbs.isZero && c.shortBarbs.isZero

def ofReal (family : Binary64) : ElementCounts :=
  let pennants := family.divide (.ofInt pennantKnots)
  let longBarbs := pennants.remainder.divide (.ofInt longBarbKnots)
  let shortBarbs := longBarbs.remainder.divide (.ofInt shortBarbKnots)
  ⟨.real pennants.quotient, .real longBarbs.quotient, .real shortBarbs.quotient⟩

/-- Counts, if they have the speed of a family. -/
def checked (c : ElementCounts) (family : Scalar) : Except FamilyFault ElementCounts :=
  match c.knots with
  | .ok knots => if knots.same family then .ok c else .error .rounded
  | .error _ => .error .rounded

def ofFamily (family : Scalar) : Except FamilyFault ElementCounts :=
  match family with
  | .whole n =>
    match Elements.ofFamily? n with
    | some e => (ofElements e).checked family
    | none => .error .notAFamily
  | .real x =>
    if x.lt 0 || !(x.divide (.ofInt shortBarbKnots)).remainder.isZero then .error .notAFamily
    else (ofReal x).checked family

theorem knots_ofElements (e : Elements) : (ofElements e).knots = .ok (.whole e.knots) := rfl

theorem checked_ofElements (e : Elements) :
    (ofElements e).checked (.whole e.knots) = .ok (ofElements e) := by
  have hsame : (Scalar.whole e.knots).same (.whole e.knots) = true := decide_eq_true rfl
  rw [checked, knots_ofElements]
  exact if_pos hsame

/-- The counts of a family of whole knots always pass the check. -/
theorem ofFamily_whole {family : Int} {e : Elements} (h : Elements.ofFamily? family = some e) :
    ofFamily (.whole family) = .ok (ofElements e) := by
  have hcheck := checked_ofElements e
  rw [Elements.knots_ofFamily? h] at hcheck
  simp only [ofFamily, h, hcheck]

end ElementCounts
end WindSymbols
