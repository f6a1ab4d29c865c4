import WindSymbols.Glyph.Basic
import WindSymbols.Number.Angle
import WindSymbols.Wind.Bucket
import WindSymbols.Wind.Elements
import WindSymbols.Wind.Profile

/-!
Building glyphs. Elements hang off the right side of the shaft from the tip down: pennants on top
of each other, then long barbs, then short barbs, with one spacing between groups and between
barbs. Pennants are anchored at whole units.
-/

namespace WindSymbols

inductive GlyphError
  | badFamily (family : Scalar)
  | roundedFamily
  | noGlyph (kind : BucketKind)
  | outOfRange (fault : NumberFault)
deriving DecidableEq

def GlyphError.message? : GlyphError → Option String
  | badFamily family => some ("Invalid family: " ++ family.text ++ " kn")
  | roundedFamily => none
  | noGlyph kind => some ("No glyph for bucket " ++ kind.title)
  | outOfRange fault => fault.message?

def GlyphError.ofFault (family : Scalar) : FamilyFault → GlyphError
  | .notAFamily => badFamily family
  | .rounded => roundedFamily

namespace Glyph

def circleParts : Nat := 32

def circlePoint (radius : Binary64) (i : Nat) : Point :=
  let angle := Angle.part circleParts i
  ⟨radius * Angle.cosine angle, radius * Angle.sine angle⟩

def circle (radius : Binary64) : Path :=
  (List.range circleParts).map (circlePoint radius) ++ [circlePoint radius 0]

def calm (p : Profile) : Except NumberFault Glyph := do
  let width ← p.dimensions.calmCircle.toBinary64
  return [circle (width / 2)]

def shaft (p : Profile) : Except NumberFault Path := do
  return [⟨0, 0⟩, ⟨0, ← p.dimensions.shaft.toBinary64⟩]

def noData (p : Profile) : Except NumberFault Glyph := do
  let tip ← p.dimensions.shaft.toBinary64
  let half := (← p.dimensions.calmCircle.toBinary64) / 2
  return [
    ← shaft p,
    [⟨half, tip + half⟩, ⟨-half, tip - half⟩],
    [⟨-half, tip + half⟩, ⟨half, tip - half⟩]]

def below (position : Scalar) (step : Binary64) : Except NumberFault Scalar := do
  return .whole (← ((← position.toBinary64) - step).truncate)

def pennant (reach halfBase : Binary64) (top : Scalar) : Except NumberFault (Path × Scalar) := do
  let middle ← below top halfBase
  let apex : Point := ⟨reach, ← middle.toBinary64⟩
  let bottom ← below middle halfBase
  let tip : Point := ⟨0, ← top.toBinary64⟩
  return ([tip, apex, ⟨0, ← bottom.toBinary64⟩, tip], bottom)

def pennants (reach halfBase : Binary64) :
    Nat → Scalar → Except NumberFault (List Path × Scalar)
  | 0, position => .ok ([], position)
  | count + 1, position => do
    let (path, bottom) ← pennant reach halfBase position
    let (paths, last) ← pennants reach halfBase count bottom
    return (path :: paths, last)

def barb (reach rise : Binary64) (anchor : Scalar) : Except NumberFault Path := do
  let y ← anchor.toBinary64
  return [⟨0, y⟩, ⟨reach, y + rise⟩]

def barbsBelow (reach rise : Binary64) (spacing : Scalar) :
    Nat → Scalar → Except NumberFault (List Path × Scalar)
  | 0, position => .ok ([], position)
  | count + 1, position => do
    let anchor ← position.sub spacing
    let path ← barb reach rise anchor
    let (paths, last) ← barbsBelow reach rise spacing count anchor
    return (path :: paths, last)

def barbs (reach rise : Binary64) (spacing : Scalar) (count : Nat) (position : Scalar) :
    Except NumberFault (List Path × Scalar) :=
  match count with
  | 0 => .ok ([], position)
  | count + 1 => do
    let path ← barb reach rise position
    let (paths, last) ← barbsBelow reach rise spacing count position
    return (path :: paths, last)

def afterGroup (count : Int) (spacing position : Scalar) : Except NumberFault Scalar :=
  if count = 0 then .ok position else position.sub spacing

/-- The short barb; there is one at most. A short barb on its own is set in from the tip. -/
def shortBarb (e : Elements) (p : Profile) (reach rise : Binary64) (position : Scalar) :
    Except NumberFault (List Path) := do
  if e.shortBarbs = 0 then return []
  let anchor ←
    if e.pennants = 0 ∧ e.longBarbs = 0 then p.dimensions.shaft.sub p.dimensions.spacing
    else pure position
  return [← barb reach rise anchor]

def ofElements (e : Elements) (p : Profile) : Except NumberFault Glyph := do
  let base ← p.dimensions.pennantBase.toBinary64
  let reach ← p.dimensions.longBarb.toBinary64
  let spacing := p.dimensions.spacing
  let stem ← shaft p
  let (flags, position) ← pennants reach (base / 2) e.pennants.toNat p.dimensions.shaft
  let position ← afterGroup e.pennants spacing position
  let (long, position) ← barbs reach (base / 2) spacing e.longBarbs.toNat position
  let position ← afterGroup e.longBarbs spacing position
  let short ← shortBarb e p p.shortBarb (base / 4) position
  return stem :: flags ++ long ++ short

def ofParts (e : Elements) (p : Profile) : Except NumberFault Glyph :=
  if e.isEmpty then calm p else ofElements e p

def ofFamily (family : Int) (p : Profile) : Except GlyphError Glyph :=
  match Elements.ofFamily? family with
  | some e => (ofParts e p).mapError .outOfRange
  | none => .error (.badFamily (.whole family))

def ofBucket (b : Bucket) (p : Profile) : Except GlyphError Glyph :=
  if b = .calm then (calm p).mapError .outOfRange
  else if b = .noData then (noData p).mapError .outOfRange
  else
    match b.kind, b.family with
    | .family, some family => ofFamily family p
    | .family, none => .error (.outOfRange .notWhole)
    | kind, _ => .error (.noGlyph kind)

/-! Numbers that need not be whole. Pennants and long barbs are drawn one by one, so their counts
have to be whole; of short barbs it only matters whether there are any. -/

def ofCounts (c : ElementCounts) (p : Profile) : Except NumberFault Glyph :=
  match c.pennants, c.longBarbs with
  | .whole pennants, .whole longBarbs =>
    ofElements ⟨pennants, longBarbs, if c.shortBarbs.isZero then 0 else 1⟩ p
  | .whole pennants, .real _ => do
    let _ ← ofElements ⟨pennants, 0, 0⟩ p
    throw .notWhole
  | .real _, _ => do
    let _ ← ofElements ⟨0, 0, 0⟩ p
    throw .notWhole

def ofCountedParts (c : ElementCounts) (p : Profile) : Except NumberFault Glyph :=
  if c.isEmpty then calm p else ofCounts c p

def ofAnyFamily (family : Scalar) (p : Profile) : Except GlyphError Glyph := do
  let counts ← (ElementCounts.ofFamily family).mapError (.ofFault family)
  (ofCountedParts counts p).mapError .outOfRange

def ofAnyBucket (b : BucketOf Scalar) (p : Profile) : Except GlyphError Glyph :=
  match b.kind, b.family with
  | kind, none => ofBucket ⟨kind, none⟩ p
  | .family, some family => ofAnyFamily family p
  | kind, some _ => .error (.noGlyph kind)

end Glyph
end WindSymbols
