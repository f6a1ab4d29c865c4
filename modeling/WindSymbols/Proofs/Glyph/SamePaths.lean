import Mathlib.Data.List.Forall2
import WindSymbols.Glyph.Basic
import WindSymbols.Proofs.Number.Equality

/-! Glyphs with equal coordinates, path by path and point by point. What is read off a path through
its number of points and through equalities of coordinates is the same for both
(`SamePath.isClosed_eq`), and so are counts of paths (`countP_eq_of_forall₂`). -/

namespace WindSymbols

open Binary64

def SamePath (a b : Path) : Prop := List.Forall₂ (fun p q => PointOf.same p q = true) a b

def SamePaths (g h : Glyph) : Prop := List.Forall₂ SamePath g h

section Lists

variable {α : Type} {R : α → α → Prop} {a b : List α}

theorem rel_head? (h : List.Forall₂ R a b) : Option.Rel R a.head? b.head? := by
  cases h with
  | nil => exact .none
  | cons hfirst _ => exact .some hfirst

theorem rel_getLast? (h : List.Forall₂ R a b) : Option.Rel R a.getLast? b.getLast? := by
  rw [List.getLast?_eq_head?_reverse, List.getLast?_eq_head?_reverse]
  exact rel_head? (List.forall₂_reverse_iff.mpr h)

theorem any_eq_of_rel {f : α → Bool} {x y : Option α} (hf : ∀ x y, R x y → f x = f y)
    (h : Option.Rel R x y) : x.any f = y.any f := by
  cases h with
  | none => rfl
  | some h => exact hf _ _ h

theorem countP_eq_of_forall₂ {f : α → Bool} (hf : ∀ x y, R x y → f x = f y)
    (h : List.Forall₂ R a b) : a.countP f = b.countP f := by
  induction h with
  | nil => rfl
  | cons hfirst _ ih => rw [List.countP_cons, List.countP_cons, ih, hf _ _ hfirst]

theorem all_eq_of_forall₂ {f : α → Bool} (hf : ∀ x y, R x y → f x = f y)
    (h : List.Forall₂ R a b) : a.all f = b.all f := by
  induction h with
  | nil => rfl
  | cons hfirst _ ih => rw [List.all_cons, List.all_cons, ih, hf _ _ hfirst]

end Lists

namespace PointOf

theorem same_iff {p q : Point} :
    p.same q = true ↔ p.x.same q.x = true ∧ p.y.same q.y = true := by
  change (p.x.same q.x && p.y.same q.y) = true ↔ _
  exact Bool.and_eq_true_iff

theorem same_congr {p p' q q' : Point} (hp : p.same p' = true) (hq : q.same q' = true) :
    p.same q = p'.same q' := by
  obtain ⟨hpx, hpy⟩ := same_iff.mp hp
  obtain ⟨hqx, hqy⟩ := same_iff.mp hq
  change (p.x.same q.x && p.y.same q.y) = (p'.x.same q'.x && p'.y.same q'.y)
  rw [Binary64.same_congr hpx, Binary64.same_congr hpy, same_comm p'.x, same_comm p'.y,
    Binary64.same_congr hqx, Binary64.same_congr hqy, same_comm q'.x, same_comm q'.y]

theorem same_trans {p q r : Point} (hpq : p.same q = true) (hqr : q.same r = true) :
    p.same r = true := by
  obtain ⟨hpqx, hpqy⟩ := same_iff.mp hpq
  obtain ⟨hqrx, hqry⟩ := same_iff.mp hqr
  exact same_iff.mpr ⟨Binary64.same_trans hpqx hqrx, Binary64.same_trans hpqy hqry⟩

end PointOf

namespace SamePath

variable {a b : Path}

theorem isClosed_eq (h : SamePath a b) : PathOf.isClosed a = PathOf.isClosed b := by
  have hhead := rel_head? h
  have hlast := rel_getLast? h
  unfold PathOf.isClosed
  generalize a.head? = first, b.head? = first' at hhead
  generalize a.getLast? = last, b.getLast? = last' at hlast
  cases hhead with
  | none => rfl
  | some hfirst =>
    cases hlast with
    | none => rfl
    | some hlast => exact PointOf.same_congr hfirst hlast

theorem head_x_eq (h : SamePath a b) (x : Binary64) :
    (a.head?.any fun p => p.x.same x) = b.head?.any fun p => p.x.same x :=
  any_eq_of_rel (fun _ _ hsame => Binary64.same_congr (PointOf.same_iff.mp hsame).1 x) (rel_head? h)

theorem getLast_x_eq (h : SamePath a b) (x : Binary64) :
    (a.getLast?.any fun p => p.x.same x) = b.getLast?.any fun p => p.x.same x :=
  any_eq_of_rel (fun _ _ hsame => Binary64.same_congr (PointOf.same_iff.mp hsame).1 x)
    (rel_getLast? h)

end SamePath

theorem isClosed_map {α β : Type} [Coordinate α] [Coordinate β] {path : PathOf α}
    {f : PointOf α → PointOf β} (hf : ∀ p ∈ path, ∀ q ∈ path, (f p).same (f q) = p.same q) :
    PathOf.isClosed (path.map f) = PathOf.isClosed path := by
  unfold PathOf.isClosed
  rw [List.head?_map, List.getLast?_map]
  cases hhead : path.head? with
  | none => rfl
  | some first =>
    cases hlast : path.getLast? with
    | none => rfl
    | some last => exact hf first (List.mem_of_head? hhead) last (List.mem_of_getLast? hlast)

theorem SamePaths.tail {g h : Glyph} (hsame : SamePaths g h) : SamePaths g.tail h.tail := by
  cases hsame with
  | nil => exact .nil
  | cons _ hrest => exact hrest

end WindSymbols
