import Mathlib.Data.List.DropRight
import WindSymbols.Text.Blank

/-! Trimmed text: neither end is blank. Trimming makes text trimmed and leaves trimmed text as it
is, so trimming twice is trimming once. The blanks at the end of a text are kept as soon as other
text follows them (`exists_trim_append`). -/

namespace WindSymbols.Text

def NoBlankLast (cs : List Char) : Prop := ∀ c ∈ cs.getLast?, isBlank c = false

structure Trimmed (cs : List Char) : Prop where
  head : ∀ c ∈ cs.head?, isBlank c = false
  last : NoBlankLast cs

theorem NoBlankLast.append {a b : List Char} (ha : NoBlankLast a) (hb : NoBlankLast b) :
    NoBlankLast (a ++ b) := by
  intro c hc
  rw [List.getLast?_append] at hc
  cases hlast : b.getLast? with
  | none =>
    rw [hlast] at hc
    exact ha c hc
  | some d =>
    rw [hlast] at hc
    cases hc
    exact hb _ hlast

theorem NoBlankLast.append_left (a : List Char) {b : List Char} (hb : NoBlankLast b)
    (hne : b ≠ []) : NoBlankLast (a ++ b) := by
  intro c hc
  rw [List.getLast?_append_of_ne_nil a hne] at hc
  exact hb c hc

theorem noBlankLast_nil : NoBlankLast [] := by
  intro c hc
  cases hc

theorem noBlankLast_singleton {c : Char} (h : isBlank c = false) : NoBlankLast [c] := by
  intro d hd
  cases hd
  exact h

theorem NoBlankLast.cons {c : Char} {cs : List Char} (h : NoBlankLast cs)
    (hc : isBlank c = false) : NoBlankLast (c :: cs) :=
  (noBlankLast_singleton hc).append h

theorem trim_eq_rdropWhile (cs : List Char) :
    trim cs = (cs.dropWhile isBlank).rdropWhile isBlank := rfl

theorem Trimmed.trim_eq {cs : List Char} (h : Trimmed cs) : trim cs = cs := by
  have hleft : cs.dropWhile isBlank = cs := by
    cases cs with
    | nil => rfl
    | cons c rest => simp [List.dropWhile, h.head c rfl]
  rw [trim_eq_rdropWhile, hleft, List.rdropWhile_eq_self_iff]
  intro hne
  rw [h.last _ (List.getLast?_eq_some_getLast hne)]
  exact Bool.false_ne_true

theorem trim_isPrefix (cs : List Char) : trim cs <+: cs.dropWhile isBlank :=
  List.rdropWhile_prefix isBlank _

theorem trimmed_trim (cs : List Char) : Trimmed (trim cs) where
  head c hc := by
    have hdrop := List.head?_dropWhile_not isBlank cs
    obtain ⟨rest, hrest⟩ := trim_isPrefix cs
    have hhead : (cs.dropWhile isBlank).head? = some c := by
      rw [← hrest, List.head?_append, hc]
      rfl
    rw [hhead] at hdrop
    exact hdrop
  last c hc := by
    obtain ⟨hne, hlast⟩ := List.mem_getLast?_eq_getLast hc
    rw [hlast]
    exact Bool.eq_false_iff.mpr (List.rdropWhile_last_not isBlank _ hne)

theorem trim_trim (cs : List Char) : trim (trim cs) = trim cs := (trimmed_trim cs).trim_eq

theorem mem_of_mem_trim {c : Char} {cs : List Char} (h : c ∈ trim cs) : c ∈ cs :=
  (List.dropWhile_suffix isBlank).subset ((trim_isPrefix cs).subset h)

theorem rdropWhile_append_blanks (cs : List Char) {blanks : List Char}
    (h : ∀ c ∈ blanks, isBlank c = true) :
    (cs ++ blanks).rdropWhile isBlank = cs.rdropWhile isBlank := by
  have hreversed : ∀ c ∈ blanks.reverse, isBlank c = true := by simpa using h
  rw [List.rdropWhile, List.rdropWhile, List.reverse_append,
    List.dropWhile_append_of_pos hreversed]

theorem trim_append_blanks (cs : List Char) {blanks : List Char}
    (h : ∀ c ∈ blanks, isBlank c = true) : trim (cs ++ blanks) = trim cs := by
  rw [trim_eq_rdropWhile, trim_eq_rdropWhile, List.dropWhile_append]
  split
  · rename_i hempty
    rw [List.isEmpty_iff.mp hempty, List.dropWhile_eq_nil_iff.mpr h]
  · exact rdropWhile_append_blanks _ h

theorem exists_trim_append {cs tail : List Char} (hcs : trim cs ≠ []) (hne : tail ≠ [])
    (hlast : NoBlankLast tail) :
    ∃ blanks, (∀ c ∈ blanks, isBlank c = true) ∧
      trim (cs ++ tail) = trim cs ++ (blanks ++ tail) := by
  have hdrop : cs.dropWhile isBlank ≠ [] := by
    intro hnil
    rw [trim_eq_rdropWhile, hnil] at hcs
    exact hcs (List.rdropWhile_nil _)
  -- the blanks that trimming takes off the end are no longer at the end
  refine ⟨(cs.dropWhile isBlank).rtakeWhile isBlank, fun _ => List.mem_rtakeWhile_imp, ?_⟩
  rw [trim_eq_rdropWhile, List.dropWhile_append, if_neg (mt List.isEmpty_iff.mp hdrop),
    trim_eq_rdropWhile cs, ← List.append_assoc, List.rdropWhile_append_rtakeWhile,
    List.rdropWhile_eq_self_iff]
  intro hl
  rw [hlast.append_left _ hne _ (List.getLast?_eq_some_getLast hl)]
  exact Bool.false_ne_true

theorem trimmed_of_ends {first last : Char} (mid : List Char) (hfirst : isBlank first = false)
    (hlast : isBlank last = false) : Trimmed (first :: (mid ++ [last])) where
  head c hc := by
    cases hc
    exact hfirst
  last c hc := by
    rw [← List.cons_append, List.getLast?_append] at hc
    cases hc
    exact hlast

end WindSymbols.Text
