import WindSymbols.Locator.Params
import WindSymbols.Proofs.Text.Lower

/-! Parameters in the form in which reading leaves them: no key twice, keys in lower case, no blanks
around keys and values. Reading always ends in this form (`canonical_read`), and parameters of this
form are read back from the query they are written as (`read_queryChars`). -/

namespace WindSymbols

open Text

theorem Text.pieces_intercalate {s : Char} {ps : List (List Char)} (hne : ps ≠ [])
    (h : ∀ p ∈ ps, s ∉ p) : pieces s ([s].intercalate ps) = ps := by
  induction ps with
  | nil => exact absurd rfl hne
  | cons p rest ih =>
    have hp := pieces_of_not_mem (h p List.mem_cons_self)
    cases rest with
    | nil => rw [List.intercalate_singleton, hp]
    | cons q more =>
      have hrest := ih (List.cons_ne_nil q more) fun r hr => h r (List.mem_cons_of_mem p hr)
      rw [List.intercalate_cons_cons, List.append_assoc, List.singleton_append, pieces_append, hp,
        hrest]
      rfl

namespace Params

structure CanonicalPair (p : String × String) : Prop where
  key_ne_nil : p.1.toList ≠ []
  key_trimmed : Trimmed p.1.toList
  key_lower : lower p.1.toList = p.1.toList
  key_end : '=' ∉ p.1.toList
  key_free : '&' ∉ p.1.toList
  value_trimmed : Trimmed p.2.toList
  value_free : '&' ∉ p.2.toList

structure Canonical (params : Params) : Prop where
  nodup : params.keys.Nodup
  pairs : ∀ p ∈ params, CanonicalPair p

theorem canonical_nil : Canonical [] where
  nodup := List.nodup_nil
  pairs := List.forall_mem_nil _

theorem eq_or_mem_of_mem_insert {params : Params} {key value : String} {p : String × String}
    (h : p ∈ params.insert key value) : p = (key, value) ∨ p ∈ params := by
  rw [insert] at h
  split at h
  · obtain ⟨old, hold, rfl⟩ := List.mem_map.mp h
    split
    · exact .inl rfl
    · exact .inr hold
  · rcases List.mem_append.mp h with h | h
    · exact .inr h
    · exact .inl (List.mem_singleton.mp h)

theorem Canonical.insert {params : Params} {key value : String} (h : Canonical params)
    (hp : CanonicalPair (key, value)) : Canonical (params.insert key value) where
  nodup := nodup_keys_insert h.nodup key value
  pairs p hmem := by
    rcases eq_or_mem_of_mem_insert hmem with rfl | hmem
    · exact hp
    · exact h.pairs p hmem

theorem canonicalPair_of_free {key value : List Char} (hkey : trim key ≠ []) (hend : '=' ∉ key)
    (hfree : '&' ∉ key) (hvalue : '&' ∉ value) :
    CanonicalPair (.ofList (lower (trim key)), .ofList (trim value)) := by
  have hequals : Caseless [('='.toNat, '='.toNat)] := by decide
  have hampersand : Caseless [('&'.toNat, '&'.toNat)] := by decide
  constructor <;> simp only [String.toList_ofList]
  · exact mt lower_eq_nil_iff.mp hkey
  · exact trimmed_lower (trimmed_trim key)
  · exact lower_lower (trim key)
  · exact fun h => hend (mem_of_mem_trim ((mem_lower_iff hequals).mp h))
  · exact fun h => hfree (mem_of_mem_trim ((mem_lower_iff hampersand).mp h))
  · exact trimmed_trim value
  · exact fun h => hvalue (mem_of_mem_trim h)

theorem Canonical.addPair {params : Params} {pair : List Char} (h : Canonical params)
    (hfree : '&' ∉ pair) : Canonical (params.addPair pair) := by
  unfold Params.addPair
  split
  · exact h
  · rename_i key value hcut
    obtain ⟨rfl, hend⟩ := cut?_eq_some_iff.mp hcut
    simp only [List.mem_append, List.mem_cons, not_or] at hfree
    split
    · exact h
    · exact h.insert (canonicalPair_of_free ‹_› hend hfree.1 hfree.2.2)

theorem canonical_foldl {pairs : List (List Char)} {params : Params} (h : Canonical params)
    (hfree : ∀ pair ∈ pairs, '&' ∉ pair) : Canonical (pairs.foldl addPair params) := by
  induction pairs generalizing params with
  | nil => exact h
  | cons pair rest ih =>
    have hstep := h.addPair (hfree pair List.mem_cons_self)
    exact ih hstep fun p hp => hfree p (List.mem_cons_of_mem pair hp)

theorem canonical_read (query : List Char) : Canonical (read query) :=
  canonical_foldl canonical_nil fun _ => not_mem_of_mem_pieces

def pairChars (p : String × String) : List Char := p.1.toList ++ '=' :: p.2.toList

def queryChars (params : Params) : List Char := ['&'].intercalate (params.map pairChars)

theorem CanonicalPair.not_mem_pairChars {p : String × String} (h : CanonicalPair p) :
    '&' ∉ pairChars p := by
  simp [pairChars, h.key_free, h.value_free]

theorem CanonicalPair.noBlankLast_pairChars {p : String × String} (h : CanonicalPair p) :
    NoBlankLast (pairChars p) :=
  h.key_trimmed.last.append (h.value_trimmed.last.cons (by decide))

theorem noBlankLast_queryChars {params : Params} (h : ∀ p ∈ params, CanonicalPair p) :
    NoBlankLast (queryChars params) := by
  unfold queryChars
  induction params with
  | nil => exact noBlankLast_nil
  | cons p rest ih =>
    have hp := (h p List.mem_cons_self).noBlankLast_pairChars
    have hrest := ih fun q hq => h q (List.mem_cons_of_mem p hq)
    cases rest with
    | nil => rwa [List.map_cons, List.map_nil, List.intercalate_singleton]
    | cons q more =>
      rw [List.map_cons, List.map_cons, List.intercalate_cons_cons, ← List.map_cons]
      exact (hp.append (noBlankLast_singleton (by decide))).append hrest

theorem addPair_pairChars {params : Params} {p : String × String} (h : CanonicalPair p)
    (hnew : p.1 ∉ params.keys) : params.addPair (pairChars p) = params ++ [p] := by
  unfold addPair pairChars
  simp only [cut?_append h.key_end, h.key_trimmed.trim_eq, h.value_trimmed.trim_eq, h.key_lower,
    if_neg h.key_ne_nil, String.ofList_toList]
  exact if_neg hnew

theorem foldl_addPair_pairChars {done params : Params} (hnodup : (keys (done ++ params)).Nodup)
    (h : ∀ p ∈ params, CanonicalPair p) :
    (params.map pairChars).foldl addPair done = done ++ params := by
  induction params generalizing done with
  | nil => exact (List.append_nil done).symm
  | cons p rest ih =>
    have hnew : p.1 ∉ done.keys := by
      simp only [keys, List.map_append, List.map_cons, List.nodup_append] at hnodup
      exact fun hmem => hnodup.2.2 p.1 hmem p.1 List.mem_cons_self rfl
    have hassoc : done ++ p :: rest = (done ++ [p]) ++ rest := by simp
    rw [hassoc] at hnodup ⊢
    rw [List.map_cons, List.foldl_cons, addPair_pairChars (h p List.mem_cons_self) hnew]
    exact ih hnodup fun q hq => h q (List.mem_cons_of_mem p hq)

theorem read_queryChars {params : Params} (h : Canonical params) :
    read (queryChars params) = params := by
  by_cases hne : params = []
  · rw [hne]
    rfl
  · have hpieces : pieces '&' (queryChars params) = params.map pairChars := by
      refine pieces_intercalate (by simpa using hne) fun pair hpair => ?_
      obtain ⟨p, hp, rfl⟩ := List.mem_map.mp hpair
      exact (h.pairs p hp).not_mem_pairChars
    rw [read, hpieces]
    exact foldl_addPair_pairChars h.nodup h.pairs

end Params
end WindSymbols
