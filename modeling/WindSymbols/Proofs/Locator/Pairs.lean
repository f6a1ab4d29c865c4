import WindSymbols.Proofs.Locator.Query

/-! What the pairs of a query say. Reading a query inserts its pairs one after the other, so reading
two queries joined by `&` updates the parameters of the first with those of the second
(`read_append`), and of the pairs with one key the last one counts (`get?_read`). -/

namespace WindSymbols

open Text

namespace Params

/-- The key of a pair in the form in which keys are compared, and its value as it is written. Text
without `=` or with a blank key is no pair. -/
def pair? (piece : List Char) : Option (String × List Char) :=
  match cut? ['='] piece with
  | none => none
  | some (key, value) => if trim key = [] then none else some (.ofList (lower (trim key)), value)

def pairs (query : List Char) : List (String × List Char) := (pieces '&' query).filterMap pair?

def lastValue? (key : String) (query : List Char) : Option (List Char) :=
  ((pairs query).filter (·.1 = key)).getLast?.map (·.2)

def stored (value : List Char) : String := .ofList (trim value)

def inPlace (a b : Params) : Params := a.map fun p => (p.1, (b.get? p.1).getD p.2)

/-- Parameters updated with others. Keys keep their places, and new ones follow in their order. -/
def update (a b : Params) : Params := a.inPlace b ++ b.filter fun p => p.1 ∉ a.keys

theorem addPair_eq (params : Params) (piece : List Char) :
    params.addPair piece =
      match pair? piece with
      | some p => params.insert p.1 (stored p.2)
      | none => params := by
  unfold addPair pair?
  cases cut? ['='] piece with
  | none => rfl
  | some parts =>
    dsimp only
    split <;> rfl

theorem foldl_addPair (texts : List (List Char)) (params : Params) :
    texts.foldl addPair params =
      (texts.filterMap pair?).foldl (fun params p => params.insert p.1 (stored p.2)) params := by
  induction texts generalizing params with
  | nil => rfl
  | cons piece rest ih =>
    rw [List.foldl_cons, ih, addPair_eq, List.filterMap_cons]
    cases pair? piece <;> rfl

theorem read_eq_ofList (query : List Char) :
    read query = ofList ((pairs query).map fun p => (p.1, stored p.2)) := by
  rw [read, foldl_addPair, ofList, List.foldl_map, pairs]

theorem pairs_append (a b : List Char) : pairs (a ++ '&' :: b) = pairs a ++ pairs b := by
  rw [pairs, pieces_append, List.filterMap_append]
  rfl

theorem update_nil (a : Params) : a.update [] = a := by
  simp [update, inPlace, get?]

theorem mem_keys_iff {params : Params} {key : String} :
    key ∈ params.keys ↔ ∃ p ∈ params, p.1 = key :=
  List.mem_map

theorem replace_of_not_mem {params : Params} {key : String} (h : key ∉ params.keys)
    (value : String) : (params.map fun p => if p.1 = key then (key, value) else p) = params := by
  conv => rhs; rw [← List.map_id params]
  refine List.map_congr_left fun p hp => ?_
  rw [if_neg fun heq => h (mem_keys_iff.mpr ⟨p, hp, heq⟩), id]

theorem insert_append_of_mem {a b : Params} {key : String} (ha : key ∈ a.keys)
    (hb : key ∉ b.keys) (value : String) :
    insert (a ++ b) key value = a.insert key value ++ b := by
  have hmem : key ∈ keys (a ++ b) := by
    rw [keys, List.map_append]
    exact List.mem_append_left _ ha
  rw [insert, if_pos hmem, insert, if_pos ha, List.map_append, replace_of_not_mem hb]

theorem insert_append_of_not_mem {a : Params} {key : String} (ha : key ∉ a.keys) (b : Params)
    (value : String) : insert (a ++ b) key value = a ++ b.insert key value := by
  have hmem : key ∈ keys (a ++ b) ↔ key ∈ b.keys := by
    rw [keys, List.map_append, List.mem_append]
    exact or_iff_right ha
  rw [insert, insert]
  by_cases hb : key ∈ b.keys
  · rw [if_pos (hmem.mpr hb), if_pos hb, List.map_append, replace_of_not_mem ha]
  · rw [if_neg (mt hmem.mp hb), if_neg hb, List.append_assoc]

theorem filter_insert (keep : String → Bool) (params : Params) (key value : String) :
    (params.insert key value).filter (fun p => keep p.1) =
      if keep key = true then insert (params.filter fun p => keep p.1) key value
      else params.filter fun p => keep p.1 := by
  have hmem (hkeep : keep key = true) :
      key ∈ keys (params.filter fun p => keep p.1) ↔ key ∈ params.keys := by
    rw [mem_keys_iff, mem_keys_iff]
    constructor
    · rintro ⟨p, hp, heq⟩
      exact ⟨p, List.mem_of_mem_filter hp, heq⟩
    · rintro ⟨p, hp, rfl⟩
      exact ⟨p, List.mem_filter.mpr ⟨hp, hkeep⟩, rfl⟩
  have hreplace : (params.map fun p => if p.1 = key then (key, value) else p).filter
      (fun p => keep p.1) =
        (params.filter fun p => keep p.1).map fun p => if p.1 = key then (key, value) else p := by
    rw [List.filter_map]
    congr 1
    refine List.filter_congr fun p _ => ?_
    rw [Function.comp_apply]
    split
    · rename_i h
      rw [h]
    · rfl
  by_cases hkeep : keep key = true
  · rw [if_pos hkeep, insert, insert]
    by_cases hkey : key ∈ params.keys
    · rw [if_pos hkey, if_pos ((hmem hkeep).mpr hkey), hreplace]
    · rw [if_neg hkey, if_neg (mt (hmem hkeep).mp hkey), List.filter_append]
      simp [hkeep]
  · have hfree : key ∉ keys (params.filter fun p => keep p.1) := by
      rw [mem_keys_iff]
      rintro ⟨p, hp, rfl⟩
      exact hkeep (List.mem_filter.mp hp).2
    rw [if_neg hkeep, insert]
    split
    · rw [hreplace, replace_of_not_mem hfree]
    · rw [List.filter_append]
      simp [hkeep]

theorem keys_inPlace (a b : Params) : (a.inPlace b).keys = a.keys := by
  simp [inPlace, keys]

theorem inPlace_insert (a b : Params) (key value : String) :
    a.inPlace (b.insert key value) =
      (a.inPlace b).map fun p => if p.1 = key then (key, value) else p := by
  rw [inPlace, inPlace, List.map_map]
  refine List.map_congr_left fun p _ => ?_
  rw [get?_insert, Function.comp_apply]
  by_cases h : p.1 = key <;> simp [h]

theorem insert_update (a b : Params) (key value : String) :
    (a.update b).insert key value = a.update (b.insert key value) := by
  have hkeys := a.keys_inPlace b
  have hfilter := filter_insert (fun k => k ∉ a.keys) b key value
  have hplaces := a.inPlace_insert b key value
  change insert (a.inPlace b ++ b.filter fun p => p.1 ∉ a.keys) key value =
    a.inPlace (b.insert key value) ++ (b.insert key value).filter fun p => p.1 ∉ a.keys
  by_cases ha : key ∈ a.keys
  · have hnew : key ∉ keys (b.filter fun p => p.1 ∉ a.keys) := by
      rw [mem_keys_iff]
      rintro ⟨p, hp, rfl⟩
      simpa [ha] using List.mem_filter.mp hp
    have hin : key ∈ (a.inPlace b).keys := hkeys ▸ ha
    rw [insert_append_of_mem hin hnew, insert, if_pos hin, hplaces, hfilter]
    simp [ha]
  · have hout : key ∉ (a.inPlace b).keys := hkeys ▸ ha
    rw [insert_append_of_not_mem hout, hplaces, replace_of_not_mem hout, hfilter]
    simp [ha]

theorem foldl_insert_update (a b : Params) (more : List (String × String)) :
    more.foldl (fun params p => params.insert p.1 p.2) (a.update b) =
      a.update (more.foldl (fun params p => params.insert p.1 p.2) b) := by
  induction more generalizing b with
  | nil => rfl
  | cons p rest ih => rw [List.foldl_cons, insert_update, ih, List.foldl_cons]

theorem ofList_append (a b : List (String × String)) :
    ofList (a ++ b) = (ofList a).update (ofList b) := by
  have h := foldl_insert_update (ofList a) [] b
  rw [update_nil] at h
  rw [ofList, List.foldl_append]
  exact h

theorem read_append (a b : List Char) : read (a ++ '&' :: b) = (read a).update (read b) := by
  rw [read_eq_ofList, pairs_append, List.map_append, ofList_append, ← read_eq_ofList,
    ← read_eq_ofList]

theorem get?_foldl_insert (list : List (String × String)) (params : Params) (key : String) :
    get? (list.foldl (fun params p => params.insert p.1 p.2) params) key =
      ((list.filter (·.1 = key)).getLast?.map (·.2)).or (params.get? key) := by
  induction list generalizing params with
  | nil => rfl
  | cons p rest ih =>
    rw [List.foldl_cons, ih, get?_insert, List.filter_cons]
    by_cases h : p.1 = key
    · rw [if_pos h.symm, if_pos (decide_eq_true h), List.getLast?_cons]
      cases (rest.filter (·.1 = key)).getLast? <;> rfl
    · rw [if_neg (Ne.symm h), if_neg (by simpa using h)]

theorem get?_read (query : List Char) (key : String) :
    (read query).get? key = (lastValue? key query).map stored := by
  have hstored : ((pairs query).map fun p => (p.1, stored p.2)).filter (·.1 = key) =
      ((pairs query).filter (·.1 = key)).map fun p => (p.1, stored p.2) :=
    List.filter_map
  have hnone : get? [] key = none := rfl
  rw [read_eq_ofList, ofList, get?_foldl_insert, hstored, List.getLast?_map, hnone, Option.or_none,
    lastValue?, Option.map_map, Option.map_map]
  rfl

structure IsKey (key : String) : Prop where
  ne_empty : key ≠ ""
  no_ampersand : '&' ∉ key.toList
  no_equals : '=' ∉ key.toList
  trim_eq : trim key.toList = key.toList
  lower_eq : lower key.toList = key.toList

theorem isKey_of_mem_keys_read {query : List Char} {key : String} (h : key ∈ (read query).keys) :
    IsKey key := by
  obtain ⟨p, hp, rfl⟩ := mem_keys_iff.mp h
  have hpair := (canonical_read query).pairs p hp
  exact ⟨mt String.toList_eq_nil_iff.mpr hpair.key_ne_nil, hpair.key_free, hpair.key_end,
    hpair.key_trimmed.trim_eq, hpair.key_lower⟩

end Params

namespace Locator

namespace Pieces

def front (p : Pieces) : List Char := p.scheme ++ ("://".toList ++ p.body)

theorem not_mem_front (p : Pieces) : '?' ∉ p.front := by
  have hmark : Caseless [('?'.toNat, '?'.toNat)] := by decide +kernel
  have hscheme : '?' ∉ p.scheme := by
    rw [← mem_lower_iff hmark, p.scheme_eq]
    decide
  simp [front, hscheme, p.not_mem_body]

theorem text_eq_front (p : Pieces) : p.text = p.front ++ queryText p.query := by
  simp [text, front]

theorem front_eq {p : Pieces} {front : List Char} {query : Option (List Char)}
    (h : p.text = front ++ queryText query) (hfree : '?' ∉ front) : p.front = front := by
  have hsplit := congrArg splitQuery h
  rw [text_eq_front, splitQuery_append p.not_mem_front, splitQuery_append hfree] at hsplit
  exact (Prod.mk.inj hsplit).1

end Pieces

section Query

variable {front : List Char} {query : Option (List Char)} {l : Locator}

/-- Another query behind the same text says what the parameters are, and nothing else. -/
theorem Denotes.replace_query (h : Denotes (front ++ queryText query) l) (hfree : '?' ∉ front)
    (other : Option (List Char)) :
    Denotes (front ++ queryText other)
      { l with
        params := Params.read (other.getD [])
        text := .ofList (front ++ queryText other) } := by
  obtain ⟨p, unit, lit, htext, hname, hunit, hspeed, rfl⟩ := h
  have hfront := Pieces.front_eq htext.symm hfree
  have hother : ({ p with query := other } : Pieces).text = front ++ queryText other := by
    rw [Pieces.text_eq_front, ← hfront]
    rfl
  have hparams : ({ p with query := other } : Pieces).params = Params.read (other.getD []) :=
    Pieces.params_eq _
  refine ⟨{ p with query := other }, unit, lit, hother.symm, hname, hunit, hspeed, ?_⟩
  rw [hparams]

theorem Denotes.params_eq (h : Denotes (front ++ queryText query) l) (hfree : '?' ∉ front) :
    l.params = Params.read (query.getD []) := by
  have hsame := readChars_of_denotes (h.replace_query hfree query)
  rw [readChars_of_denotes h] at hsame
  exact congrArg LocatorOf.params (Except.ok.inj hsame)

theorem read_of_trim_eq {text : String} {t : List Char} (htext : trim text.toList = t)
    (h : Denotes t l) : read (some text) = .ok l := by
  rw [read_eq_ok_iff, Option.getD_some, htext]
  exact h

end Query

/-- Parameters are folded from the pairs of a query. Joining two queries updates the parameters of
the first with those of the second. No key is twice there, and all are in their normal form. For
every text that is read, the value of a parameter is that of the last pair with its key. -/
theorem params_fold_pairs :
    (∀ a b, Params.read (a ++ '&' :: b) = (Params.read a).update (Params.read b)) ∧
      (∀ query, (Params.read query).keys.Nodup ∧
        ∀ key ∈ (Params.read query).keys, Params.IsKey key) ∧
      ∀ (text : Option String) (l : Locator) (front : List Char) (query : Option (List Char)),
        read text = .ok l → trim (text.getD "").toList = front ++ queryText query →
          '?' ∉ front → ∀ key default,
            l.param key default =
              ((Params.lastValue? (lowerText key) (query.getD [])).map Params.stored).or
                default := by
  refine ⟨Params.read_append, fun query => ?_, fun text l front query hread htext hfree => ?_⟩
  · exact ⟨(Params.canonical_read query).nodup, fun _ => Params.isKey_of_mem_keys_read⟩
  · intro key default
    have hdenotes := read_eq_ok_iff.mp hread
    rw [htext] at hdenotes
    rw [LocatorOf.param, hdenotes.params_eq hfree, Params.get?_read]

/-- The second pair has no key, and the last value of a key stands in the place of its first. -/
theorem params_fold_pairs_of_case :
    ∃ l : Locator, read (some "windbarbs://a(1)[kts]?K=1&=2&x&k = 3 ") = .ok l ∧
      l.params = [("k", "3")] ∧ l.param "K" none = some "3" ∧ l.param "" (some "4") = some "4" := by
  have hread : read (some "windbarbs://a(1)[kts]?K=1&=2&x&k = 3 ") =
      .ok ⟨"a", 1, "kts", [("k", "3")], "windbarbs://a(1)[kts]?K=1&=2&x&k = 3"⟩ := by
    decide +kernel
  have htext : trim "windbarbs://a(1)[kts]?K=1&=2&x&k = 3 ".toList =
      "windbarbs://a(1)[kts]".toList ++ queryText (some "K=1&=2&x&k = 3".toList) := by decide
  have hparam := params_fold_pairs.2.2 _ _ _ _ hread htext (by decide)
  refine ⟨_, hread, rfl, ?_, ?_⟩
  · rw [hparam]
    decide
  · rw [hparam]
    decide

end Locator
end WindSymbols
