import WindSymbols.Text.Cut
import WindSymbols.Text.Name

/-!
The parameters of a locator in the order of their first mention. A later value for a key replaces
the earlier one in its place. The main statements are `get?_insert` and `nodup_keys_insert`.
-/

namespace WindSymbols

open Text

abbrev Params := List (String × String)

namespace Params

def keys (params : Params) : List String := params.map (·.1)

def get? (params : Params) (key : String) : Option String := params.lookup key

def insert (params : Params) (key value : String) : Params :=
  if key ∈ params.keys then
    params.map fun p => if p.1 = key then (key, value) else p
  else
    params ++ [(key, value)]

theorem keys_insert (params : Params) (key value : String) :
    (params.insert key value).keys =
      if key ∈ params.keys then params.keys else params.keys ++ [key] := by
  rw [insert]
  split
  · simp only [keys, List.map_map]
    refine List.map_congr_left fun p _ => ?_
    simp only [Function.comp_apply]
    split <;> simp_all
  · simp [keys]

theorem nodup_keys_insert {params : Params} (h : params.keys.Nodup) (key value : String) :
    (params.insert key value).keys.Nodup := by
  rw [keys_insert]
  split
  · exact h
  · rename_i hk
    simp [List.nodup_append, h]
    exact fun a ha heq => hk (heq ▸ ha)

theorem get?_cons (p : String × String) (rest : Params) (key : String) :
    get? (p :: rest) key = if key = p.1 then some p.2 else get? rest key := by
  obtain ⟨first, value⟩ := p
  by_cases h : key = first
  · simp [get?, h]
  · simp [get?, List.lookup_cons, beq_eq_false_iff_ne.mpr h, h]

theorem get?_eq_none_iff {params : Params} {key : String} :
    params.get? key = none ↔ key ∉ params.keys := by
  induction params with
  | nil => simp [get?, keys]
  | cons p rest ih =>
    rw [get?_cons]
    by_cases h : key = p.1
    · simp [keys, h]
    · simp [keys, h, ih]

theorem get?_append (a b : Params) (key : String) :
    get? (a ++ b) key = (a.get? key).or (b.get? key) := by
  induction a with
  | nil => rfl
  | cons p rest ih =>
    rw [List.cons_append, get?_cons, get?_cons, ih]
    split <;> rfl

theorem get?_replace (params : Params) (key value other : String) :
    get? (params.map fun p => if p.1 = key then (key, value) else p) other =
      if other = key then (params.get? key).map fun _ => value else params.get? other := by
  induction params with
  | nil => simp [get?]
  | cons p rest ih =>
    rw [List.map_cons, get?_cons, ih, get?_cons, get?_cons]
    by_cases hp : p.1 = key
    · by_cases ho : other = key <;> simp [hp, ho]
    · by_cases ho : other = key
      · simp [hp, ho, Ne.symm hp]
      · simp [hp, ho]

theorem get?_insert (params : Params) (key value other : String) :
    (params.insert key value).get? other =
      if other = key then some value else params.get? other := by
  rw [insert]
  split
  · rename_i hk
    obtain ⟨old, hold⟩ := Option.ne_none_iff_exists'.mp (mt get?_eq_none_iff.mp (not_not_intro hk))
    rw [get?_replace, hold]
    rfl
  · rename_i hk
    rw [get?_append, get?_cons]
    by_cases ho : other = key
    · simp [ho, get?_eq_none_iff.mpr hk]
    · simp [ho, get?]

def ofList (pairs : List (String × String)) : Params :=
  pairs.foldl (fun params p => params.insert p.1 p.2) []

def same (a b : Params) : Bool :=
  a.length = b.length && a.all fun p => b.get? p.1 = some p.2

/-- Keys are lower-cased. A pair without `=` or with a blank key says nothing. -/
def addPair (params : Params) (pair : List Char) : Params :=
  match cut? ['='] pair with
  | none => params
  | some (key, value) =>
    if trim key = [] then params
    else params.insert (.ofList (lower (trim key))) (.ofList (trim value))

def read (query : List Char) : Params := (pieces '&' query).foldl addPair []

/-- Keys that ask for the southern side; the second is a misspelling that styles still carry. -/
def hemisphereKeys : List String := ["hemisphere", "emisphere"]

/-- Whether barbs are to be drawn as in the southern hemisphere. Keys are compared in lower case,
and of two keys that differ in case alone the later one counts. -/
def southern (params : Params) : Bool :=
  let lowered := ofList (params.map fun p => (lowerText p.1, p.2))
  hemisphereKeys.any fun key =>
    match lowered.get? key with
    | some value => nameKey value = "s"
    | none => false

end Params
end WindSymbols
