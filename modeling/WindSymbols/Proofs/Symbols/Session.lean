import WindSymbols.Proofs.Symbols.Reachable
import WindSymbols.Symbols.Resolution

/-! Registries over whole sessions. A session is a list of requests, of which only a registration
that succeeds changes the registry (`perform_eq_self`). After any session a name is answered with
the set of the last registration that succeeded under its key (`get_run`), and the set that is
there from the start is never replaced (`get_standardName_run`). -/

namespace WindSymbols

open Text

inductive Request
  | register (name : String) (profile : Profile) (replace : Bool)
  | get (name : String)
  | names
  | classify (set : String) (knots : Binary64)
  | lookup (set : String) (bucket : Bucket)
  | resolve (text : Option String)

inductive Answer
  | set (s : SymbolSet)
  | names (names : List String)
  | bucket (b : Bucket)
  | glyph (g : Glyph)
  | resolved (r : Resolved)

inductive RequestFailure
  | registry (error : RegistryError)
  | symbol (failure : SymbolFailure)

def Request.isRead : Request → Bool
  | register .. => false
  | _ => true

namespace Registry

theorem nameKey_standardName : nameKey standardName = standardName := by decide

def withSet (r : Registry) (name : String) (f : SymbolSet → Except SymbolFailure Answer) :
    Except RequestFailure Answer := do
  let s ← (r.get name).mapError fun e => .symbol (.symbol e)
  (f s).mapError .symbol

section

variable [UnitLibrary]

def perform (r : Registry) : Request → Except RequestFailure Answer × Registry
  | .register name p replace =>
    match r.register name p replace with
    | .ok (s, after) => (.ok (.set s), after)
    | .error e => (.error (.registry e), r)
  | .get name => (r.withSet name fun s => .ok (.set s), r)
  | .names => (.ok (.names r.names), r)
  | .classify name knots => (r.withSet name fun s => .ok (.bucket (s.classify knots)), r)
  | .lookup name bucket => (r.withSet name fun s => (s.lookup bucket).map .glyph, r)
  | .resolve text => (((r.resolve text).map .resolved).mapError .symbol, r)

def run (r : Registry) (requests : List Request) : Registry :=
  requests.foldl (fun r q => (r.perform q).2) r

def registration? (r : Registry) : Request → Option (String × SymbolSet)
  | .register name p replace => (r.register name p replace).toOption.map fun done => (name, done.1)
  | _ => none

def registrations (r : Registry) : List Request → List (String × SymbolSet)
  | [] => []
  | q :: rest => (r.registration? q).toList ++ registrations (r.perform q).2 rest

def lastUnder? (name : String) (entries : List (String × SymbolSet)) : Option SymbolSet :=
  (entries.reverse.find? fun e => nameKey e.1 = nameKey name).map (·.2)

def standardRequest : Request := .register standardName .standard false

theorem run_nil (r : Registry) : r.run [] = r := rfl

theorem run_cons (r : Registry) (q : Request) (rest : List Request) :
    r.run (q :: rest) = (r.perform q).2.run rest := rfl

theorem run_append (r : Registry) (a b : List Request) : r.run (a ++ b) = (r.run a).run b :=
  List.foldl_append

theorem perform_register {r after : Registry} {name : String} {p : Profile} {replace : Bool}
    {s : SymbolSet} (h : r.register name p replace = .ok (s, after)) :
    r.perform (.register name p replace) = (.ok (.set s), after) := by
  simp only [perform, h]

theorem perform_register_error {r : Registry} {name : String} {p : Profile} {replace : Bool}
    {e : RegistryError} (h : r.register name p replace = .error e) :
    r.perform (.register name p replace) = (.error (.registry e), r) := by
  simp only [perform, h]

/-- A request that reads, or fails, leaves the registry as it was. -/
theorem perform_eq_self {r : Registry} {q : Request}
    (h : q.isRead = true ∨ ∃ e, (r.perform q).1 = .error e) : (r.perform q).2 = r := by
  cases q with
  | register name p replace =>
    cases hstep : r.register name p replace with
    | ok done =>
      rw [perform_register hstep] at h
      simp [Request.isRead] at h
    | error e => rw [perform_register_error hstep]
  | _ => rfl

theorem Reachable.perform {r : Registry} (hr : Reachable r) (q : Request) :
    Reachable (r.perform q).2 := by
  cases q with
  | register name p replace =>
    cases h : r.register name p replace with
    | ok done =>
      rw [perform_register h]
      exact .register hr h
    | error e =>
      rw [perform_register_error h]
      exact hr
  | _ => exact hr

theorem Reachable.run {r : Registry} (hr : Reachable r) (requests : List Request) :
    Reachable (r.run requests) := by
  induction requests generalizing r with
  | nil => exact hr
  | cons q rest ih => exact ih (hr.perform q)

theorem reachable_iff_exists_run {r : Registry} :
    Reachable r ↔ ∃ requests, initial.run requests = r := by
  constructor
  · intro hr
    induction hr with
    | initial => exact ⟨[], run_nil _⟩
    | @register r after name p replace s _ hstep ih =>
      obtain ⟨requests, rfl⟩ := ih
      refine ⟨requests ++ [.register name p replace], ?_⟩
      rw [run_append, run_cons, perform_register hstep, run_nil]
  · rintro ⟨requests, rfl⟩
    exact Reachable.initial.run requests

end

theorem find?_replace (r : Registry) (s : SymbolSet) (key : String) :
    List.find? (fun t => t.name = key) (r.map fun t => if t.name = s.name then s else t) =
      if s.name = key ∧ s.name ∈ r.map SymbolSet.name then some s
      else List.find? (fun t => t.name = key) r := by
  induction r with
  | nil => simp
  | cons t rest ih =>
    rw [List.map_cons, List.find?_cons, ih, List.find?_cons]
    by_cases hkey : s.name = key
    · by_cases ht : t.name = s.name
      · simp [ht, hkey]
      · have hne : t.name ≠ key := hkey ▸ ht
        simp [hne, hkey, Ne.symm hne]
    · by_cases ht : t.name = s.name
      · simp [ht, hkey]
      · simp [ht, hkey]

theorem find?_publish (r : Registry) (s : SymbolSet) (name : String) :
    (r.publish s).find? name = if s.name = nameKey name then some s else r.find? name := by
  unfold publish find?
  by_cases hmem : s.name ∈ r.map SymbolSet.name
  · rw [if_pos (any_name_iff.mpr hmem), find?_replace]
    simp only [hmem, and_true]
  · rw [if_neg (mt any_name_iff.mp hmem), List.find?_append]
    by_cases hkey : s.name = nameKey name
    · have hnone : List.find? (fun t => t.name = nameKey name) r = none := by
        rw [List.find?_eq_none]
        intro t ht
        rw [decide_eq_true_iff, ← hkey]
        exact fun heq => hmem (heq ▸ List.mem_map_of_mem ht)
      simp [hnone, hkey]
    · simp [hkey]

theorem find?_register {r after : Registry} {name : String} {p : Profile} {replace : Bool}
    {s : SymbolSet} (h : r.register name p replace = .ok (s, after)) (other : String) :
    after.find? other = if nameKey name = nameKey other then some s else r.find? other := by
  obtain ⟨-, hbuild, rfl, -⟩ := register_eq_ok h
  rw [find?_publish, (SymbolSet.build_eq_ok hbuild).1]

theorem get_register {r after : Registry} {name : String} {p : Profile} {replace : Bool}
    {s : SymbolSet} (h : r.register name p replace = .ok (s, after)) (other : String) :
    after.get other = if nameKey name = nameKey other then .ok s else r.get other := by
  rw [get, find?_register h]
  by_cases hkey : nameKey name = nameKey other
  · rw [if_pos hkey, if_pos hkey]
  · rw [if_neg hkey, if_neg hkey, get]

theorem lastUnder?_append (name : String) (a b : List (String × SymbolSet)) :
    lastUnder? name (a ++ b) = (lastUnder? name b).or (lastUnder? name a) := by
  unfold lastUnder?
  rw [List.reverse_append, List.find?_append, Option.map_or]

section

variable [UnitLibrary]

theorem find?_perform (r : Registry) (q : Request) (name : String) :
    (r.perform q).2.find? name =
      (lastUnder? name (r.registration? q).toList).or (r.find? name) := by
  cases q with
  | register given p replace =>
    cases h : r.register given p replace with
    | ok done =>
      rw [perform_register h, find?_register h]
      by_cases hkey : nameKey given = nameKey name <;>
        simp [registration?, h, Except.toOption, lastUnder?, hkey]
    | error e =>
      rw [perform_register_error h]
      simp [registration?, h, Except.toOption, lastUnder?]
  | _ => rfl

/-- After a session a name leads to the set registered last under it, or to the one before. -/
theorem find?_run (r : Registry) (requests : List Request) (name : String) :
    (r.run requests).find? name =
      (lastUnder? name (r.registrations requests)).or (r.find? name) := by
  -- the rest of a session starts from the registry that its first request leaves
  induction requests generalizing r with
  | nil => rfl
  | cons q rest ih =>
    rw [run_cons, ih, find?_perform, registrations, lastUnder?_append, Option.or_assoc]

theorem run_standardRequest : run [] [standardRequest] = initial := by
  obtain ⟨s, hs⟩ := SymbolSet.exists_build_standard standardName
  have hname : standardName ≠ "" := by decide
  have hstep : Registry.register [] standardName .standard false = .ok (s, [s]) := by
    unfold register
    simp only [nameKey_standardName, hs, if_neg hname]
    rfl
  have hinitial : initial = [s] := by
    unfold initial
    rw [hs]
  rw [standardRequest, run_cons, perform_register hstep, hinitial, run_nil]

theorem get_run (requests : List Request) (name : String) :
    (initial.run requests).get name =
      match lastUnder? name (registrations [] (standardRequest :: requests)) with
      | some s => .ok s
      | none => .error (.unknownSet name) := by
  have hrun : initial.run requests = run [] (standardRequest :: requests) := by
    rw [← run_standardRequest, ← run_append, List.singleton_append]
  have hnone : find? [] name = none := rfl
  have hfind : (initial.run requests).find? name =
      lastUnder? name (registrations [] (standardRequest :: requests)) := by
    rw [hrun, find?_run, hnone, Option.or_none]
  cases hlast : lastUnder? name (registrations [] (standardRequest :: requests)) with
  | some s => simp only [get, hfind, hlast]
  | none => simp only [get, hfind, hlast]

/-- While the standard set is there, nothing is registered under its name. -/
theorem find?_standardName_perform {r : Registry} {s : SymbolSet}
    (h : r.find? standardName = some s) (q : Request) :
    (r.perform q).2.find? standardName = some s := by
  have hmem : standardName ∈ r.map SymbolSet.name := by
    have hname : s.name = nameKey standardName := by simpa using List.find?_some h
    rw [← nameKey_standardName, ← hname]
    exact List.mem_map_of_mem (List.mem_of_find?_eq_some h)
  cases q with
  | register name p replace =>
    cases hstep : r.register name p replace with
    | ok done =>
      obtain ⟨-, -, -, hfree⟩ := register_eq_ok hstep
      have hother : nameKey name ≠ nameKey standardName := by
        rw [nameKey_standardName]
        intro heq
        exact (hfree (heq ▸ hmem)).2 heq
      rw [perform_register hstep, find?_register hstep, if_neg hother, h]
    | error e => rw [perform_register_error hstep, h]
  | _ => exact h

theorem find?_standardName_run {r : Registry} {s : SymbolSet}
    (h : r.find? standardName = some s) (requests : List Request) :
    (r.run requests).find? standardName = some s := by
  induction requests generalizing r with
  | nil => exact h
  | cons q rest ih => exact ih (find?_standardName_perform h q)

theorem get_standardName_run (requests : List Request) :
    ∃ s, (initial.run requests).get standardName = .ok s ∧ s.profile = .standard := by
  obtain ⟨s, hinitial, hname, hprofile⟩ := exists_initial
  have hfound : initial.find? standardName = some s := by
    simp [hinitial, find?, hname, nameKey_standardName]
  refine ⟨s, ?_, hprofile⟩
  rw [get, find?_standardName_run hfound]

end

theorem exists_register_iff {r : Registry} {name : String} {p : Profile} {replace : Bool} :
    (∃ s after, r.register name p replace = .ok (s, after)) ↔
      nameKey name ≠ "" ∧ (∃ table, GlyphTable.build p = .ok table) ∧
        (nameKey name ∈ r.map SymbolSet.name → replace = true ∧ nameKey name ≠ standardName) := by
  constructor
  · rintro ⟨s, after, h⟩
    obtain ⟨hblank, hbuild, -, hfree⟩ := register_eq_ok h
    exact ⟨hblank, (SymbolSet.exists_build_iff _ p).mp ⟨s, hbuild⟩, hfree⟩
  · rintro ⟨hblank, hbuilds, hfree⟩
    obtain ⟨s, hs⟩ := (SymbolSet.exists_build_iff (nameKey name) p).mpr hbuilds
    have htaken : (r.any (·.name = nameKey name) &&
        (!replace || nameKey name = standardName)) = false := by
      by_cases hmem : nameKey name ∈ r.map SymbolSet.name
      · simp [(hfree hmem).1, (hfree hmem).2]
      · rw [Bool.eq_false_iff.mpr (mt any_name_iff.mp hmem), Bool.false_and]
    refine ⟨s, r.publish s, ?_⟩
    unfold register
    simp only [if_neg hblank, hs, htaken]
    rfl

theorem mem_names {r : Registry} {key : String} :
    key ∈ r.names ↔ ∃ s ∈ r, s.name = key := by
  rw [names, List.mem_mergeSort, List.mem_map]

theorem names_pairwise_lt {r : Registry} (h : WellNamed r) : r.names.Pairwise (· < ·) := by
  have hsorted : r.names.Pairwise fun a b => decide (a ≤ b) = true := by
    apply List.pairwise_mergeSort
    · intro a b c hab hbc
      rw [decide_eq_true_iff] at *
      exact String.le_trans hab hbc
    · intro a b
      simpa using String.le_total a b
  have hnodup : r.names.Nodup := (List.mergeSort_perm _ _).nodup_iff.mpr h.nodup
  refine (hsorted.and hnodup).imp fun ⟨hle, hne⟩ => ?_
  apply String.not_le.mp
  intro hge
  exact hne (String.le_antisymm (of_decide_eq_true hle) hge)

/-- The registry of any session, at any point of it. Keys are in normal form and unique, tables are
those of their profiles, and the standard set is the standard one. A registration succeeds if and
only if its name is neither blank nor the standard one, its table can be built, and the name is free
or to be replaced; it then changes the answer under this name alone. Nothing else changes anything.
So a name is answered with the set registered last under it, and names are listed in order. -/
theorem registry_of_any_session [UnitLibrary] (requests : List Request) :
    let r := initial.run requests
    run [] [standardRequest] = initial ∧
      WellNamed r ∧
      (∀ s ∈ r, GlyphTable.build s.profile = .ok s.table) ∧
      (∃ s, r.get standardName = .ok s ∧ s.profile = .standard) ∧
      (∀ name p replace, (∃ s after, r.register name p replace = .ok (s, after)) ↔
        nameKey name ≠ "" ∧ nameKey name ≠ standardName ∧
          (∃ table, GlyphTable.build p = .ok table) ∧
          (nameKey name ∈ r.map SymbolSet.name → replace = true)) ∧
      (∀ name p replace s after, r.register name p replace = .ok (s, after) →
        s.name = nameKey name ∧ s.profile = p ∧
          initial.run (requests ++ [.register name p replace]) = after ∧
          ∀ other, after.get other =
            if nameKey name = nameKey other then .ok s else r.get other) ∧
      (∀ q, q.isRead = true ∨ (∃ e, (r.perform q).1 = .error e) →
        initial.run (requests ++ [q]) = r) ∧
      (∀ name, r.get name =
        match lastUnder? name (registrations [] (standardRequest :: requests)) with
        | some s => .ok s
        | none => .error (.unknownSet name)) ∧
      r.names.Pairwise (· < ·) ∧
      ∀ key, key ∈ r.names ↔ ∃ s ∈ r, s.name = key := by
  intro r
  have hwell : WellNamed r := (Reachable.initial.run requests).wellNamed
  have hstandard := get_standardName_run requests
  have hlast (q : Request) : initial.run (requests ++ [q]) = (r.perform q).2 := by
    rw [run_append, run_cons, run_nil]
  refine ⟨run_standardRequest, hwell, fun s _ => s.table_eq, hstandard, ?_, ?_, ?_,
    get_run requests, names_pairwise_lt hwell, fun _ => mem_names⟩
  · intro name p replace
    rw [exists_register_iff]
    have hmem : standardName ∈ r.map SymbolSet.name := by
      obtain ⟨s, hget, -⟩ := hstandard
      obtain ⟨hs, hname⟩ := get_eq_ok hget
      rw [← nameKey_standardName, ← hname]
      exact List.mem_map_of_mem hs
    constructor
    · rintro ⟨hblank, hbuilds, hfree⟩
      exact ⟨hblank, fun heq => (hfree (heq ▸ hmem)).2 heq, hbuilds, fun h => (hfree h).1⟩
    · rintro ⟨hblank, hother, hbuilds, hfree⟩
      exact ⟨hblank, hbuilds, fun h => ⟨hfree h, hother⟩⟩
  · intro name p replace s after h
    obtain ⟨-, hbuild, -, -⟩ := register_eq_ok h
    obtain ⟨hname, hprofile⟩ := SymbolSet.build_eq_ok hbuild
    refine ⟨hname, hprofile, ?_, get_register h⟩
    rw [hlast, perform_register h]
  · intro q h
    rw [hlast, perform_eq_self h]

end Registry
end WindSymbols
