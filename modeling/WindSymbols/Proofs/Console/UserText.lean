import WindSymbols.Proofs.Console.BucketTable
import WindSymbols.Proofs.Console.LocatorRows
import WindSymbols.Proofs.Console.Verbatim
import WindSymbols.Proofs.Icon.FailedExport

/-! Texts of the user in what is printed. Locators and the causes of failures are escaped, but names
of sets and the directory of an export are printed as they are, so that a tag in them is lost
(`Command.run_table_of_bracketed_name`). For each of these texts it is told when it is shown
unaltered (`Command.shows_user_text_iff`). -/

namespace WindSymbols

open Markup

namespace Report

def unknownLead : String := "Error: Unknown windbarb symbol set: "

def savedLead : String := "Files saved to: "

theorem getLast?_quoted (s : String) : (Text.quoted s).toList.getLast? ≠ some '\\' := by
  have hquote : Text.quoteFor s.toList ≠ '\\' := by
    unfold Text.quoteFor
    split <;> decide
  rw [Text.quoted, String.toList_ofList, Text.quotedChars, List.getLast?_concat]
  simpa using hquote

theorem plain_unknownSet_iff (name : String) :
    plain ("[red]Error: " ++ (SymbolError.unknownSet name).message ++ "[/]") =
        .ok (unknownLead ++ Text.quoted name) ↔ Verbatim (Text.quoted name) := by
  have hmessage : "[red]Error: " ++ (SymbolError.unknownSet name).message =
      "[red]Error: " ++ "Unknown windbarb symbol set: " ++ Text.quoted name :=
    String.append_assoc.symm
  have hopening : ("[red]Error: " ++ "Unknown windbarb symbol set: ").toList =
      '[' :: "red".toList ++ ']' :: unknownLead.toList := by decide
  rw [hmessage, plain_styled_iff isStyle_red (by decide) hopening]
  exact and_iff_left (getLast?_quoted name)

theorem plain_saved_iff (directory : String) :
    plain ("[dim]Files saved to: " ++ directory ++ "[/]") = .ok (savedLead ++ directory) ↔
      Verbatim directory ∧ directory.toList.getLast? ≠ some '\\' :=
  plain_styled_iff isStyle_dim (by decide) (by decide)

theorem shownRow_zero [UnitLibrary] (r : Registry) (text : String) :
    (shownRow r text)[0]? = some (escapedShown text) := by
  unfold shownRow
  obtain ⟨res, hok⟩ | ⟨e, -, herror⟩ := r.resolve_cases (some text)
  · rw [hok]
    rfl
  · rw [herror]
    rfl

theorem plain_line (body : String) :
    (Printed.line body).plain = (plain body).map Printed.line := by
  simp only [Printed.plain]
  cases plain body <;> rfl

theorem isStyle_boldGreen : IsStyle "bold green".toList :=
  ⟨fun _ => rfl, ⟨"bold green", none⟩, rfl, applyTag_closing (by simp)⟩

theorem exists_plainChars_styled {style before lead rest : List Char} (hstyle : IsStyle style)
    (hbefore : isLead before = true) (hlead : isLead lead = true) (hrest : '[' ∉ rest) :
    ∃ out, plainChars (before ++ '[' :: style ++ ']' :: (lead ++ (closing ++ rest))) = .ok out := by
  have hclosing : pieces 0 (closing ++ rest) = ([], [.tag ['/'], .shown rest]) := by
    have htag : tag? ('/' :: ']' :: rest) = some (['/'], rest) := rfl
    rw [closing, List.cons_append, List.cons_append, List.cons_append, List.nil_append,
      pieces_tag htag, pieces_of_no_bracket hrest]
    rfl
  obtain ⟨-, opened, hopen, hclose⟩ := id hstyle
  unfold plainChars
  rw [List.append_assoc, List.cons_append, pieces_lead hbefore, ← List.cons_append,
    pieces_styled hstyle hlead, hclosing]
  simp only [shown, hopen, hclose, ok_bind, Except.map]
  exact ⟨_, rfl⟩

theorem exists_plain_success (count : Nat) : ∃ t, (successLine count).plain = .ok (.line t) := by
  have hopening : "\n[bold green]Success![/] ".toList =
      "\n".toList ++ '[' :: "bold green".toList ++ ']' ::
        ("Success!".toList ++ (closing ++ [' '])) := by decide
  have hrest : '[' ∉ ' ' :: (integerText count ++ " icons written").toList := by
    have hcount : '[' ∉ (integerText count).toList :=
      (numeric_integerText count).not_mem (by decide)
    simp [String.toList_append, hcount]
  have hchars : ("\n[bold green]Success![/] " ++ integerText count ++ " icons written").toList =
      "\n".toList ++ '[' :: "bold green".toList ++ ']' :: ("Success!".toList ++
        (closing ++ ' ' :: (integerText count ++ " icons written").toList)) := by
    rw [String.append_assoc, String.toList_append, hopening]
    simp only [List.cons_append, List.append_assoc, List.nil_append]
  obtain ⟨out, hout⟩ := exists_plainChars_styled isStyle_boldGreen
    (show isLead "\n".toList = true by decide) (show isLead "Success!".toList = true by decide)
    hrest
  refine ⟨.ofList out, ?_⟩
  rw [successLine, plain_line, plain, hchars, hout]
  rfl

end Report

namespace Command

def EndsWithLine (result : Except CommandFault Outcome) (exit : Nat) (text : String) : Prop :=
  ∃ outcome, result = .ok outcome ∧ outcome.exit = exit ∧
    outcome.printed.getLast? = some (Printed.line text)

theorem endsWithLine_printing_iff {before shown : List Printed}
    (h : before.mapM Printed.plain = .ok shown) (outcome : Outcome) (body text : String) :
    EndsWithLine (printing outcome (before ++ [Printed.line body])) outcome.exit text ↔
      plain body = .ok text := by
  have hitems : (before ++ [Printed.line body]).mapM Printed.plain =
      (plain body).map fun t => shown ++ [Printed.line t] := by
    rw [List.mapM_append, h, ok_bind, List.mapM_cons, List.mapM_nil, Report.plain_line]
    cases plain body <;> rfl
  rw [printing, hitems]
  cases plain body with
  | error fault =>
    constructor
    · rintro ⟨_, h, -⟩
      cases h
    · intro h
      cases h
  | ok t =>
    constructor
    · rintro ⟨_, h, -, hlast⟩
      cases h
      simpa using hlast
    · intro ht
      cases ht
      exact ⟨_, rfl, rfl, by simp⟩

end Command

namespace Arguments

def setName (a : Arguments) : String := (a.value? "set").getD standardName

def output (a : Arguments) : Location :=
  ((a.value? "output").map Location.ofString).getD assetsDirectory

end Arguments

namespace Command

variable {r : Registry} {a : Arguments}

theorem table_unknown_iff (ha : a.operands = []) {e : SymbolError}
    (he : r.get a.setName = .error e) :
    EndsWithLine (table r a) failed (Report.unknownLead ++ Text.quoted a.setName) ↔
      Verbatim (Text.quoted a.setName) := by
  obtain ⟨rfl, -⟩ := Registry.get_eq_error_iff.mp he
  have htable : table r a = printing { exit := failed }
      ([] ++ [Report.errorLine (.unknownSet a.setName)]) := by
    unfold Arguments.setName at he
    rw [table, if_neg (not_not_intro ha), he]
    rfl
  rw [htable, Report.errorLine, endsWithLine_printing_iff rfl]
  exact Report.plain_unknownSet_iff a.setName

theorem table_title_iff (ha : a.operands = []) {s : SymbolSet} (hs : r.get a.setName = .ok s) :
    (∃ outcome rows rest, table r a = .ok outcome ∧ outcome.exit = succeeded ∧
        outcome.printed = .table ("Symbol set: " ++ s.name) Report.setColumns rows :: rest) ↔
      Verbatim s.name := by
  have hlead : plain ("Symbol set: " ++ s.name) = .ok ("Symbol set: " ++ s.name) ↔
      Verbatim s.name := plain_lead_iff (by decide)
  cases htitle : plain ("Symbol set: " ++ s.name) with
  | error fault =>
    rw [htitle] at hlead
    rw [table_of_fault ha hs htitle, ← hlead]
    constructor
    · rintro ⟨_, _, _, h, -⟩
      cases h
    · nofun
  | ok title =>
    rw [htitle, Except.ok.injEq] at hlead
    obtain ⟨panel, htable⟩ := table_of_plain ha hs htitle
    rw [htable, ← hlead]
    constructor
    · rintro ⟨_, rows, rest, h, -, hprinted⟩
      cases h
      cases hprinted
      rfl
    · rintro rfl
      exact ⟨_, _, _, rfl, rfl, rfl⟩

theorem smallestIcon_le {size : Int} (h : iconSizeFor? a = some size) : smallestIcon ≤ size := by
  unfold iconSizeFor? at h
  split at h
  · cases h
    decide
  · obtain ⟨n, -, hn⟩ := Option.bind_eq_some_iff.mp h
    split at hn
    · rename_i hle
      cases hn
      exact hle
    · cases hn

section

variable {directory : String} {size : Int} (ha : a.operands = [])
  (hsize : iconSizeFor? a = some size) (houtput : a.output.check = .ok ())

include ha hsize houtput

theorem exportIcons_eq :
    exportIcons r directory a =
      match (r.exportIcons a.setName size (a.has "southern")).files with
      | .ok files =>
        printing { exit := succeeded, files := files.map (⟨a.output, ·⟩) }
          [Report.successLine files.length, Report.savedLine (a.output.absoluteText directory)]
      | .error (.symbol error) => printing { exit := failed } [Report.errorLine error]
      | .error (.tooSmall _) => .ok { exit := failed } := by
  have hcheck : (a.output.check.mapError CommandFault.location) = .ok () := by
    rw [houtput]
    rfl
  unfold Arguments.output at hcheck
  rw [exportIcons, hsize]
  simp only [ha, ne_eq, not_true_eq_false, if_false, hcheck, ok_bind]
  rfl

theorem exportIcons_unknown_iff {e : SymbolError} (he : r.get a.setName = .error e) :
    EndsWithLine (exportIcons r directory a) failed
        (Report.unknownLead ++ Text.quoted a.setName) ↔
      Verbatim (Text.quoted a.setName) := by
  have hfiles : (r.exportIcons a.setName size (a.has "southern")).files =
      .error (.symbol (.unknownSet a.setName)) :=
    (r.files_eq_error_iff _ _ _ _).mpr
      (.inr ⟨smallestIcon_le hsize, (Registry.get_eq_error_iff.mp he).2, rfl⟩)
  have hbefore : ([] : List Printed).mapM Printed.plain = .ok [] := rfl
  rw [exportIcons_eq ha hsize houtput, hfiles]
  exact (endsWithLine_printing_iff hbefore _ _ _).trans (Report.plain_unknownSet_iff a.setName)

theorem exportIcons_saved_iff {s : SymbolSet} (hs : r.get a.setName = .ok s) :
    EndsWithLine (exportIcons r directory a) succeeded
        (Report.savedLead ++ a.output.absoluteText directory) ↔
      Verbatim (a.output.absoluteText directory) ∧
        (a.output.absoluteText directory).toList.getLast? ≠ some '\\' := by
  obtain ⟨hmem, hname⟩ := Registry.get_eq_ok hs
  obtain ⟨files, hfiles⟩ :
      ∃ files, (r.exportIcons a.setName size (a.has "southern")).files = .ok files := by
    cases hfiles : (r.exportIcons a.setName size (a.has "southern")).files with
    | ok files => exact ⟨files, rfl⟩
    | error error =>
      have hle := smallestIcon_le hsize
      rcases (r.files_eq_error_iff _ _ _ _).mp hfiles with ⟨hlt, -⟩ | ⟨-, hunknown, -⟩
      · omega
      · exact absurd hname (hunknown s hmem)
  obtain ⟨first, hfirst⟩ := Report.exists_plain_success files.length
  have hbefore : [Report.successLine files.length].mapM Printed.plain = .ok [.line first] := by
    rw [List.mapM_cons, hfirst]
    rfl
  rw [exportIcons_eq ha hsize houtput, hfiles]
  exact (endsWithLine_printing_iff hbefore _ _ _).trans (Report.plain_saved_iff _)

end

/-- When the texts of the user are shown unaltered. Each locator stands in its own row, with the
cause if it has no symbol, in which the unit library may have its own words; both are escaped. The
name of an unknown set is told in quotes by the commands for tables and for exports, which fail. The
name of a known one is in the title of its table, and the last line of an export tells its
directory. These three are not escaped. -/
theorem shows_user_text_iff [UnitLibrary] (r : Registry) (directory : String) (a : Arguments) :
    (a.operands ≠ [] →
      resolve r a = .ok { exit := succeeded, printed :=
          [.table "Wind Barbs" Report.locatorColumns (a.operands.map (Report.shownRow r))] } ∧
        ∀ text ∈ a.operands,
          ((Report.shownRow r text)[0]? = some text ↔ Protected text) ∧
          ∀ e, r.resolve (some text) = .error (.symbol e) →
            ((Report.shownRow r text)[4]? = some e.message ↔ Protected e.message)) ∧
      (a.operands = [] →
        (∀ e, r.get a.setName = .error e →
          (EndsWithLine (table r a) failed (Report.unknownLead ++ Text.quoted a.setName) ↔
            Verbatim (Text.quoted a.setName))) ∧
        (∀ s, r.get a.setName = .ok s →
          ((∃ outcome rows rest, table r a = .ok outcome ∧ outcome.exit = succeeded ∧
              outcome.printed = .table ("Symbol set: " ++ s.name) Report.setColumns rows :: rest) ↔
            Verbatim s.name)) ∧
        ∀ size, iconSizeFor? a = some size → a.output.check = .ok () →
          (∀ e, r.get a.setName = .error e →
            (EndsWithLine (exportIcons r directory a) failed
                (Report.unknownLead ++ Text.quoted a.setName) ↔
              Verbatim (Text.quoted a.setName))) ∧
          ∀ s, r.get a.setName = .ok s →
            (EndsWithLine (exportIcons r directory a) succeeded
                (Report.savedLead ++ a.output.absoluteText directory) ↔
              Verbatim (a.output.absoluteText directory) ∧
                (a.output.absoluteText directory).toList.getLast? ≠ some '\\')) := by
  refine ⟨fun ha => ⟨resolve_eq r ha, fun text _ => ⟨?_, ?_⟩⟩, fun ha => ⟨?_, ?_, ?_⟩⟩
  · rw [Report.shownRow_zero, Option.some.injEq, escapedShown_eq_iff]
  · intro e he
    have hcause : (Report.shownRow r text)[4]? = some (escapedShown e.message) := by
      rw [Report.shownRow, he]
      rfl
    rw [hcause, Option.some.injEq, escapedShown_eq_iff]
  · exact fun e he => table_unknown_iff ha he
  · exact fun s hs => table_title_iff ha hs
  · intro size hsize houtput
    exact ⟨fun e he => exportIcons_unknown_iff ha hsize houtput he,
      fun s hs => exportIcons_saved_iff ha hsize houtput hs⟩

/-- A library that is asked for a temperature in knots. -/
@[reducible] def kelvinLibrary : UnitLibrary :=
  ⟨fun _ => "Cannot convert from 'kelvin' ([temperature]) to 'knot' ([length] / [time])"⟩

/-- The words of the library have brackets in them, which are escaped. -/
def kelvinMessage : String :=
  "The supplied unit isn't currently supported: 'K' " ++
    "(Cannot convert from 'kelvin' ([temperature]) to 'knot' ([length] / [time]))"

theorem exists_resolve_kelvin :
    letI := kelvinLibrary
    ∃ e, Registry.initial.resolve (some "windbarbs://default(15)[K]") = .error (.symbol e) ∧
      e.message = kelvinMessage := by
  let _ := kelvinLibrary
  have hread : Locator.read (some "windbarbs://default(15)[K]") =
      .ok ⟨"default", 15, "K", [], "windbarbs://default(15)[K]"⟩ := by decide +kernel
  obtain ⟨set, -, -, -, hget⟩ := Registry.exists_get_initial
  have hmeasure : Velocity.measure? "K".toList = none := by decide +kernel
  have hunit := knotsFactor_of_unknown (by decide) (by decide) (by decide) hmeasure
  exact ⟨_, (Registry.Refused.unsupportedUnit hread hget hunit).resolve_eq, by decide +kernel⟩

theorem shows_plain_user_text :
    letI := kelvinLibrary
    resolve Registry.initial ⟨[], ["windbarbs://default(15)[K]"]⟩ =
        .ok { exit := succeeded, printed := [.table "Wind Barbs" Report.locatorColumns
          [Report.shownRow Registry.initial "windbarbs://default(15)[K]"]] } ∧
      (Report.shownRow Registry.initial "windbarbs://default(15)[K]")[0]? =
        some "windbarbs://default(15)[K]" ∧
      (Report.shownRow Registry.initial "windbarbs://default(15)[K]")[4]? = some kelvinMessage ∧
      EndsWithLine (table Registry.initial ⟨[("set", "nosuch")], []⟩) failed
        "Error: Unknown windbarb symbol set: 'nosuch'" ∧
      EndsWithLine (exportIcons Registry.initial "/srv" ⟨[("set", "nosuch")], []⟩) failed
        "Error: Unknown windbarb symbol set: 'nosuch'" ∧
      (∃ outcome rows rest, table Registry.initial ⟨[], []⟩ = .ok outcome ∧
        outcome.exit = succeeded ∧
        outcome.printed = .table "Symbol set: default" Report.setColumns rows :: rest) ∧
      EndsWithLine (exportIcons Registry.initial "/srv" ⟨[], []⟩) succeeded
        "Files saved to: /srv/../assets/wind-barbs" := by
  let _ := kelvinLibrary
  obtain ⟨e, hresolve, hmessage⟩ := exists_resolve_kelvin
  have hunknown : Registry.initial.get "nosuch" = .error (.unknownSet "nosuch") :=
    Registry.get_initial_eq_error (by decide)
  obtain ⟨set, -, hname, -, hget⟩ := Registry.exists_get_initial
  obtain ⟨hlocators, -⟩ :=
    shows_user_text_iff Registry.initial "/srv" ⟨[], ["windbarbs://default(15)[K]"]⟩
  obtain ⟨hrows, hcells⟩ := hlocators (List.cons_ne_nil _ _)
  obtain ⟨htext, hcause⟩ := hcells _ List.mem_cons_self
  obtain ⟨-, hnosuch⟩ :=
    shows_user_text_iff Registry.initial "/srv" ⟨[("set", "nosuch")], []⟩
  have hset : Arguments.setName ⟨[("set", "nosuch")], []⟩ = "nosuch" := by decide
  have hquoted : Text.quoted "nosuch" = "'nosuch'" := by decide +kernel
  have hline : Report.unknownLead ++ "'nosuch'" =
      "Error: Unknown windbarb symbol set: 'nosuch'" := by decide
  have hplain : Verbatim "'nosuch'" :=
    .of_count (by decide) (by decide) (by decide) (by decide)
  rw [hset, hquoted, hline] at hnosuch
  obtain ⟨htold, -, hexport⟩ := hnosuch rfl
  obtain ⟨-, hstandard⟩ := shows_user_text_iff Registry.initial "/srv" ⟨[], []⟩
  obtain ⟨-, htitle, hsaved⟩ := hstandard rfl
  have htitle := htitle set hget
  have hplace : (Arguments.output ⟨[], []⟩).check = .ok () := by decide
  have habsolute : (Arguments.output ⟨[], []⟩).absoluteText "/srv" =
      "/srv/../assets/wind-barbs" := by decide
  have hlead : Report.savedLead ++ "/srv/../assets/wind-barbs" =
      "Files saved to: /srv/../assets/wind-barbs" := by decide
  rw [habsolute, hlead] at hsaved
  have hcause := hcause e hresolve
  rw [hmessage] at hcause
  rw [hname] at htitle
  have hlocator : Protected "windbarbs://default(15)[K]" :=
    .of_count (by decide) (by decide) (by decide) (by decide)
  have hkelvin : Protected kelvinMessage := by
    obtain ⟨hending, hbrackets, hcolons, hvisible⟩ :
        endsInBackslash kelvinMessage.toList = false ∧
          hasStray false kelvinMessage.toList = false ∧ kelvinMessage.toList.count ':' ≤ 1 ∧
          kelvinMessage.toList.all (!isControl ·) = true := by decide +kernel
    exact .of_count hending hbrackets hcolons hvisible
  have hname : Verbatim standardName := .of_count (by decide) (by decide) (by decide) (by decide)
  have hdirectory : Verbatim "/srv/../assets/wind-barbs" :=
    .of_count (by decide) (by decide) (by decide) (by decide)
  exact ⟨hrows, htext.mpr hlocator, hcause.mpr hkelvin, (htold _ hunknown).mpr hplain,
    ((hexport 64 rfl hplace).1 _ hunknown).mpr hplain, htitle.mpr hname,
    ((hsaved 64 rfl hplace).2 set hget).mpr ⟨hdirectory, by decide⟩⟩

/-- A name in brackets is taken for a tag, and what is shown of it is the rest. -/
theorem run_table_of_bracketed_name :
    Registry.initial.get "[bold]x" = .error (.unknownSet "[bold]x") ∧
      run Registry.initial "" ["table", "--set", "[bold]x"] = .ok { exit := failed, printed :=
        [.line "Error: Unknown windbarb symbol set: 'x'"] } ∧
      ¬ (Text.quoted "[bold]x").toList <:+:
        "Error: Unknown windbarb symbol set: 'x'".toList := by
  have hunknown : Registry.initial.get "[bold]x" = .error (.unknownSet "[bold]x") :=
    Registry.get_initial_eq_error (by decide)
  have hquoted : Text.quoted "[bold]x" = "'[bold]x'" := by decide +kernel
  have hline : (Report.errorLine (.unknownSet "[bold]x")).plain =
      .ok (.line "Error: Unknown windbarb symbol set: 'x'") := by
    have hplain : plain ("[red]Error: " ++ (SymbolError.unknownSet "[bold]x").message ++ "[/]") =
        .ok "Error: Unknown windbarb symbol set: 'x'" := by decide +kernel
    rw [Report.errorLine, Report.plain_line, hplain]
    rfl
  have hname : (Arguments.value? ⟨[("set", "[bold]x")], []⟩ "set").getD standardName =
      "[bold]x" := by decide
  refine ⟨hunknown, ?_, ?_⟩
  · rw [run_table_of_set, table, if_neg (by decide), hname, hunknown]
    simp only [printing, List.mapM_cons, List.mapM_nil, hline]
    rfl
  · rw [hquoted]
    decide

end Command
end WindSymbols
