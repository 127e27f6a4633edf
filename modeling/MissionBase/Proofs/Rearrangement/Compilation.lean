import MissionBase.Proofs.Course
import MissionBase.Proofs.Policy.Compilation
import MissionBase.Proofs.Rearrangement.Commanding

/-!
# Compilation of rearranged tables

Both stages build the same from rearranged tables, so a compilation that records its errors gives
the same database, the same warnings and the same errors, but for the places that they tell.
-/

namespace MissionBase

open Run Leniency Rearrangement

variable {setting : Setting} {files : Files}

theorem similar_readVersion (h : setting.config.Rearranges setting.files files) :
    Similar Eq (readVersion setting) (readVersion { setting with files := files }) := by
  refine (similar_scanKept h (by decide) (by decide) fun row => ?_).bind fun _ => ?_
  · exact (blind_lift _).bind fun _ => paired_changeStage fun _ _ _ => rfl
  refine paired_stage fun v _ hv => ?_
  subst hv
  cases v with
  | none => exact blind_throw _
  | some version => exact blind_changeDatabase _

/-- **The same is built from rearranged tables.** -/
theorem carries_buildDatabase (hlenient : setting.config.strict = false)
    (h : setting.config.Rearranges setting.files files) (compiler : Option FormulaCompiler) :
    Carries (fun _ _ => True) (fun _ _ => True) (buildDatabase setting compiler)
      (buildDatabase { setting with files := files } compiler) := by
  refine Paired.bind (S := fun _ _ => True) ((similar_readVersion h).carries.within
    (fun _ _ _ => rfl) fun _ _ _ _ _ _ => trivial) fun _ => ?_
  refine Paired.bind (S := fun _ _ => True) ((carries_buildTelemetry hlenient h compiler).within
    (fun _ _ _ => ⟨rfl, rfl⟩) fun _ _ _ _ _ _ => trivial) fun _ => ?_
  exact (carries_buildCommands hlenient h).within
    (fun _ _ _ => ⟨_, _, Registry.Alike.refl _, fun _ => rfl, rfl⟩) fun _ _ _ _ _ _ => trivial

/-- Two compilations that give the same, but for the places of records and the order of errors. -/
def Compiled.Alike (out out' : Compiled) : Prop :=
  out'.database = out.database ∧
    (out.errors.map Error.unplaced).Perm (out'.errors.map Error.unplaced) ∧
    List.Forall₂ Restates out.warnings out'.warnings

/-- What two builds give whose ends match. -/
theorem Rearrangement.Matches.compiled {S E : Unit → Unit → Prop}
    {r r' : EStateM.Result Error (Draft Unit) Unit} (h : Matches S E r r') :
    Agree Compiled.Alike (Compiled.ofEnd r) (Compiled.ofEnd r') := by
  cases h with
  | ok ht => exact .ok ⟨ht.database, ht.errors, ht.warnings⟩
  | error he ht => exact .error he

/-! ## Tables in two orders -/

/-- A name is the last component of its path in a directory. -/
theorem pathComponents_concat (directory : String) {name : String} (hslash : '/' ∉ name.toList)
    (hempty : name ≠ "") (hdot : name ≠ ".") (hdots : name ≠ "..") :
    pathComponents (directory ++ "/" ++ name) = pathComponents directory ++ [name] := by
  have hsplit : (directory ++ "/" ++ name).toList.splitOn '/' =
      directory.toList.splitOn '/' ++ [name.toList] := by
    have hname : name.toList.splitOn '/' = [name.toList] :=
      List.splitOnP_eq_singleton fun c hc => by
        rw [beq_eq_false_iff_ne]
        exact fun h => hslash (h ▸ hc)
    have hlist : (directory ++ "/" ++ name).toList = directory.toList ++ '/' :: name.toList := by
      simp
    rw [hlist, ← hname]
    exact List.splitOnP_append_cons _ _ (beq_self_eq_true '/')
  unfold pathComponents
  dsimp only
  rw [hsplit, List.map_append, List.foldl_append, List.map_singleton, String.ofList_toList]
  simp [hempty, hdot, hdots]

/-- The path of an entry whose name has no slash. -/
theorem joinPath_eq {directory name : String} (hdirectory : directory.isEmpty = false)
    (hend : directory.endsWith "/" = false) (hslash : '/' ∉ name.toList) :
    joinPath directory name = directory ++ "/" ++ name := by
  have hstart : name.startsWith "/" = false := by
    rw [Bool.eq_false_iff]
    intro h
    exact hslash ((String.startsWith_string_iff.mp h).subset (by simp))
  unfold joinPath
  rw [hstart, hdirectory, hend]
  simp

/-- A word is the last component of its path in a directory. -/
theorem pathComponents_word {directory name : String} (hdirectory : directory.isEmpty = false)
    (hend : directory.endsWith "/" = false) (hword : Text.isWord name.toList = true) :
    pathComponents (joinPath directory name) = pathComponents directory ++ [name] := by
  have hchars (c : Char) (hc : c ∈ name.toList) : Text.isWordChar c = true := by
    revert hc hword
    cases name.toList with
    | nil => nofun
    | cons first rest => exact fun hword hc => List.all_eq_true.mp hword c hc
  have hslash : '/' ∉ name.toList := fun hc => absurd (hchars '/' hc) (by decide)
  rw [joinPath_eq hdirectory hend hslash]
  refine pathComponents_concat directory hslash ?_ ?_ ?_ <;> rintro rfl <;>
    revert hword <;> decide

/-- Files of the same paths are read alike where none of them lies. -/
theorem Files.read_congr {files files' : Files}
    (hdirectories : files'.directories = files.directories)
    (hpaths : files'.contents.map (·.1) = files.contents.map (·.1)) {path : String}
    (h : pathComponents path ∉ files.contents.map (·.1)) : files'.read path = files.read path := by
  have hnone {files : Files} (h : pathComponents path ∉ files.contents.map (·.1)) :
      files.contents.find? (fun e => e.1 == pathComponents path) = none := by
    refine List.find?_eq_none.mpr fun e he hpath => h ?_
    exact List.mem_map.mpr ⟨e, he, eq_of_beq hpath⟩
  have hany (p : List String → Bool) (files : Files) :
      (files.contents.any fun e => p e.1) = (files.contents.map (·.1)).any p := by
    rw [List.any_map]
    rfl
  have hholds : files'.holdsDirectory (pathComponents path) =
      files.holdsDirectory (pathComponents path) := by
    unfold holdsDirectory
    rw [hany (fun q => (pathComponents path).isPrefixOf q && q != pathComponents path),
      hany (fun q => (pathComponents path).isPrefixOf q && q != pathComponents path), hpaths,
      hdirectories]
  have hcrosses : files'.crossesFile (pathComponents path) =
      files.crossesFile (pathComponents path) := by
    unfold crossesFile
    rw [hany (fun q => q.isPrefixOf (pathComponents path) && q != pathComponents path),
      hany (fun q => q.isPrefixOf (pathComponents path) && q != pathComponents path), hpaths]
  unfold read
  dsimp only
  rw [hnone h, hnone (hpaths ▸ h), hholds, hcrosses]

theorem Files.paths_ofTables (directory : String) (tables : List (String × String)) :
    (ofTables directory tables).contents.map (·.1) =
      requiredTables.map fun table => [directory, table ++ ".dat"] := by
  unfold ofTables
  rw [List.map_map]
  rfl

/-- The formulas of synthetic parameters are none of the tables. -/
theorem Files.read_formula_ofTables (tables tables' : List (String × String)) {name : String}
    (hword : Text.isWord name.toList = true) :
    (ofTables "m" tables').read (joinPath (joinPath "m" Telemetry.formulaDirectory) name) =
      (ofTables "m" tables).read (joinPath (joinPath "m" Telemetry.formulaDirectory) name) := by
  refine read_congr (by rfl) ?_ fun hmem => ?_
  · rw [paths_ofTables, paths_ofTables]
  -- a path in the directory of formulas has one component more than the path of a table
  rw [paths_ofTables, pathComponents_word (by decide +kernel) (by decide +kernel) hword] at hmem
  obtain ⟨table, -, hpath⟩ := List.mem_map.mp hmem
  have hlength := congrArg List.length hpath
  have hdirectory : (pathComponents (joinPath "m" Telemetry.formulaDirectory)).length = 2 := by
    decide +kernel
  rw [List.length_append, hdirectory] at hlength
  exact absurd hlength (by simp)

/-- Tables with two records of each that is sorted by a key, in one order or in the other. -/
def pairedFiles (inOrder : Bool) : Files :=
  let pair (one two : String) : String := if inOrder then one ++ two else two ++ one
  .ofTables "m" [
    ("vdf", "TEST\n"),
    ("caf", "1\n2\n"),
    ("cap", pair "1\t0\t0.5\n" "2\t0\t1.5\n"),
    ("cur", pair "B\t1\tA\t0\t1\n" "B\t2\tA\t1\t2\n"),
    ("pcf", "A\t\t7\t\t3\t4\t\t\t\tN\tR\nB\t\t8\t\t3\t4\t\t\t\tN\tR\n"),
    ("ocf", "A\t1\t2\tI\tR\n"),
    ("ocp", pair "A\t1\tS\t0\t5\n" "A\t2\tH\t0\t9\n"),
    ("cca", "1\n2\n"),
    ("ccs", pair "1\t0.5\t0\n" "2\t1.5\t0\n"),
    ("cpc", "P\t\t3\t4\nQ\t\t3\t4\n"),
    ("cdf", pair "C\tE\t\t8\t0\t0\tP\n" "C\tE\t\t8\t8\t0\tQ\n"),
    ("ccf", "C\ta command\t\t\tN\tNOHEADER\n")]

/-- A record of fields, at no place. -/
def Row.ofFields (fields : List String) : Row := ⟨fields, .nowhere⟩

theorem rearranges_pairedFiles :
    Config.Rearranges { path := "m" } (pairedFiles true) (pairedFiles false) where
  there := by
    have h (inOrder : Bool) : checkTables (pairedFiles inOrder) "m" "dat" = .ok () := by
      cases inOrder <;> exact eq_ok_of_toOption (by decide +kernel)
    exact (h false).trans (h true).symm
  kept := by
    have h : (requiredTables.filter (· ∉ sortedTables)).all (fun table =>
        (Config.records { path := "m" } (pairedFiles true) table).toOption.any fun rows =>
          decide ((Config.records { path := "m" } (pairedFiles false) table).toOption = some rows))
        = true := by
      decide +kernel
    intro table hrequired hsorted
    have htable := List.all_eq_true.mp h table
      (List.mem_filter.mpr ⟨hrequired, decide_eq_true hsorted⟩)
    obtain ⟨rows, hrows, hrows'⟩ := (Option.any_eq_true _ _).mp htable
    rw [eq_ok_of_toOption hrows, eq_ok_of_toOption (of_decide_eq_true hrows')]
  formulas _ hword := Files.read_formula_ofTables _ _ hword
  calibrations := rowsRearranged_swap (a := Row.ofFields ["1", "0", "0.5"])
    (b := Row.ofFields ["2", "0", "1.5"]) (by decide +kernel) (by decide +kernel)
    (keys_ne_of_owners pointKey_owner rfl rfl (by decide))
  decalibrations := rowsRearranged_swap (a := Row.ofFields ["1", "0.5", "0"])
    (b := Row.ofFields ["2", "1.5", "0"]) (by decide +kernel) (by decide +kernel)
    (keys_ne_of_owners pointKey_owner rfl rfl (by decide))
  contexts := rowsRearranged_swap (a := Row.ofFields ["B", "1", "A", "0", "1"])
    (b := Row.ofFields ["B", "2", "A", "1", "2"]) (by decide +kernel) (by decide +kernel)
    fun key ha hb => absurd (ha.trans hb.symm) (by decide +kernel)
  checks := rowsRearranged_swap (a := Row.ofFields ["A", "1", "S", "0", "5"])
    (b := Row.ofFields ["A", "2", "H", "0", "9"]) (by decide +kernel) (by decide +kernel)
    fun key ha hb => absurd (ha.trans hb.symm) (by decide +kernel)
  elements := rowsRearranged_swap (a := Row.ofFields ["C", "E", "", "8", "0", "0", "P"])
    (b := Row.ofFields ["C", "E", "", "8", "8", "0", "Q"]) (by decide +kernel) (by decide +kernel)
    fun key ha hb => absurd (ha.trans hb.symm) (by decide +kernel)

/--
**The order of records is irrelevant where a table has a sort key of its own.**

Where the points of curves, the context rules, the limit checks or the elements of commands stand in
another order, but those with the same owner and the same key in the order in which they stood, a
compilation that records its errors gives the same database. It reports the same, but for the places
of records and the order of errors; if it gives nothing, then for the same reason.
-/
theorem compile_rearranged {config : Config} {files files' : Files}
    (compiler : Option FormulaCompiler) (hlenient : config.strict = false)
    (h : config.Rearranges files files') :
    Agree Compiled.Alike (compile config files compiler) (compile config files' compiler) := by
  have hsettings : Agree (fun setting setting' => setting.config = config ∧
      setting.files = files ∧ setting' = { setting with files := files' })
      (Setting.of config files) (Setting.of config files') :=
    (agree_refl config.validate).bind fun _ => (agree_refl config.resolveEpoch).bind fun _ =>
      .ok ⟨rfl, rfl, rfl⟩
  rw [compile_eq, compile_eq, h.there]
  refine agree_bind hsettings fun setting _ hsetting => ?_
  obtain ⟨hconfig, hfiles, rfl⟩ := hsetting
  subst hconfig
  subst hfiles
  refine (agree_refl _).bind fun _ => ?_
  refine (carries_buildDatabase hlenient h compiler _ _ ?_).compiled
  exact ⟨rfl, .refl _, .nil, trivial⟩

/-- Both orders compile to the same database. -/
theorem pairedFiles_compile :
    Config.Rearranges { path := "m" } (pairedFiles true) (pairedFiles false) ∧
      Agree Compiled.Alike (compile { path := "m" } (pairedFiles true) none)
        (compile { path := "m" } (pairedFiles false) none) :=
  ⟨rearranges_pairedFiles, compile_rearranged none rfl rearranges_pairedFiles⟩

end MissionBase
