import DataShelf.Proofs.Backing
import DataShelf.Proofs.CatalogInvariant
import DataShelf.Proofs.FoundFiles
import DataShelf.Proofs.SourceMaps
import DataShelf.Proofs.WalkOrder

/-!
# The tables of scripts

A script defines a table of a source (`Scan.Defines`). The scripts of a tree are taken in the order
of a walk, and the map after some of them has the first script for each pair of names, with each
source where its first script lies (`Scan.Grouped`). One more script keeps this
(`Scan.Grouped.addScript`), so a tree of scripts is listed exactly: a table for each pair of names
that a script has, backed by the least of the scripts that have them (`Scan.lists_scripts`). A script
in a directory whose path is too long to be opened is not come to, and its table is lost
(`deepTree_loses_script`).
-/

namespace DataShelf.Catalog.Scan
set_option autoImplicit false

open Files (Name Path FileTree)

variable {t : FileTree} {root : Path} {m : SourceMap} {scripts : List Path}

/-- A script defines a table of a source. The table is named by the file without its extension, the
source by the directory above; both names are texts. -/
structure Defines (script above : Path) (source table : String) : Prop where
  parent : script.parent? = some above
  last : above.fileName? = some (Name.ofString source)
  stem : script.stem? = some (Name.ofString table)

/-- A script that a walk from a path comes to. It lies below the path, past no hidden directory and no
link, in a directory whose path is short enough to be opened. -/
def IsScript (t : FileTree) (root script : Path) : Prop :=
  t.Reaches root script ∧ script.hasExtension sqlExtension

/-- The files that are found by their extension are the scripts. -/
theorem mem_scripts_iff {script : Path} :
    script ∈ (t.findFiles root fun p => p.hasExtension sqlExtension).value ↔
      IsScript t root script :=
  FileTree.mem_findFiles_iff_reaches

/-- A script defines the table of its own name in the source of the directory above. -/
theorem scriptNames?_eq_some_iff {script above : Path} {source table : String} :
    scriptNames? script = some (above, source, table) ↔ Defines script above source table := by
  simp only [scriptNames?, Option.bind_eq_bind, Option.bind_eq_some_iff, Option.pure_def,
    Option.some.injEq, Prod.mk.injEq]
  constructor
  · rintro ⟨_, parent, _, stem, _, text, _, last, _, text', rfl, rfl, rfl⟩
    rw [Name.text?_eq_some_iff] at text text'
    exact ⟨parent, text' ▸ last, text ▸ stem⟩
  · rintro ⟨parent, last, stem⟩
    exact ⟨above, parent, _, stem, table, Name.text?_ofString table, _, last, source,
      Name.text?_ofString source, rfl, rfl, rfl⟩

/-! ### One script after another -/

/-- Whether a script defines a table of two names. -/
def hasNames (source table : String) (script : Path) : Bool :=
  (scriptNames? script).any fun names => names.2.1 == source && names.2.2 == table

/-- Whether a script defines a table of a source. -/
def isIn (source : String) (script : Path) : Bool :=
  (scriptNames? script).any fun names => names.2.1 == source

theorem hasNames_iff {source table : String} {script : Path} :
    hasNames source table script ↔ ∃ above, Defines script above source table := by
  simp [hasNames, Option.any_eq_true, ← scriptNames?_eq_some_iff]

theorem isIn_iff {source : String} {script : Path} :
    isIn source script ↔ ∃ above table, Defines script above source table := by
  simp [isIn, Option.any_eq_true, ← scriptNames?_eq_some_iff]

/-- The map after some scripts has the first of them for each pair of names, and each source lies
where the first of its scripts does. -/
structure Grouped (scripts : List Path) (m : SourceMap) : Prop where
  table : ∀ source table, m.table? source table =
    (scripts.find? (hasNames source table)).map fun script => Table.of table script none []
  path : ∀ source, (m.get? source).map Source.path =
    (scripts.find? (isIn source)).bind Path.parent?

section Step

variable {script above : Path} {source table : String}

theorem hasNames_of_defines (names : Defines script above source table) (source' table' : String) :
    hasNames source' table' script = decide (source' = source ∧ table' = table) := by
  rw [Bool.eq_iff_iff]
  simp [hasNames, scriptNames?_eq_some_iff.2 names, eq_comm (a := source), eq_comm (a := table)]

theorem isIn_of_defines (names : Defines script above source table) (source' : String) :
    isIn source' script = decide (source' = source) := by
  rw [Bool.eq_iff_iff]
  simp [isIn, scriptNames?_eq_some_iff.2 names, eq_comm (a := source)]

/-- A script whose names are taken changes nothing. -/
theorem addScript_of_taken (names : Defines script above source table)
    (taken : (m.table? source table).isSome) : (addScript m script).value = m := by
  obtain ⟨tb, found⟩ := Option.isSome_iff_exists.1 taken
  obtain ⟨s, known, inside⟩ := Option.bind_eq_some_iff.1 found
  simp [addScript, scriptNames?_eq_some_iff.2 names, known, NameMap.contains, inside]

/-- A script whose names are free adds a table to its source, which may be new. -/
theorem addScript_of_free (names : Defines script above source table)
    (free : m.table? source table = none) :
    (addScript m script).value = m.insert source
      (((m.get? source).getD (.of source above)).add (.of table script none [])) := by
  have missing : ((m.get? source).getD (.of source above)).tables.contains table = false := by
    rw [SourceMap.table?] at free
    cases known : m.get? source with
    | none => rfl
    | some s => simpa [known, NameMap.contains] using free
  simp [addScript, scriptNames?_eq_some_iff.2 names, missing]

/-- A script whose names are free adds its table, and changes no other. -/
theorem table?_addScript_of_free (names : Defines script above source table)
    (free : m.table? source table = none) (source' table' : String) :
    (addScript m script).value.table? source' table' =
      if source' = source ∧ table' = table then some (.of table script none [])
      else m.table? source' table' := by
  rw [addScript_of_free names free, SourceMap.table?_insert]
  by_cases here : source' = source
  · subst here
    rw [if_pos rfl, Source.add, NameMap.get?_insert, SourceMap.table?]
    by_cases same : table' = table
    · simp [same, Table.of]
    · cases known : m.get? source' <;> simp [same, Source.of, NameMap.get?_empty, Table.of]
  · simp [here]

/-- A script whose names are free places its source if that is new, and changes no other. -/
theorem path_addScript_of_free (names : Defines script above source table)
    (free : m.table? source table = none) (source' : String) :
    ((addScript m script).value.get? source').map Source.path =
      if source' = source then some (((m.get? source).map Source.path).getD above)
      else (m.get? source').map Source.path := by
  rw [addScript_of_free names free, NameMap.get?_insert]
  split
  · cases known : m.get? source <;> simp [Source.add, Source.of]
  · rfl

end Step

/-- One more script keeps a map grouped. -/
theorem Grouped.addScript (h : Grouped scripts m) (script : Path) :
    Grouped (scripts ++ [script]) (addScript m script).value := by
  cases found : scriptNames? script with
  | none =>
    have same : (Scan.addScript m script).value = m := by simp [Scan.addScript, found]
    rw [same]
    refine ⟨fun source table => ?_, fun source => ?_⟩
    · simp [List.find?_append, hasNames, found, h.table]
    · simp [List.find?_append, isIn, found, h.path]
  | some names =>
    obtain ⟨above, source, table⟩ := names
    have names := scriptNames?_eq_some_iff.1 found
    have first := h.table source table
    cases taken : m.table? source table with
    | some tb =>
      rw [addScript_of_taken names (taken ▸ rfl)]
      refine ⟨fun source' table' => ?_, fun source' => ?_⟩
      · rw [h.table, List.find?_append]
        by_cases here : source' = source ∧ table' = table
        · obtain ⟨rfl, rfl⟩ := here
          obtain ⟨earlier, known, -⟩ := Option.map_eq_some_iff.1 (first.symm.trans taken)
          rw [known, Option.some_or]
        · simp [hasNames_of_defines names, here]
      · rw [h.path, List.find?_append]
        by_cases here : source' = source
        · obtain ⟨s, known, -⟩ := Option.bind_eq_some_iff.1 taken
          have path := h.path source
          rw [known, Option.map_some] at path
          obtain ⟨earlier, known, -⟩ := Option.bind_eq_some_iff.1 path.symm
          rw [here, known, Option.some_or]
        · simp [isIn_of_defines names, here]
    | none =>
      refine ⟨fun source' table' => ?_, fun source' => ?_⟩
      · rw [table?_addScript_of_free names taken, List.find?_append]
        by_cases here : source' = source ∧ table' = table
        · obtain ⟨rfl, rfl⟩ := here
          have fresh := Option.map_eq_none_iff.1 (first.symm.trans taken)
          simp [fresh, hasNames_of_defines names]
        · simp [hasNames_of_defines names, here, h.table]
      · rw [path_addScript_of_free names taken, List.find?_append]
        by_cases here : source' = source
        · subst here
          rw [if_pos rfl, h.path]
          cases earlier : scripts.find? (isIn source') with
          | none => simp [isIn_of_defines names, names.parent]
          | some first =>
            obtain ⟨above', table', first'⟩ := isIn_iff.1 (List.find?_some earlier)
            simp [first'.parent]
        · simp [isIn_of_defines names, here, h.path]

/-- Scripts are grouped by their names when they are added in order. -/
theorem grouped_ofScripts (scripts : List Path) : Grouped scripts (ofScripts scripts).value := by
  rw [ofScripts]
  induction scripts using List.reverseRecOn with
  | nil => exact ⟨fun _ _ => rfl, fun _ => rfl⟩
  | append_singleton scripts script ih =>
    rw [Traced.foldlM_snoc, Traced.value_bind]
    exact ih.addScript script

/-! ### Trees of scripts -/

/-- What a tree with a script in it is to a scan: a table for each pair of names that a script has,
backed by the least script that has them, in a source where its least script lies. -/
theorem lists_scripts (proper : t.Proper) (seen : ∃ script, IsScript t root script) :
    SourceMap.Lists (discover t root).value
      (fun source path => ∃ script, Path.Least (fun script => IsScript t root script ∧
        ∃ above table, Defines script above source table) script ∧ script.parent? = some path)
      (fun source table tb => ∃ script, Path.Least (fun script => IsScript t root script ∧
        ∃ above, Defines script above source table) script ∧
          tb = ⟨table, script, none, [], .sqlScript⟩) := by
  generalize listed : (t.findFiles root fun p => p.hasExtension sqlExtension).value = scripts
  have member (script : Path) : script ∈ scripts ↔ IsScript t root script := by
    rw [← listed]
    exact mem_scripts_iff
  have sorted : scripts.Pairwise Path.Before := listed ▸ FileTree.sorted_findFiles proper root _
  have value : (discover t root).value = (ofScripts scripts).value := by
    obtain ⟨script, scripted⟩ := seen
    have found := (member script).2 scripted
    simp only [discover, Traced.value_bind, listed]
    cases scripts with
    | nil => cases found
    | cons first others => rfl
  have held (script : Path) (h : script ∈ scripts) :
      t.HoldsFile script ∧ script.hasExtension sqlExtension := by
    obtain ⟨sees, sql⟩ := FileTree.mem_findFiles (listed ▸ h)
    exact ⟨sees.holdsFile, sql⟩
  have backed := backed_ofScripts held
  have grouped := grouped_ofScripts scripts
  rw [value]
  refine ⟨backed.keyed, backed.filled, fun s hs => ?_, fun source table tb => ?_⟩
  · have path := grouped.path s.name
    rw [backed.keyed.get? hs, Option.map_some] at path
    obtain ⟨script, first, parent⟩ := Option.bind_eq_some_iff.1 path.symm
    refine ⟨script, ?_, parent⟩
    simpa only [member, isIn_iff] using (Path.find?_eq_some_iff_least sorted _).1 first
  · rw [grouped.table, Option.map_eq_some_iff]
    simp only [Path.find?_eq_some_iff_least sorted, member, hasNames_iff]
    refine exists_congr fun script => and_congr_right fun least => ?_
    have kind := TableKind.ofPath_of_sql least.1.1.2
    rw [Table.of, kind, eq_comm]

/-- The scripts below a directory are those that lie there, as far as their directories can be
opened. -/
theorem isScript_iff_liesBelow {script : Path} (directory : t.isDirectory root) : IsScript t root script ↔
    (∃ way, t.LiesBelow root way ∧ FileTree.fits root way.dropLast ∧
      script = way.foldl Path.child root) ∧ script.hasExtension sqlExtension := by
  rw [IsScript, FileTree.reaches_iff_sees directory, FileTree.sees_iff_liesBelow]

/-- **Script tables.** Where a scan comes to a script, it finds one table for each pair of names that
a script has and nothing else. Of several scripts with the same two names the least counts, wherever
they lie, and a source lies where the least of its scripts does. A scan of a directory comes to the
scripts that lie below it, as far as the paths of their directories are short enough to be opened. -/
theorem script_tables_exact (proper : t.Proper) (seen : ∃ script, IsScript t root script) :
    SourceMap.Lists (discover t root).value
      (fun source path => ∃ script, Path.Least (fun script => IsScript t root script ∧
        ∃ above table, Defines script above source table) script ∧ script.parent? = some path)
      (fun source table tb => ∃ script, Path.Least (fun script => IsScript t root script ∧
        ∃ above, Defines script above source table) script ∧
          tb = ⟨table, script, none, [], .sqlScript⟩) ∧
    (discover t root).value.pairs.Nodup ∧
    (∀ source table, (source, table) ∈ (discover t root).value.pairs ↔
      ∃ script above, IsScript t root script ∧ Defines script above source table) ∧
    (t.isDirectory root → ∀ script, IsScript t root script ↔
      (∃ way, t.LiesBelow root way ∧ FileTree.fits root way.dropLast ∧
        script = way.foldl Path.child root) ∧ script.hasExtension sqlExtension) := by
  have lists := lists_scripts proper seen
  refine ⟨lists, SourceMap.nodup_pairs _, fun source table => ?_,
    fun directory script => isScript_iff_liesBelow directory⟩
  rw [SourceMap.mem_pairs_iff, Option.isSome_iff_exists]
  simp only [lists.listed]
  constructor
  · rintro ⟨_, script, ⟨⟨scripted, above, names⟩, -⟩, rfl⟩
    exact ⟨script, above, scripted, names⟩
  · rintro ⟨script, above, ⟨reached, sql⟩, names⟩
    obtain ⟨first, least⟩ := FileTree.exists_least proper
      (fun script => script.hasExtension sqlExtension ∧ ∃ above, Defines script above source table)
      ⟨script, reached, sql, above, names⟩
    exact ⟨_, first, by simpa only [IsScript, and_assoc] using least, rfl⟩

/-! ### Two branches with one source -/

/-- Two directories of sales, in different branches, both with a script of orders. -/
def twoBranches : FileTree where
  root := .directory [
    (.ofString "a", .directory [(.ofString "sales", .directory [
      (.ofString "orders.sql", .file [])])]),
    (.ofString "b", .directory [(.ofString "sales", .directory [
      (.ofString "items.SQL", .file []), (.ofString "orders.sql", .file [])])])]
  work := []

/-- The path of a script of sales in a branch. -/
def branchScript (branch script : String) : Path :=
  [Name.ofString branch, Name.ofString "sales", Name.ofString script].foldl Path.child here

theorem twoBranches_proper : twoBranches.Proper :=
  FileTree.proper_of_names (by decide)

/-- The scripts are found in the order of their paths. -/
theorem twoBranches_scripts :
    (twoBranches.findFiles here fun p => p.hasExtension sqlExtension).value =
      [branchScript "a" "orders.sql", branchScript "b" "items.SQL",
        branchScript "b" "orders.sql"] := by
  have rooted : twoBranches.node here = .ok twoBranches.root := FileTree.node_dot rfl
  have visible : (Name.ofString "a").isHidden = false ∧ (Name.ofString "b").isHidden = false ∧
      (Name.ofString "sales").isHidden = false := by decide
  have ways : twoBranches.root.waysTo Files.Node.isFile = [
      [.ofString "a", .ofString "sales", .ofString "orders.sql"],
      [.ofString "b", .ofString "sales", .ofString "items.SQL"],
      [.ofString "b", .ofString "sales", .ofString "orders.sql"]] := by
    have order : [Name.ofString "a", .ofString "b"].Pairwise Name.Before ∧
        [Name.ofString "items.SQL", .ofString "orders.sql"].Pairwise Name.Before := by
      decide
    simp [twoBranches, Files.waysToFiles_directory, Files.waysToFiles_file, Files.waysThrough,
      Files.Node.isDirectory, visible, Files.inOrder_of_sorted, order, List.pairwise_singleton,
      -List.pairwise_cons]
  rw [FileTree.findFiles_directory rooted, FileTree.filesBelow]
  change (((twoBranches.root.waysTo _).filter _).map _).filter _ = _
  rw [ways]
  decide

/-- Of the two scripts of orders the one in the first branch counts, and the sales lie there. -/
theorem twoBranches_orders :
    twoBranches.Proper ∧ (∃ script, IsScript twoBranches here script) ∧
    (discover twoBranches here).value.table? "sales" "orders" =
      some ⟨"orders", branchScript "a" "orders.sql", none, [], .sqlScript⟩ := by
  have member (script : Path) : IsScript twoBranches here script ↔
      script ∈ [branchScript "a" "orders.sql", branchScript "b" "items.SQL",
        branchScript "b" "orders.sql"] := by
    rw [← twoBranches_scripts]
    exact mem_scripts_iff.symm
  have seen : ∃ script, IsScript twoBranches here script :=
    ⟨branchScript "a" "orders.sql", (member _).2 List.mem_cons_self⟩
  have sorted := FileTree.sorted_findFiles twoBranches_proper here
    fun p => p.hasExtension sqlExtension
  rw [twoBranches_scripts] at sorted
  have first := (Path.find?_eq_some_iff_least sorted (hasNames "sales" "orders")
    (p := branchScript "a" "orders.sql")).1 (by decide)
  simp only [← member, hasNames_iff] at first
  have exact_tables := script_tables_exact twoBranches_proper seen
  exact ⟨twoBranches_proper, seen, (exact_tables.1.listed _ _ _).2 ⟨_, first, rfl⟩⟩

/-! ### A script in a directory that cannot be opened -/

/-- Where a scan comes to no script and sees no directory, it finds nothing. -/
theorem discover_of_bare
    (unfound : (t.findFiles root fun p => p.hasExtension sqlExtension).value = [])
    (flat : (t.subdirectories root).value = []) : (discover t root).value = .empty := by
  simp only [discover, ofDirectories, Traced.value_bind, unfound, flat, List.foldlM_nil,
    Traced.value_pure]

section Deep

open Files (deepTree deepRoot)

/-- The path of the directory of sales. -/
def deepDirectory : Path := deepRoot.child (.ofString "sales")

theorem deepScript_defines :
    Defines (deepDirectory.child (.ofString "a.sql")) deepDirectory "sales" "a" where
  parent := Path.EndsInName.parent?_child ⟨deepRoot, _, by decide, by decide, rfl⟩ (by decide)
  last := Path.fileName?_child deepRoot (by decide) (by decide)
  stem := by
    rw [Path.stem?, Path.fileName?_child deepDirectory (by decide) (by decide)]
    decide

/-- The directory of sales is not even seen to be one. -/
theorem deepTree_subdirectories : (deepTree.subdirectories deepRoot).value = [] := by
  have closed : deepTree.isDirectory deepDirectory = false := by
    rw [← Bool.not_eq_true]
    intro leads
    have opened : FileTree.fits deepRoot [.ofString "sales"] := by
      apply FileTree.fits_of_isDirectory (t := deepTree)
      rw [List.foldl_cons, List.foldl_nil]
      exact leads
    exact Files.deepRoot_closed opened
  have listed : deepTree.entries deepRoot =
      .ok [(.ofString "sales", .directory [(.ofString "a.sql", .file [])])] := by
    rw [FileTree.entries, Files.deepRoot_leads]
    rfl
  rw [FileTree.subdirectories, listed]
  show (List.map _ (Files.inOrder _)).filter _ = _
  rw [Files.inOrder_of_sorted (List.pairwise_singleton _ _), List.map_singleton]
  exact List.filter_cons_of_neg (Bool.eq_false_iff.1 closed)

theorem deepScript_hasExtension :
    (deepDirectory.child (.ofString "a.sql")).hasExtension sqlExtension := by
  rw [Path.hasExtension, Path.fileName?_child deepDirectory (by decide) (by decide)]
  decide

/-- A script that lies below the root, in no hidden directory and behind no link, defines a table that
is lost if the path of the directory is too long. -/
theorem deepTree_loses_script :
    deepTree.Proper ∧ deepTree.isDirectory deepRoot ∧
    deepTree.LiesBelow deepRoot [.ofString "sales", .ofString "a.sql"] ∧
    (deepDirectory.child (.ofString "a.sql")).hasExtension sqlExtension ∧
    Defines (deepDirectory.child (.ofString "a.sql")) deepDirectory "sales" "a" ∧
    ("sales", "a") ∉ (discover deepTree deepRoot).value.pairs := by
  refine ⟨Files.deepTree_proper, Files.deepRoot_isDirectory, Files.deepTree_liesBelow,
    deepScript_hasExtension, deepScript_defines, ?_⟩
  rw [discover_of_bare (Files.deepTree_found _) deepTree_subdirectories]
  exact List.not_mem_nil

end Deep

end DataShelf.Catalog.Scan
