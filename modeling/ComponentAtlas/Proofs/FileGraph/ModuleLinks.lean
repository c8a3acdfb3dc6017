import ComponentAtlas.Proofs.FileGraph.Dependents
import ComponentAtlas.Proofs.Program.Loading

/-!
# Declarations that name modules

A file is tied to others by its import and export declarations, but only the names that a declaration
binds or exports are kept. A declaration with at least one such name, or one that exports all names,
leads to its module. A declaration without any name is forgotten: an import of nothing, an import or
export of an empty list, and an export of a whole module under one name.

* `Program.links`: the declarations of a file that name modules;
* `Script.Clause.IsKept`: the clauses that leave a name;
* `Program.Points`: the files to which the declarations of a file lead;
* `Program.Closure.mem_dependencies`: a file depends on these and on no others;
* `Program.links_followed`: which files a program has, and which of them depend on each other.
-/

namespace ComponentAtlas

open ComponentAtlas.Script

namespace Script

/-- The declaration that a statement is, if it names a module. -/
def Reading.Statement.link? : Reading.Statement → Option ModuleLink
  | .link l => some l
  | _ => none

/-- The declarations of a file that name modules, as a parser reads it. A file that cannot be read has
none. -/
def links (parse : Parser) (path text : String) : List ModuleLink :=
  match parse path text with
  | some (statements, _) => statements.filterMap (·.link?)
  | none => []

/-- A clause with a name that is bound or exported, or with all names. -/
def Clause.IsKept : Clause → Prop
  | .effects => False
  | .bindings names => names ≠ []
  | .reexports pairs => pairs ≠ []
  | .star name => name = none

instance : DecidablePred Clause.IsKept
  | .effects => inferInstanceAs (Decidable False)
  | .bindings names => inferInstanceAs (Decidable (names ≠ []))
  | .reexports pairs => inferInstanceAs (Decidable (pairs ≠ []))
  | .star name => inferInstanceAs (Decidable (name = none))

variable {l : ModuleLink} {name : String}

theorem ModuleLink.mem_imports_module :
    name ∈ l.imports.map (·.module) ↔ (∃ names, l.clause = .bindings names ∧ names ≠ []) ∧ name = l.module := by
  obtain ⟨clause, module⟩ := l
  cases clause with
  | bindings names =>
    cases names with
    | nil => simp [imports]
    | cons n names => simp [imports, Function.comp_def, eq_comm]
  | effects | reexports | star => simp [imports]

theorem ModuleLink.mem_exports_module :
    name ∈ l.exports.filterMap Export.module? ↔
      ((∃ pairs, l.clause = .reexports pairs ∧ pairs ≠ []) ∨ l.clause = .star none) ∧ name = l.module := by
  obtain ⟨clause, module⟩ := l
  cases clause with
  | reexports pairs =>
    cases pairs with
    | nil => simp [exports]
    | cons n pairs => simp [exports, Export.module?, Function.comp_def, eq_comm]
  | star alias? => cases alias? <;> simp [exports, Export.module?, eq_comm]
  | effects | bindings => simp [exports]

/-- Only a declaration that names a module leads to one, and only if a name of it is kept. -/
theorem Reading.Statement.mem_modules {s : Reading.Statement} :
    name ∈ s.imports.map (·.module) ∨ name ∈ s.exports.filterMap Export.module? ↔
      ∃ l, s.link? = some l ∧ l.clause.IsKept ∧ l.module = name := by
  cases s with
  | link l =>
    simp only [Statement.imports, Statement.exports, link?, ModuleLink.mem_imports_module,
      ModuleLink.mem_exports_module, Option.some.injEq, exists_eq_left']
    cases h : l.clause <;> simp [Clause.IsKept, eq_comm]
  | other entries =>
    have hown : (Statement.other entries).exports.filterMap Export.module? = [] := by
      rw [List.filterMap_eq_nil_iff]
      intro e he
      obtain ⟨entry, -, hentry⟩ := List.mem_filterMap.1 he
      cases entry <;> cases hentry
      rfl
    simp [hown, Statement.imports, link?]
  | returns | text => simp [Statement.imports, Statement.exports, link?]

/-- The specifiers of a file are the modules of the declarations that keep a name. -/
theorem mem_specifiers_read {parse : Parser} {path text : String} :
    name ∈ (Contents.read parse path text).specifiers ↔
      ∃ l ∈ links parse path text, l.clause.IsKept ∧ l.module = name := by
  rw [Contents.read, links]
  cases parse path text with
  | none => simp [Contents.specifiers]
  | some read =>
    obtain ⟨statements, faulty⟩ := read
    have hstatement : name ∈ (Contents.ofStatements statements faulty).specifiers ↔
        ∃ s ∈ statements, name ∈ s.imports.map (·.module) ∨ name ∈ s.exports.filterMap Export.module? := by
      simp only [Contents.specifiers, Contents.ofStatements, List.mem_eraseDups, List.mem_append,
        List.map_flatMap, List.filterMap_flatMap, List.mem_flatMap, and_or_left, exists_or]
    simp only [hstatement, Reading.Statement.mem_modules]
    constructor
    · rintro ⟨s, hs, l, hl, hkept⟩
      exact ⟨l, List.mem_filterMap.2 ⟨s, hs, hl⟩, hkept⟩
    · rintro ⟨l, hmem, hkept⟩
      obtain ⟨s, hs, hl⟩ := List.mem_filterMap.1 hmem
      exact ⟨s, hs, l, hl, hkept⟩

end Script

namespace Program

/-- The declarations of a file of a host that name modules. -/
def links (host : Host) (file : String) : List ModuleLink :=
  match host.read? file with
  | some text => Script.links host.parse file text
  | none => []

/-- A declaration of one file that keeps a name stands for another file. -/
def Points (host : Host) (settings : Settings) (file target : String) : Prop :=
  ∃ l ∈ links host file, l.clause.IsKept ∧ settings.resolve host.contains file l.module = some target

section Load

variable {host : Host} {settings : Settings} {roots : List String} {p : Program} {file target : String}

theorem mem_specifiers_iff {c : Contents} {name : String} (hc : contents? host file = some c) :
    name ∈ c.specifiers ↔ ∃ l ∈ links host file, l.clause.IsKept ∧ l.module = name := by
  obtain ⟨text, htext, rfl⟩ := Option.map_eq_some_iff.1 hc
  rw [Script.mem_specifiers_read, links, htext]

/-- The specifiers of a file point to the files that its declarations point to. -/
theorem points_iff {c : Contents} (hc : contents? host file = some c) :
    Points host settings file target ↔
      ∃ name ∈ c.specifiers, settings.resolve host.contains file name = some target := by
  simp only [mem_specifiers_iff hc]
  constructor
  · rintro ⟨l, hl, hkept, htarget⟩
    exact ⟨l.module, ⟨l, hl, hkept, rfl⟩, htarget⟩
  · rintro ⟨_, ⟨l, hl, hkept, rfl⟩, htarget⟩
    exact ⟨l, hl, hkept, htarget⟩

theorem Closure.mem_of_points (h : p.Closure host settings roots) (hfile : file ∈ p.files.map (·.path))
    (hpoints : Points host settings file target) : target ∈ p.files.map (·.path) := by
  obtain ⟨f, hf, rfl⟩ := List.mem_map.1 hfile
  obtain ⟨c, hc, -⟩ := h.filed.contents f hf
  obtain ⟨name, hname, htarget⟩ := (points_iff hc).1 hpoints
  exact (h.mem_iff target).2 (.specifier ((h.mem_iff f.path).1 hfile) hc hname htarget)

/-- A loaded file that is no root is one to which a declaration of a loaded file points. -/
theorem Closure.points_of_mem (h : p.Closure host settings roots) (htarget : target ∈ p.files.map (·.path)) :
    target ∈ roots.map Path.normalize ∨
      ∃ file ∈ p.files.map (·.path), Points host settings file target := by
  cases (h.mem_iff target).1 htarget with
  | root hroot => exact .inl (List.mem_map_of_mem hroot)
  | specifier hfile hc hname htarget =>
    exact .inr ⟨_, (h.mem_iff _).2 hfile, (points_iff hc).2 ⟨_, hname, htarget⟩⟩

/-- The dependencies of a loaded file are the other files to which its declarations point. -/
theorem Closure.mem_dependencies (h : p.Closure host settings roots) (hfile : file ∈ p.files.map (·.path)) :
    target ∈ (FileGraph.ofProgram p).dependencies file ↔
      target ≠ file ∧ Points host settings file target := by
  rw [FileGraph.mem_dependencies_ofProgram]
  -- A specifier stands for the same file among the loaded files as in the host.
  have hmodule : ∀ f ∈ p.files, ∀ name ∈ f.specifiers,
      p.module? f.path name = settings.resolve host.contains f.path name := by
    intro f hf name hname
    simpa using h.module?_eq f hf name hname [] (List.nil_subset _)
  have hmem : ∀ (f : SourceFile) (name : String), name ∈ FileGraph.modulesOf f ↔ name ∈ f.specifiers :=
    fun f name => List.mem_eraseDups.symm
  constructor
  · rintro ⟨f, hf, name, hname, htarget, hne, rfl⟩
    obtain ⟨c, hc, hrep⟩ := h.filed.contents f hf
    rw [hmem] at hname
    rw [hmodule f hf name hname] at htarget
    exact ⟨hne.symm, (points_iff hc).2 ⟨name, specifiers_eq hrep ▸ hname, htarget⟩⟩
  · rintro ⟨hne, hpoints⟩
    obtain ⟨f, hf, rfl⟩ := List.mem_map.1 hfile
    obtain ⟨c, hc, hrep⟩ := h.filed.contents f hf
    obtain ⟨name, hname, htarget⟩ := (points_iff hc).1 hpoints
    rw [← specifiers_eq hrep] at hname
    exact ⟨f, hf, name, (hmem f name).2 hname, (hmodule f hf name hname).trans htarget, hne.symm, rfl⟩

/-- A program has its roots and the files to which kept declarations of its files point, and no others;
a file depends on the other files to which its own kept declarations point, and on no others. -/
theorem links_followed (h : load host roots settings = .ok p) :
    (∀ target, target ∈ p.files.map (·.path) ↔
      target ∈ roots.map Path.normalize ∨
        ∃ file ∈ p.files.map (·.path), Points host settings file target) ∧
    ∀ file ∈ p.files.map (·.path), ∀ target,
      (target ∈ (FileGraph.ofProgram p).dependencies file ↔
        target ≠ file ∧ Points host settings file target) ∧
      (file ∈ (FileGraph.ofProgram p).dependents target ↔
        target ≠ file ∧ Points host settings file target) := by
  have hclosure := closure_of_load h
  refine ⟨fun target => ⟨hclosure.points_of_mem, ?_⟩, fun file hfile target => ?_⟩
  · rintro (hroot | ⟨file, hfile, hpoints⟩)
    · obtain ⟨root, hmem, rfl⟩ := List.mem_map.1 hroot
      exact (hclosure.mem_iff _).2 (.root hmem)
    · exact hclosure.mem_of_points hfile hpoints
  · have hdependencies : target ∈ (FileGraph.ofProgram p).dependencies file ↔
        target ≠ file ∧ Points host settings file target := hclosure.mem_dependencies hfile
    exact ⟨hdependencies, (FileGraph.inverse_ofProgram p file target).symm.trans hdependencies⟩

end Load

/-- A file that names each of the other files in another way. -/
def linkedHost : Host :=
  .ofList [("/a.ts", "import './b'; import {} from './c'; export {} from './d'; export * as e from './e'; " ++
      "import f from './f'; export * from './g';"),
    ("/b.ts", ""), ("/c.ts", ""), ("/d.ts", ""), ("/e.ts", ""), ("/f.ts", ""), ("/g.ts", "")]

theorem links_linkedHost : links linkedHost "/a.ts" =
    [⟨.effects, "./b"⟩, ⟨.bindings [], "./c"⟩, ⟨.reexports [], "./d"⟩, ⟨.star (some "e"), "./e"⟩,
      ⟨.bindings [("f", .default)], "./f"⟩, ⟨.star none, "./g"⟩] := by decide +kernel

theorem load_linkedHost : (load linkedHost ["/a.ts"] {}).toOption.map (fun p =>
      (p.files.map (·.path), (FileGraph.ofProgram p).dependencies "/a.ts")) =
    some (["/a.ts", "/f.ts", "/g.ts"], ["/f.ts", "/g.ts"]) := by decide +kernel

theorem links_followed_linked :
    ∃ p, load linkedHost ["/a.ts"] {} = .ok p ∧ p.files.map (·.path) = ["/a.ts", "/f.ts", "/g.ts"] ∧
      Points linkedHost {} "/a.ts" "/f.ts" ∧
      "/f.ts" ∈ (FileGraph.ofProgram p).dependencies "/a.ts" ∧
      "/a.ts" ∈ (FileGraph.ofProgram p).dependents "/f.ts" := by
  obtain ⟨p, hp, hfiles⟩ := Option.map_eq_some_iff.1 load_linkedHost
  have hload : load linkedHost ["/a.ts"] {} = .ok p := by
    cases hresult : load linkedHost ["/a.ts"] {} with
    | ok q =>
      rw [hresult] at hp
      exact congrArg Except.ok (Option.some.inj hp)
    | error e =>
      rw [hresult] at hp
      cases hp
  have hpaths : p.files.map (·.path) = ["/a.ts", "/f.ts", "/g.ts"] := (Prod.mk.inj hfiles).1
  have hpoints : Points linkedHost {} "/a.ts" "/f.ts" := by
    refine ⟨⟨.bindings [("f", .default)], "./f"⟩, ?_, by decide, by decide +kernel⟩
    rw [links_linkedHost]
    decide
  obtain ⟨hforward, hbackward⟩ :=
    (links_followed hload).2 "/a.ts" (by rw [hpaths]; exact List.mem_cons_self) "/f.ts"
  exact ⟨p, hload, hpaths, hpoints, hforward.2 ⟨by decide, hpoints⟩, hbackward.2 ⟨by decide, hpoints⟩⟩

/-- The file names four files of the host that are neither loaded nor depended on. -/
theorem linkedHost_forgets :
    (∀ e ∈ [(Clause.effects, "./b", "/b.ts"), (.bindings [], "./c", "/c.ts"),
        (.reexports [], "./d", "/d.ts"), (.star (some "e"), "./e", "/e.ts")],
      ⟨e.1, e.2.1⟩ ∈ links linkedHost "/a.ts" ∧
      Settings.resolve {} linkedHost.contains "/a.ts" e.2.1 = some e.2.2 ∧
      (linkedHost.read? e.2.2).isSome) ∧
    (load linkedHost ["/a.ts"] {}).toOption.map (fun p =>
        (p.files.map (·.path), (FileGraph.ofProgram p).dependencies "/a.ts")) =
      some (["/a.ts", "/f.ts", "/g.ts"], ["/f.ts", "/g.ts"]) := by
  rw [links_linkedHost]
  exact ⟨by decide +kernel, load_linkedHost⟩

end Program

end ComponentAtlas
