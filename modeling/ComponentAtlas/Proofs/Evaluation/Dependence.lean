import ComponentAtlas.Proofs.Evaluation.Confinement
import ComponentAtlas.Proofs.FileGraph.Dependents
import ComponentAtlas.Proofs.Program.Loading
import ComponentAtlas.Proofs.Program.Resolution
import Mathlib.Data.List.Find

/-!
# Which files a value depends on

The graph of files has an edge for each import and each export that names a module. A value is
determined by the files which these edges lead to from the file of the expression: two programs that
agree on those files give the same value, whatever else they hold.

* `Program.SameFile`: two programs say the same about a file;
* `Program.Accord`: two programs agree on files that module specifiers do not leave;
* `Program.Visit.Alike`: two searches that do the same and end within the files;
* `Accord.exportedFrom`, `Accord.nameSearch`, `Accord.lookup`: searches for names;
* `Evaluation.evaluate_of_sameFiles`: values.
-/

namespace ComponentAtlas

open ComponentAtlas.Script
open Relation

namespace Program

variable {p q : Program} {F : String → Prop} {path file name : String}

/-- Two programs have the same imports, exports and declarations for a file; the declarations have the
same numbers. -/
structure SameFile (p q : Program) (path : String) : Prop where
  contents : (q.file? path).map (fun f => (f.imports, f.exports, f.declarations)) =
    (p.file? path).map (fun f => (f.imports, f.exports, f.declarations))
  declarations : ∀ id ∈ p.declarationsOf path, q.declaration? id = p.declaration? id

theorem SameFile.cases (h : SameFile p q path) :
    p.file? path = none ∧ q.file? path = none ∨
      ∃ f f', p.file? path = some f ∧ q.file? path = some f' ∧ f'.imports = f.imports ∧
        f'.exports = f.exports ∧ f'.declarations = f.declarations := by
  have hcontents := h.contents
  cases hf : p.file? path with
  | none =>
    rw [hf, Option.map_none, Option.map_eq_none_iff] at hcontents
    exact .inl ⟨rfl, hcontents⟩
  | some f =>
    rw [hf, Option.map_some, Option.map_eq_some_iff] at hcontents
    obtain ⟨f', hf', heq⟩ := hcontents
    simp only [Prod.mk.injEq] at heq
    exact .inr ⟨f, f', rfl, hf', heq⟩

/-- A file that dependencies lead to from a file, which may be the file itself. -/
def Reaches (p : Program) (file target : String) : Prop :=
  ReflTransGen (fun x y => y ∈ (FileGraph.ofProgram p).dependencies x) file target

/-- A file that exists leads to what the modules that it names stand for. -/
theorem Reaches.module? {f : SourceFile} {module target : String} (h : p.Reaches path file)
    (hf : p.file? file = some f) (hmodule : module ∈ FileGraph.modulesOf f)
    (htarget : p.module? file module = some target) : p.Reaches path target := by
  obtain ⟨hmem, rfl⟩ := mem_files_of_file? hf
  by_cases heq : f.path = target
  · exact heq ▸ h
  · refine h.tail (FileGraph.mem_dependencies_ofProgram.2 ?_)
    exact ⟨f, hmem, module, hmodule, htarget, heq, rfl⟩

/-- Two programs agree on files that module specifiers do not leave, and on what module specifiers
stand for. -/
structure Accord (p q : Program) (F : String → Prop) : Prop where
  module?_eq : ∀ origin specifier, q.module? origin specifier = p.module? origin specifier
  exportBound_eq : q.exportBound = p.exportBound
  sameFile : ∀ {path}, F path → SameFile p q path
  closed : ∀ {file f module target}, F file → p.file? file = some f → module ∈ FileGraph.modulesOf f →
    p.module? file module = some target → F target

/-! ### Searches for names -/

/-- What was found lies in one of the files. -/
def Target.Within (p : Program) (F : String → Prop) : Target → Prop
  | .declaration id => ∃ file, F file ∧ id ∈ p.declarationsOf file
  | .whole file => F file
  | .external _ _ => True

/-- Two searches do the same, and what they find lies in one of the files. -/
structure Visit.Alike (p : Program) (F : String → Prop) (v w : Visit) : Prop where
  eq : w = v
  within : ∀ target, v.outcome = some (some target) → Target.Within p F target

/-- Two ways to look up names inside files do the same in the files, and do not leave them. -/
def AlikeIn (p : Program) (F : String → Prop) (a b : String → String → Search) : Prop :=
  ∀ name {file}, F file → b name file = a name file ∧
    ∀ target, a name file = some (some target) → Target.Within p F target

theorem Visit.alike_of_found {found : Option Target} (visited : List String)
    (h : ∀ target, found = some target → Target.Within p F target) :
    Visit.Alike p F ⟨some found, visited, []⟩ ⟨some found, visited, []⟩ :=
  ⟨rfl, fun target htarget => h target (Option.some.inj htarget)⟩

theorem Visit.alike_external (visited : List String) (module name : String) :
    Visit.Alike p F ⟨some (some (.external module name)), visited, []⟩
      ⟨some (some (.external module name)), visited, []⟩ := by
  refine alike_of_found visited fun target htarget => ?_
  cases htarget
  trivial

theorem Visit.Alike.firstOf {search search' : String → List String → Visit} {files : List String}
    (h : ∀ file ∈ files, ∀ visited, Visit.Alike p F (search file visited) (search' file visited))
    (visited : List String) :
    Visit.Alike p F (firstOf search files visited) (firstOf search' files visited) := by
  induction files generalizing visited with
  | nil => exact alike_of_found visited fun _ ht => by cases ht
  | cons file files ih =>
    obtain ⟨heq, hwithin⟩ := h file List.mem_cons_self visited
    obtain ⟨heq', hwithin'⟩ := ih (fun other ho => h other (List.mem_cons_of_mem _ ho))
      (search file visited).visited
    by_cases hnothing : (search file visited).outcome = some none
    · have hnothing' := hnothing
      rw [← heq] at hnothing'
      rw [firstOf_of_nothing hnothing, firstOf_of_nothing hnothing', heq, heq']
      exact ⟨rfl, hwithin'⟩
    · have hnothing' := hnothing
      rw [← heq] at hnothing'
      rw [firstOf_of_ne hnothing, firstOf_of_ne hnothing', heq]
      exact ⟨rfl, hwithin⟩

theorem mem_modulesOf_export {f : SourceFile} {e : Export} {module : String} (he : e ∈ f.exports)
    (hmodule : e.module? = some module) : module ∈ FileGraph.modulesOf f :=
  List.mem_append_right _ (List.mem_filterMap.2 ⟨e, he, hmodule⟩)

theorem mem_modulesOf_import {f : SourceFile} {i : Import} (hi : f.importOf? name = some i) :
    i.module ∈ FileGraph.modulesOf f :=
  List.mem_append_left _ (List.mem_map_of_mem (List.mem_of_find?_eq_some hi))

section Accord

variable (A : Accord p q F) {a b : String → String → Search}

include A

theorem Accord.starTargets_eq {f f' : SourceFile} (hexports : f'.exports = f.exports) (file : String) :
    q.starTargets f' file = p.starTargets f file := by
  simp only [starTargets, hexports, A.module?_eq]

theorem Accord.starTargets_mem {f : SourceFile} {target : String} (hfile : F file)
    (hf : p.file? file = some f) (h : target ∈ p.starTargets f file) : F target := by
  obtain ⟨e, he, htarget⟩ := List.mem_filterMap.1 h
  split at htarget
  · exact A.closed hfile hf (mem_modulesOf_export he rfl) htarget
  · cases htarget

theorem Accord.exportedFrom (hlocal : AlikeIn p F a b) (fuel : ℕ) (hfile : F file) (name : String)
    (visited : List String) :
    Visit.Alike p F (exportedFrom p a fuel file name visited) (exportedFrom q b fuel file name visited) := by
  induction fuel generalizing file name visited with
  | zero => exact ⟨rfl, fun _ ht => by cases ht⟩
  | succ fuel ih =>
    rw [Program.exportedFrom, Program.exportedFrom]
    split
    · exact Visit.alike_of_found visited fun _ ht => by cases ht
    · rcases (A.sameFile hfile).cases with ⟨hf, hf'⟩ | ⟨f, f', hf, hf', -, hexports, -⟩
      · rw [hf, hf']
        exact Visit.alike_of_found _ fun _ ht => by cases ht
      · have hnamed : namedExport? f' name = namedExport? f name := by
          rw [namedExport?, namedExport?, hexports]
        have hstars : Visit.Alike p F
            (firstOf (fun target visited => Program.exportedFrom p a fuel target name visited)
              (p.starTargets f file) (file :: visited))
            (firstOf (fun target visited => Program.exportedFrom q b fuel target name visited)
              (q.starTargets f' file) (file :: visited)) := by
          rw [A.starTargets_eq hexports]
          exact Visit.Alike.firstOf
            (fun target ht vs => ih (A.starTargets_mem hfile hf ht) name vs) _
        simp only [hf, hf', hnamed, A.module?_eq]
        rcases hn : namedExport? f name with
          _ | ⟨exported, localName⟩ | ⟨exported, imported, module⟩ | module
        · exact hstars
        · obtain ⟨heq, hwithin⟩ := hlocal localName hfile
          exact ⟨by simp only [heq], hwithin⟩
        · dsimp only
          cases hm : p.module? file module with
          | none => exact Visit.alike_external _ _ _
          | some target =>
            have hmem := mem_modulesOf_export (List.mem_of_find?_eq_some hn) rfl
            exact ih (A.closed hfile hf hmem hm) imported _
        · exact hstars

theorem Accord.exportSearch (hlocal : AlikeIn p F a b) (hfile : F file) (name : String) :
    Visit.Alike p F (p.exportSearch a file name) (q.exportSearch b file name) := by
  rw [Program.exportSearch, Program.exportSearch, A.exportBound_eq]
  exact A.exportedFrom hlocal _ hfile name []

theorem Accord.nameSearch (hlocal : AlikeIn p F a b) (hfile : F file) (name : String) :
    Visit.Alike p F (p.nameSearch a name file) (q.nameSearch b name file) := by
  have hsame := A.sameFile hfile
  rw [Program.nameSearch, Program.nameSearch]
  rcases hsame.cases with ⟨hf, hf'⟩ | ⟨f, f', hf, hf', himports, -, hdeclarations⟩
  · rw [hf, hf']
    exact Visit.alike_of_found [] fun _ ht => by cases ht
  · have hids : p.declarationsOf file = f.declarations := by rw [declarationsOf, hf]; rfl
    have hfind : (f'.declarations.find? fun id => ((q.declaration? id).map (·.name)) == some name) =
        f.declarations.find? fun id => ((p.declaration? id).map (·.name)) == some name := by
      rw [hdeclarations]
      refine List.find?_congr fun id hid => ?_
      rw [hsame.declarations id (hids ▸ hid)]
    have himport : f'.importOf? name = f.importOf? name := by
      rw [SourceFile.importOf?, SourceFile.importOf?, himports]
    simp only [hf, hf', hfind, himport, A.module?_eq]
    cases hd : f.declarations.find? fun id => ((p.declaration? id).map (·.name)) == some name with
    | some id =>
      refine Visit.alike_of_found [] fun target ht => ?_
      rw [← Option.some.inj ht]
      exact ⟨file, hfile, hids ▸ List.mem_of_find?_eq_some hd⟩
    | none =>
      cases hi : f.importOf? name with
      | none => exact Visit.alike_of_found [] fun _ ht => by cases ht
      | some i =>
        dsimp only
        cases hm : p.module? file i.module with
        | none => cases i.imported <;> exact Visit.alike_external _ _ _
        | some target =>
          have htarget : F target := A.closed hfile hf (mem_modulesOf_import hi) hm
          cases i.imported with
          | whole => exact Visit.alike_of_found [] fun _ ht => Option.some.inj ht ▸ htarget
          | named imported => exact A.exportSearch hlocal htarget imported
          | default => exact A.exportSearch hlocal htarget "default"

theorem Accord.lookup (n : ℕ) : AlikeIn p F (p.lookup n) (q.lookup n) := by
  induction n with
  | zero => exact fun _ _ _ => ⟨rfl, fun _ ht => by cases ht⟩
  | succ n ih =>
    intro name file hfile
    obtain ⟨heq, hwithin⟩ := A.nameSearch ih hfile name
    exact ⟨congrArg Visit.outcome heq, hwithin⟩

omit A in
/-- More names than the bound need not be looked up. -/
theorem lookup_of_le {n : ℕ} (h : p.lookupBound ≤ n) : p.lookup n = p.lookup p.lookupBound := by
  funext name file
  cases hn : p.lookup n name file with
  | some found => exact (lookup_lookupBound (q := (name, file)) hn).symm
  | none =>
    cases hbound : p.lookup p.lookupBound name file with
    | none => rfl
    | some found => rw [lookup_refines h hbound] at hn; cases hn

theorem Accord.lookup_lookupBound :
    AlikeIn p F (p.lookup p.lookupBound) (q.lookup q.lookupBound) := by
  rw [← lookup_of_le (Nat.le_max_left p.lookupBound q.lookupBound),
    ← lookup_of_le (Nat.le_max_right p.lookupBound q.lookupBound)]
  exact A.lookup _

theorem Accord.identifier?_eq (hfile : F file) : q.identifier? name file = p.identifier? name file :=
  congrArg Option.join (A.lookup_lookupBound name hfile).1

theorem Accord.identifier?_within {target : Target} (hfile : F file)
    (h : p.identifier? name file = some target) : Target.Within p F target :=
  (A.lookup_lookupBound name hfile).2 target (Option.join_eq_some_iff.1 h)

theorem Accord.export?_eq (hfile : F file) : q.export? file name = p.export? file name := by
  rw [export?, export?, exported, exported, (A.exportSearch A.lookup_lookupBound hfile name).eq]

theorem Accord.export?_within {target : Target} (hfile : F file)
    (h : p.export? file name = some target) : Target.Within p F target :=
  (A.exportSearch A.lookup_lookupBound hfile name).within target (Option.join_eq_some_iff.1 h)

end Accord

/-! ### Loaded programs -/

section Loaded

variable {host host' : Host} {settings settings' : Settings} {roots roots' : List String}

/-- The declarations that are listed for a file carry their number and the path of the file. -/
theorem Closure.declaration_of_mem (h : p.Closure host settings roots) {id : DeclarationId}
    (hid : id ∈ p.declarationsOf path) :
    ∃ d, p.declaration? id = some d ∧ d.id = id ∧ d.file = path := by
  cases hf : p.file? path with
  | none => simp [declarationsOf, hf] at hid
  | some f =>
    rw [declarationsOf, hf] at hid
    obtain ⟨hmem, rfl⟩ := mem_files_of_file? hf
    obtain ⟨c, -, hrep⟩ := h.filed.contents f hmem
    obtain ⟨i, hi, rfl⟩ := List.getElem_of_mem hid
    have hlength := hrep.declarations.length_eq
    exact ⟨_, hrep.declarations.get hi (hlength ▸ hi), rfl, rfl⟩

theorem Closure.length_files_eq (hp : p.Closure host settings roots)
    (hq : q.Closure host' settings' roots') (hfiles : ∀ path, q.hasFile path = p.hasFile path) :
    q.files.length = p.files.length := by
  have hperm : (q.files.map (·.path)).Perm (p.files.map (·.path)) := by
    refine (List.perm_ext_iff_of_nodup hq.nodup hp.nodup).2 fun path => ?_
    rw [← hasFile_iff, ← hasFile_iff, hfiles]
  simpa using hperm.length_eq

/-- Loaded programs with the same settings and the same paths agree on what a file leads to, if they
have the same files there. -/
theorem Closure.accord (hp : p.Closure host settings roots) (hq : q.Closure host' settings' roots')
    (hsettings : q.settings = p.settings) (hfiles : ∀ path, q.hasFile path = p.hasFile path)
    (hsame : ∀ target, p.Reaches file target → SameFile p q target) :
    Accord p q (p.Reaches file) where
  module?_eq origin specifier := by rw [module?, module?, hsettings, funext hfiles]
  exportBound_eq := by rw [exportBound, exportBound, hp.length_files_eq hq hfiles]
  sameFile := hsame _
  closed hfile hf hmodule htarget := hfile.module? hf hmodule htarget

/-- The paths of the files, each with the numbers of its declarations. -/
def outline (p : Program) : List (String × List DeclarationId) :=
  p.files.map fun f => (f.path, f.declarations)

theorem hasFile_outline (h : q.outline = p.outline) (path : String) : q.hasFile path = p.hasFile path := by
  have houtline : ∀ p : Program, p.hasFile path = p.outline.any fun e => e.1 == path := by
    intro p
    simp [hasFile, outline, List.any_map, Function.comp_def]
  rw [houtline, houtline, h]

theorem declarationsOf_outline (h : q.outline = p.outline) (path : String) :
    q.declarationsOf path = p.declarationsOf path := by
  have houtline : ∀ p : Program,
      p.declarationsOf path = ((p.outline.find? fun e => e.1 == path).map (·.2)).getD [] := by
    intro p
    simp [declarationsOf, file?, outline, List.find?_map, Function.comp_def]
  rw [houtline, houtline, h]

theorem isSome_file? (p : Program) (path : String) : (p.file? path).isSome = p.hasFile path := by
  rw [Bool.eq_iff_iff, file?, List.find?_isSome, hasFile, List.any_eq_true]

/-- A file with the same text is the same, if the parser is the same and no declaration changes its
number. -/
theorem sameFile_of_text (hp : p.Closure host settings roots) (hq : q.Closure host' settings' roots')
    (houtline : q.outline = p.outline) (hparse : host'.parse = host.parse)
    (htext : host'.read? path = host.read? path) : SameFile p q path := by
  have hfound : (q.file? path).isSome = (p.file? path).isSome := by
    rw [isSome_file?, isSome_file?, hasFile_outline houtline]
  have hids := declarationsOf_outline houtline path
  cases hf : p.file? path with
  | none =>
    have hf' : q.file? path = none := by simpa [hf] using hfound
    exact ⟨by rw [hf, hf'], by simp [declarationsOf, hf]⟩
  | some f =>
    obtain ⟨f', hf'⟩ := Option.isSome_iff_exists.1 (hfound.trans (by rw [hf]; rfl))
    simp only [declarationsOf, hf, hf', Option.map_some, Option.getD_some] at hids
    obtain ⟨hmem, rfl⟩ := mem_files_of_file? hf
    obtain ⟨hmem', hpath⟩ := mem_files_of_file? hf'
    obtain ⟨c, hc, hrep⟩ := hp.filed.contents f hmem
    obtain ⟨c', hc', hrep'⟩ := hq.filed.contents f' hmem'
    have hcontents : c' = c := by
      rw [hpath, contents?, hparse, htext] at hc'
      exact Option.some.inj (hc'.symm.trans hc)
    subst hcontents
    refine ⟨?_, fun id hid => ?_⟩
    · rw [hf, hf', Option.map_some, Option.map_some, hrep.imports_eq, hrep.exports_eq,
        hrep'.imports_eq, hrep'.exports_eq, hids]
    · rw [declarationsOf, hf] at hid
      obtain ⟨i, hi, rfl⟩ := List.getElem_of_mem hid
      have hlength := hrep.declarations.length_eq
      have hold := hrep.declarations.get hi (hlength ▸ hi)
      have hnew := hrep'.declarations.get (hids ▸ hi) (hlength ▸ hi)
      simp only [hids, hpath, List.get_eq_getElem] at hold hnew
      exact hnew.trans hold.symm

end Loaded

end Program

/-! ### Values -/

namespace Evaluation

open Program

variable {p q : Program} {host host' : Host} {settings settings' : Settings} {roots roots' : List String}

/-- The references to the declarations of some files. -/
def ReferenceWithin (p : Program) (F : String → Prop) (r : Reference) : Prop :=
  ∃ file, F file ∧ r.id ∈ p.declarationsOf file

theorem enclave_of_accord {F : String → Prop} (A : Accord p q F)
    (hp : p.Closure host settings roots) : Enclave p q F (ReferenceWithin p F) := by
  have hinside : ∀ target, Target.Within p F target → Inside p q F (ReferenceWithin p F) target := by
    intro target hwithin
    cases target with
    | declaration id =>
      obtain ⟨file, hfile, hid⟩ := hwithin
      refine ⟨(A.sameFile hfile).declarations id hid, fun d hd => ?_⟩
      obtain ⟨d', hd', hnumber, hpath⟩ := hp.declaration_of_mem hid
      cases hd.symm.trans hd'
      refine ⟨hpath ▸ hfile, fun _ => ⟨file, hfile, ?_⟩⟩
      rw [Reference.ofDeclaration, hnumber]
      exact hid
    | whole file => exact hwithin
    | external module name => trivial
  exact {
    identifier?_eq := fun hfile => A.identifier?_eq hfile
    export?_eq := fun hfile => A.export?_eq hfile
    identifier?_inside := fun hfile h => hinside _ (A.identifier?_within hfile h)
    export?_inside := fun hfile h => hinside _ (A.export?_within hfile h)
    declaration?_eq := fun ⟨file, hfile, hid⟩ => (A.sameFile hfile).declarations _ hid
    file_of_reference := by
      rintro r d ⟨file, hfile, hid⟩ hd
      obtain ⟨d', hd', -, hpath⟩ := hp.declaration_of_mem hid
      cases hd.symm.trans hd'
      exact hpath ▸ hfile }

theorem evaluate_of_reaches (hp : p.Closure host settings roots) (hq : q.Closure host' settings' roots')
    (hsettings : q.settings = p.settings) (hfiles : ∀ path, q.hasFile path = p.hasFile path)
    (file : String) (hsame : ∀ target, p.Reaches file target → SameFile p q target) (depth : Nat)
    (e : Expr) : evaluate q depth e file [] = evaluate p depth e file [] := by
  have E := enclave_of_accord (hp.accord hq hsettings hfiles hsame) hp
  have hplace : Place.Confined (p.Reaches file) (ReferenceWithin p (p.Reaches file)) { file } :=
    confined_file .refl
  rw [evaluate, evaluate, (visit_same E depth hplace e).1]

/-- A value depends only on the files that dependencies lead to from the file of the expression. A
change of files leaves all values as they are in the files that it does not concern. -/
theorem evaluate_of_sameFiles (hp : load host roots settings = .ok p)
    (hq : load host' roots' settings' = .ok q) (hsettings : q.settings = p.settings)
    (hfiles : ∀ path, q.hasFile path = p.hasFile path) :
    (∀ file, (∀ target, p.Reaches file target → SameFile p q target) →
      ∀ depth e, evaluate q depth e file [] = evaluate p depth e file []) ∧
    ∀ changed, (∀ path ∉ changed, SameFile p q path) →
      ∀ file ∉ (FileGraph.ofProgram p).affected changed,
        ∀ depth e, evaluate q depth e file [] = evaluate p depth e file [] := by
  have hreaches := evaluate_of_reaches (closure_of_load hp) (closure_of_load hq) hsettings hfiles
  refine ⟨hreaches, fun changed hsame file hfile => hreaches file fun target htarget => hsame target ?_⟩
  intro hchanged
  exact hfile ((FileGraph.mem_affected (FileGraph.inverse_ofProgram p)).2 ⟨target, hchanged, htarget⟩)

/-- An application that shows a title, which it imports through another file, and beside it a file
with a variable. -/
def titleHost (value : String) : Host :=
  (Host.ofList [("/main.ts", "import { title } from './names'; export const shown = title;"),
    ("/names.ts", "export * from './title';"), ("/title.ts", "export const title = 'Atlas';")]).write
      "/beside.ts" ("import { shown } from './main'; const x = " ++ value ++ ";")

/-- The text of the value of a name of a file. -/
def textOf (p : Program) (name file : String) : Option String :=
  (evaluate p 9 (.node (.ident name) ⟨0, 0⟩) file []).value.asString?

theorem evaluate_of_sameFiles_beside :
    ∃ p q, load (titleHost "shown") ["/main.ts", "/beside.ts"] {} = .ok p ∧
      load (titleHost "'Plan'") ["/main.ts", "/beside.ts"] {} = .ok q ∧
      textOf p "x" "/beside.ts" = some "Atlas" ∧ textOf q "x" "/beside.ts" = some "Plan" ∧
      textOf p "shown" "/main.ts" = some "Atlas" ∧
      ∀ depth e, evaluate q depth e "/main.ts" [] = evaluate p depth e "/main.ts" [] := by
  have hroots : ["/main.ts", "/beside.ts"] ≠ [] := by simp
  have hthere : ∀ root ∈ ["/main.ts", "/beside.ts"], (titleHost "shown").contains (Path.normalize root) := by
    decide +kernel
  have hthere' : ∀ root ∈ ["/main.ts", "/beside.ts"], (titleHost "'Plan'").contains (Path.normalize root) := by
    decide +kernel
  obtain ⟨p, hp, hclosure⟩ := exists_load {} hroots hthere
  obtain ⟨q, hq, hclosure'⟩ := exists_load {} hroots hthere'
  have hbefore : (load (titleHost "shown") ["/main.ts", "/beside.ts"] {}).toOption.map (fun p =>
      (p.outline, textOf p "x" "/beside.ts", textOf p "shown" "/main.ts",
        (FileGraph.ofProgram p).affected ["/beside.ts"])) =
      some ([("/main.ts", [0]), ("/beside.ts", [1]), ("/names.ts", []), ("/title.ts", [2])],
        some "Atlas", some "Atlas", ["/beside.ts"]) := by decide +kernel
  have hafter : (load (titleHost "'Plan'") ["/main.ts", "/beside.ts"] {}).toOption.map (fun p =>
      (p.outline, textOf p "x" "/beside.ts")) =
      some ([("/main.ts", [0]), ("/beside.ts", [1]), ("/names.ts", []), ("/title.ts", [2])],
        some "Plan") := by decide +kernel
  rw [hp] at hbefore
  rw [hq] at hafter
  simp only [Except.toOption, Option.map_some, Option.some.injEq, Prod.mk.injEq] at hbefore hafter
  obtain ⟨houtline, hx, hshown, haffected⟩ := hbefore
  obtain ⟨houtline', hx'⟩ := hafter
  have hsame : ∀ path ∉ ["/beside.ts"], SameFile p q path := by
    intro path hpath
    have hnormal : Path.normalize "/beside.ts" = "/beside.ts" := by decide +kernel
    have hne : path ≠ Path.normalize "/beside.ts" := by simpa [hnormal] using hpath
    refine sameFile_of_text hclosure hclosure' (houtline'.trans houtline.symm) rfl ?_
    exact (Table.get?_put_of_ne hne _ _).trans (Table.get?_put_of_ne hne _ _).symm
  have hmain : "/main.ts" ∉ (FileGraph.ofProgram p).affected ["/beside.ts"] := by
    rw [haffected]
    decide
  refine ⟨p, q, hp, hq, hx, hx', hshown, ?_⟩
  exact (evaluate_of_sameFiles hp hq (hclosure'.settings_eq.trans hclosure.settings_eq.symm)
    (hasFile_outline (houtline'.trans houtline.symm))).2 ["/beside.ts"] hsame "/main.ts" hmain

end Evaluation

end ComponentAtlas
