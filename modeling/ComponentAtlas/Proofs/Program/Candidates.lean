import ComponentAtlas.Proofs.Path.Normal
import ComponentAtlas.Proofs.Program.Loading
import ComponentAtlas.Proofs.Table.Keys

/-!
# Paths that are tried for a module specifier

A module specifier leads to a normal path, and what is tried are this path and a few texts put behind
it. The files of a program have normal paths, so only a normal path can be found. What is put behind
the last segment of a path leaves it normal, and so does a further segment; but a segment put behind the
root or the current directory does not, so the index of these two directories is never found.

* `Settings.candidate_cases`: the forms of the paths that are tried;
* `Settings.normalize_candidate_iff`: which of them are normal;
* `Program.normalize_of_hasFile`: the files of a program have normal paths;
* `Program.module?_tries`: what is tried for a specifier, what is found, and which file stands for a
  directory.
-/

namespace ComponentAtlas

open ComponentAtlas.Text

namespace Path

variable {rooted : Bool} {s : String} {below : List String}

theorem isName_of_last {c : Char} (hplain : '/' ∉ s.toList) (hlast : s.toList.getLast? = some c) (hc : c ≠ '.') :
    IsName s := by
  refine ⟨?_, ?_, ?_, hplain⟩
  all_goals
    rintro rfl
    cases hlast
  · exact hc rfl
  · exact hc rfl

/-- A mark without separators at the end of a path stands at the end of its last segment. -/
theorem front_eq_append {stem mark : String} (hmark : '/' ∉ mark.toList)
    (h : front rooted below ++ s = stem ++ mark) :
    ∃ s', s = s' ++ mark ∧ stem = front rooted below ++ s' := by
  have hlists : (front rooted below).toList ++ s.toList = stem.toList ++ mark.toList := by
    simpa using congrArg String.toList h
  rcases List.append_eq_append_iff.1 hlists with ⟨more, hstem, hs⟩ | ⟨more, hfront, hmore⟩
  · exact ⟨String.ofList more, String.toList_inj.1 (by simpa using hs), String.toList_inj.1 (by simpa using hstem)⟩
  · rcases List.eq_nil_or_concat more with rfl | ⟨init, last, rfl⟩
    · refine ⟨"", String.toList_inj.1 (by simpa using hmore.symm), String.toList_inj.1 ?_⟩
      simpa using hfront.symm
    · -- the front would end inside the mark, but it ends with a separator
      have hlast : last ∈ mark.toList := by simp [hmore]
      rcases front_ends rooted below with hend | hend
      · simp [hend] at hfront
      · rw [hfront] at hend
        simp only [List.concat_eq_append, ← List.append_assoc, List.getLast?_append, List.getLast?_singleton,
          Option.some_or, Option.some.injEq] at hend
        exact absurd (hend ▸ hlast) hmark

end Path

namespace Settings

open ComponentAtlas.Path

variable {rooted : Bool} {s base c : String} {below : List String}

theorem stem_cases (h : (stripEmittedExtension base).utf8ByteSize < base.utf8ByteSize) :
    ∃ mark ∈ [".js", ".mjs"], base = stripEmittedExtension base ++ mark := by
  unfold stripEmittedExtension at h ⊢
  cases hjs : dropEnd? ".js" base with
  | some stem => exact ⟨".js", by simp, dropEnd?_eq_some_iff.1 hjs⟩
  | none =>
    cases hmjs : dropEnd? ".mjs" base with
    | some stem => exact ⟨".mjs", by simp, dropEnd?_eq_some_iff.1 hmjs⟩
    | none =>
      rw [hjs, hmjs] at h
      exact absurd h (lt_irrefl _)

/-- What is tried for a path: the path itself, an extension behind the path or in place of the one of an
emitted file, and the index of the directory. -/
theorem candidate_cases (h : c ∈ candidates base) :
    c = base ∨
    (∃ stem mark, '/' ∉ mark.toList ∧ base = stem ++ mark ∧ (c = stem ++ ".ts" ∨ c = stem ++ ".d.ts")) ∨
    (c = base ++ "/index.ts" ∨ c = base ++ "/index.d.ts") := by
  rw [candidates, List.mem_append, List.mem_append] at h
  rcases h with (hown | hemitted) | hlast
  · split at hown
    · exact .inl (List.mem_singleton.1 hown)
    · cases hown
  · split at hemitted
    · next hshorter =>
      obtain ⟨mark, hmark, hbase⟩ := stem_cases hshorter
      have hplain : '/' ∉ mark.toList := by
        simp only [List.mem_cons, List.not_mem_nil, or_false] at hmark
        rcases hmark with rfl | rfl <;> decide
      exact .inr (.inl ⟨_, mark, hplain, hbase, by simpa using hemitted⟩)
    · cases hemitted
  · simp only [List.mem_cons, List.not_mem_nil, or_false] at hlast
    rcases hlast with rfl | rfl | rfl | rfl
    · exact .inr (.inl ⟨base, "", by decide, by simp, .inl rfl⟩)
    · exact .inr (.inl ⟨base, "", by decide, by simp, .inr rfl⟩)
    · exact .inr (.inr (.inl rfl))
    · exact .inr (.inr (.inr rfl))

/-- What is tried for a path with a last segment is normal. -/
theorem normalize_candidate (h : Resolved rooted (s :: below)) (hc : c ∈ candidates (front rooted below ++ s)) :
    normalize c = c := by
  have hplain := (h.begins s List.mem_cons_self).1
  rcases candidate_cases hc with rfl | ⟨stem, mark, hmark, hbase, hext⟩ | hindex
  · exact normalize_front h
  · obtain ⟨s', rfl, rfl⟩ := front_eq_append hmark hbase
    have hextended : ∀ extension : String, '/' ∉ extension.toList → extension.toList.getLast? = some 's' →
        normalize (front rooted below ++ s' ++ extension) = front rooted below ++ s' ++ extension := by
      intro extension hslash hlast
      have hname : IsName (s' ++ extension) := by
        refine isName_of_last ?_ (c := 's') (by simp [hlast]) (by decide)
        rw [String.toList_append, List.mem_append, not_or] at hplain ⊢
        exact ⟨hplain.1, hslash⟩
      rw [String.append_assoc]
      exact normalize_front (.name hname h.tail)
    rcases hext with rfl | rfl
    · exact hextended ".ts" (by decide) rfl
    · exact hextended ".d.ts" (by decide) rfl
  · have hinside : ∀ name : String, IsName name →
        normalize (front rooted below ++ s ++ ("/" ++ name)) = front rooted below ++ s ++ ("/" ++ name) := by
      intro name hname
      have hnormal := normalize_front (.name hname h)
      rwa [front, String.append_assoc] at hnormal
    rcases hindex with rfl | rfl
    · exact hinside "index.ts" (isName_of_last (by decide) (c := 's') rfl (by decide))
    · exact hinside "index.d.ts" (isName_of_last (by decide) (c := 's') rfl (by decide))

/-- The root and the current directory, which have no last segment. -/
theorem candidates_top (hbase : base = "/" ∨ base = ".") :
    candidates base = [base ++ ".ts", base ++ ".d.ts", base ++ "/index.ts", base ++ "/index.d.ts"] ∧
      normalize (base ++ ".ts") = base ++ ".ts" ∧ normalize (base ++ ".d.ts") = base ++ ".d.ts" ∧
      normalize (base ++ "/index.ts") ≠ base ++ "/index.ts" ∧
      normalize (base ++ "/index.d.ts") ≠ base ++ "/index.d.ts" := by
  rcases hbase with rfl | rfl <;> decide

/-- What is tried for a normal path is normal, except the index of the root and of the current
directory. -/
theorem normalize_candidate_iff (hbase : normalize base = base) (hc : c ∈ candidates base) :
    normalize c = c ↔ ¬ ((base = "/" ∨ base = ".") ∧ (c = base ++ "/index.ts" ∨ c = base ++ "/index.d.ts")) := by
  by_cases htop : base = "/" ∨ base = "."
  · obtain ⟨hall, hts, hdts, hindex, hindex'⟩ := candidates_top htop
    simp only [htop, true_and, not_or]
    refine ⟨fun h => ⟨?_, ?_⟩, fun h => ?_⟩
    · rintro rfl
      exact hindex h
    · rintro rfl
      exact hindex' h
    · rw [hall] at hc
      simp only [List.mem_cons, List.not_mem_nil, or_false, h, or_self] at hc
      rcases hc with rfl | rfl
      · exact hts
      · exact hdts
  · refine iff_of_true ?_ fun h => htop h.1
    rcases normalize_cases base with h | ⟨rooted, s, below, hstack, h⟩
    · exact absurd (hbase ▸ h) htop
    · rw [← hbase, h] at hc
      exact normalize_candidate hstack hc

theorem normalize_of_mem_bases {settings : Settings} {origin specifier : String}
    (h : base ∈ settings.bases origin specifier) : normalize base = base := by
  suffices ∃ dir path, base = join dir path by
    obtain ⟨dir, path, rfl⟩ := this
    exact normalize_join dir path
  unfold bases at h
  split at h
  · exact ⟨_, _, List.mem_singleton.1 h⟩
  · rcases List.mem_append.1 h with hmapped | hinstalled
    · obtain ⟨⟨pattern, targets⟩, -, hmem⟩ := List.mem_flatMap.1 hmapped
      dsimp only at hmem
      split at hmem
      · cases hmem
      · obtain ⟨target, -, rfl⟩ := List.mem_map.1 hmem
        exact ⟨_, _, rfl⟩
    · obtain ⟨dir, -, rfl⟩ := List.mem_map.1 hinstalled
      exact ⟨_, _, rfl⟩

/-- A relative specifier stands for the first file among what is tried for the path that it leads to. -/
theorem resolve_relative {settings : Settings} {isFile : String → Bool} {origin specifier : String}
    (h : isLocalRelative specifier) :
    settings.resolve isFile origin specifier =
      (candidates (join (dirname origin) specifier)).find? isFile := by
  rw [resolve, bases, if_pos (by rw [h, Bool.true_or]), List.findSome?_singleton]

end Settings

/-! ### Files of a program -/

theorem Host.normalize_of_mem_paths {files : List (String × String)} {parse : Script.Parser} :
    ∀ path ∈ (Host.ofList files parse).paths, Path.normalize path = path := by
  refine List.foldlRecOn (motive := fun host : Host => ∀ path ∈ host.paths, Path.normalize path = path)
    files _ (by simp [paths]) fun host hhost f _ path hpath => ?_
  rw [paths, write, Table.keys_put, mem_addNew] at hpath
  rcases hpath with hpath | rfl
  · exact hhost path hpath
  · exact Path.normalize_normalize f.1

namespace Program

open ComponentAtlas.Path Settings

variable {files : List (String × String)} {parse : Script.Parser} {settings : Settings}
  {roots : List String} {p : Program} {origin specifier target d : String}

/-- The files of a program have normal paths. -/
theorem normalize_of_hasFile (hload : load (.ofList files parse) roots settings = .ok p) {path : String}
    (h : p.hasFile path) : normalize path = path := by
  cases ((closure_of_load hload).mem_iff path).1 (hasFile_iff.1 h) with
  | root _ => exact normalize_normalize _
  | specifier _ _ _ htarget =>
    exact Host.normalize_of_mem_paths path (Host.mem_paths (isFile_of_resolve htarget))

theorem find?_of_takeWhile {paths : List String} {isFile : String → Bool} (hmem : target ∈ paths)
    (hfile : isFile target) (hfirst : ∀ c ∈ paths.takeWhile (· ≠ target), isFile c = false) :
    paths.find? isFile = some target := by
  induction paths with
  | nil => cases hmem
  | cons c paths ih =>
    by_cases hc : c = target
    · rw [List.find?_cons_of_pos (hc ▸ hfile), hc]
    · rw [List.takeWhile_cons_of_pos (by simpa using hc)] at hfirst
      obtain ⟨hnone, hfirst⟩ := List.forall_mem_cons.1 hfirst
      rw [List.find?_cons_of_neg (by simp [hnone])]
      exact ih ((List.mem_cons.1 hmem).resolve_left (Ne.symm hc)) hfirst

/-- A directory other than the root and the current one stands for its index, if nothing that is tried
earlier is a file. -/
theorem find?_index {isFile : String → Bool} (hd : normalize d = d) (htop : ¬ (d = "/" ∨ d = "."))
    (hindex : isFile (join d "index.ts"))
    (hfirst : ∀ c ∈ (candidates d).takeWhile (· ≠ d ++ "/index.ts"), isFile c = false) :
    (candidates d).find? isFile = some (join d "index.ts") := by
  have hmem : d ++ "/index.ts" ∈ candidates d := by simp [candidates]
  have hnormal : normalize (d ++ "/index.ts") = d ++ "/index.ts" :=
    (normalize_candidate_iff hd hmem).2 fun h => htop h.1
  have hjoin : join d "index.ts" = d ++ "/index.ts" := by
    rw [join, if_neg (by decide), String.append_assoc]
    exact hnormal
  rw [hjoin] at hindex ⊢
  exact find?_of_takeWhile hmem hindex hfirst

/-- Nothing is found for the root and the current directory, if neither of them with an extension behind
it is a file. -/
theorem find?_top {isFile : String → Bool} (htop : d = "/" ∨ d = ".")
    (hnormal : ∀ path, isFile path → normalize path = path)
    (hfirst : ∀ c ∈ (candidates d).takeWhile (· ≠ d ++ "/index.ts"), isFile c = false) :
    (candidates d).find? isFile = none := by
  obtain ⟨hall, -, -, hindex, hindex'⟩ := candidates_top htop
  have htake : (candidates d).takeWhile (· ≠ d ++ "/index.ts") = [d ++ ".ts", d ++ ".d.ts"] := by
    rcases htop with rfl | rfl <;> decide
  rw [htake] at hfirst
  rw [List.find?_eq_none, hall]
  intro c hc hfile
  simp only [List.mem_cons, List.not_mem_nil, or_false] at hc
  rcases hc with rfl | rfl | rfl | rfl
  · simp [hfirst] at hfile
  · simp [hfirst] at hfile
  · exact hindex (hnormal _ hfile)
  · exact hindex' (hnormal _ hfile)

/-- **What is tried for a module specifier.** It is in normal form, except the index of the root and of
the current directory. What is found is normal. A directory is found by its index, if nothing that is
tried earlier is a file, except that nothing is found for the root and the current directory. -/
theorem module?_tries (hload : load (.ofList files parse) roots settings = .ok p) :
    (∀ (s : Settings) (origin specifier : String), ∀ base ∈ s.bases origin specifier, ∀ c ∈ candidates base,
      (normalize c = c ↔
        ¬ ((base = "/" ∨ base = ".") ∧ (c = base ++ "/index.ts" ∨ c = base ++ "/index.d.ts")))) ∧
    (∀ origin specifier target, p.module? origin specifier = some target → normalize target = target) ∧
    ∀ origin specifier d, isLocalRelative specifier → join (dirname origin) specifier = d →
      p.hasFile (join d "index.ts") →
      (∀ c ∈ (candidates d).takeWhile (· ≠ d ++ "/index.ts"), p.hasFile c = false) →
      p.module? origin specifier = if d = "/" ∨ d = "." then none else some (join d "index.ts") := by
  refine ⟨fun s origin specifier base hbase c hc => ?_, fun origin specifier target htarget => ?_, ?_⟩
  · exact normalize_candidate_iff (normalize_of_mem_bases hbase) hc
  · exact normalize_of_hasFile hload (isFile_of_resolve htarget)
  · rintro origin specifier _ hrelative rfl hindex hfirst
    rw [module?, resolve_relative hrelative]
    split
    · next htop => exact find?_top htop (fun path => normalize_of_hasFile hload) hfirst
    · next htop => exact find?_index (normalize_join _ _) htop hindex hfirst

/-- A file that refers to the index of its own directory, which is the root, and to one of a library. -/
def indexedHost : Host :=
  .ofList [("/a.ts", "import { x } from '.'; import { y } from './lib';"), ("/index.ts", "export const x = 1;"),
    ("/lib/index.ts", "export const y = 2;")]

/-- Its program. -/
def indexed : Program := ((load indexedHost ["/a.ts", "/index.ts"] {}).toOption).getD {}

/-- Both indexes are files of the program, and nothing is that is tried earlier. -/
theorem indexed_files :
    (load indexedHost ["/a.ts", "/index.ts"] {}).toOption.isSome ∧
      (∀ path ∈ ["/index.ts", "/lib/index.ts"], indexed.hasFile path) ∧
      (∀ path ∈ ["/.ts", "/.d.ts", "/lib.ts", "/lib.d.ts"], indexed.hasFile path = false) ∧
      indexed.module? "/a.ts" "." = none := by decide +kernel

theorem module?_tries_indexed :
    load indexedHost ["/a.ts", "/index.ts"] {} = .ok indexed ∧
      indexed.hasFile "/lib/index.ts" ∧ indexed.module? "/a.ts" "./lib" = some "/lib/index.ts" := by
  obtain ⟨hsome, hthere, hmissing, -⟩ := indexed_files
  have hload : load indexedHost ["/a.ts", "/index.ts"] {} = .ok indexed := load_getD hsome
  have hindex : indexed.hasFile "/lib/index.ts" := hthere _ (by decide)
  have hjoin : join "/lib" "index.ts" = "/lib/index.ts" := by decide
  have hfirst : (candidates "/lib").takeWhile (· ≠ "/lib" ++ "/index.ts") ⊆
      ["/.ts", "/.d.ts", "/lib.ts", "/lib.d.ts"] := by decide
  refine ⟨hload, hindex, ?_⟩
  rw [(module?_tries hload).2.2 "/a.ts" "./lib" "/lib" (by decide) (by decide) (hjoin ▸ hindex)
    fun c hc => hmissing c (hfirst hc), hjoin]
  rfl

/-- The index of the root is a file of the program, and nothing is that is tried earlier. But the root does
not stand for it: what is tried is not in normal form. -/
theorem rootIndex_missed :
    join (dirname "/a.ts") "." = "/" ∧
      "//index.ts" ∈ candidates "/" ∧ normalize "//index.ts" = "/index.ts" ∧
      load indexedHost ["/a.ts", "/index.ts"] {} = .ok indexed ∧ indexed.hasFile "/index.ts" ∧
      indexed.hasFile "/.ts" = false ∧ indexed.hasFile "/.d.ts" = false ∧
      indexed.module? "/a.ts" "." = none := by
  obtain ⟨hsome, hthere, hmissing, hmodule⟩ := indexed_files
  exact ⟨by decide, by decide, by decide, load_getD hsome, hthere _ (by decide), hmissing _ (by decide),
    hmissing _ (by decide), hmodule⟩

end Program

end ComponentAtlas
