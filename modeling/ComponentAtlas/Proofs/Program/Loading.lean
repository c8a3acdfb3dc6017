import ComponentAtlas.Markup.Token
import ComponentAtlas.Proofs.Analysis.Contract
import Mathlib.Data.List.Basic
import Mathlib.Data.List.Forall2

/-!
# Which files a program loads

Files are loaded in waves. What a wave refers to is searched among the files of the host and the
paths that were chosen before, and once loading is over among the loaded files alone. Both searches
find the same files, because a chosen path is always a file of the host.

* `Settings.Climbs`: the directories from one of them up to the root, without a bound;
* `Program.Reached`: the files that roots lead to over module specifiers, as the host resolves them;
* `Program.Frontier.Tracks`: what is known about the paths chosen so far;
* `Program.Loading`: what is known between two waves; `Loading.step` and `Loading.loadWaves`;
* `Program.Closure`: what is known about a loaded program; `Program.load_closure`.
-/

namespace ComponentAtlas

open ComponentAtlas.Script

/-! ### Searches for module specifiers -/

namespace Settings

variable {s : Settings} {isFile fewer : String → Bool} {origin specifier target dir : String}

theorem resolve_eq_find? (s : Settings) (isFile : String → Bool) (origin specifier : String) :
    s.resolve isFile origin specifier =
      ((s.bases origin specifier).flatMap candidates).find? isFile := by
  rw [List.find?_flatMap]
  rfl

theorem isFile_of_resolve (h : s.resolve isFile origin specifier = some target) : isFile target := by
  rw [resolve_eq_find?] at h
  exact List.find?_some h

theorem find?_of_fewer {paths : List String} (hsub : ∀ path, fewer path → isFile path)
    (hfound : ∀ target, paths.find? isFile = some target → fewer target) :
    paths.find? fewer = paths.find? isFile := by
  induction paths with
  | nil => rfl
  | cons path paths ih =>
    by_cases hpath : isFile path
    · have hfewer : fewer path := hfound path (by simp [hpath])
      simp [hpath, hfewer]
    · have hfewer : ¬ fewer path := fun h => hpath (hsub path h)
      simp only [hpath, hfewer, Bool.false_eq_true, not_false_eq_true, List.find?_cons_of_neg]
      exact ih fun target h => hfound target (by simp [hpath, h])

/-- A search among fewer files finds the same, if what the other search finds is among them. -/
theorem resolve_of_fewer (hsub : ∀ path, fewer path → isFile path)
    (hfound : ∀ target, s.resolve isFile origin specifier = some target → fewer target) :
    s.resolve fewer origin specifier = s.resolve isFile origin specifier := by
  rw [resolve_eq_find?, resolve_eq_find?]
  exact find?_of_fewer hsub fun target h => hfound target (by rw [resolve_eq_find?, h])

/-- The directories from one of them up to the root or the current directory. -/
inductive Climbs : String → List String → Prop
  | top {dir : String} (h : dir = "/" ∨ dir = ".") : Climbs dir [dir]
  | up {dir : String} {dirs : List String} (h : ¬ (dir = "/" ∨ dir = "."))
      (above : Climbs (Path.dirname dir) dirs) : Climbs dir (dir :: dirs)

theorem dirname_cases (file : String) :
    (Path.dirname file = "/" ∨ Path.dirname file = ".") ∨
      Path.dirname file ≠ "" ∧ (Path.dirname file).length < file.length := by
  unfold Path.dirname Text.splitLast
  cases hsplit : Text.splitOnce '/' file.toList.reverse with
  | none => exact .inl (.inr rfl)
  | some parts =>
    obtain ⟨base, above⟩ := parts
    have hlength := Markup.splitOnce_length hsplit
    rw [List.length_reverse, String.length_toList] at hlength
    cases habove : above.reverse with
    | nil => exact .inl (.inl (by simp [habove]))
    | cons c cs =>
      have hcs : above.length = cs.length + 1 := by simpa using congrArg List.length habove
      refine .inr ⟨?_, ?_⟩
      · simp [habove]
      · simp only [Option.map_some, habove, String.length_ofList, List.length_cons]
        omega

theorem ancestors_of_top (h : dir = "/" ∨ dir = ".") (bound : ℕ) : ancestors bound dir = [dir] := by
  cases bound with
  | zero => rfl
  | succ bound => rw [ancestors, if_pos h]

theorem climbs_ancestors {bound : ℕ} (hbound : dir.length ≤ bound) (hdir : dir ≠ "") :
    Climbs dir (ancestors bound dir) := by
  induction bound generalizing dir with
  | zero => exact absurd (String.length_eq_zero_iff.1 (Nat.le_zero.1 hbound)) hdir
  | succ bound ih =>
    by_cases htop : dir = "/" ∨ dir = "."
    · rw [ancestors_of_top htop]
      exact .top htop
    · rw [ancestors, if_neg htop]
      refine .up htop ?_
      rcases dirname_cases dir with habove | ⟨hne, hshorter⟩
      · rw [ancestors_of_top habove]
        exact .top habove
      · exact ih (by omega) hne

/-- The search for an installed package goes up to the root or the current directory. -/
theorem climbs_dirname (origin : String) :
    Climbs (Path.dirname origin) (ancestors (Path.dirname origin).length (Path.dirname origin)) := by
  refine climbs_ancestors le_rfl ?_
  rcases dirname_cases origin with (h | h) | ⟨h, -⟩
  · rw [h]; decide
  · rw [h]; decide
  · exact h

end Settings

/-! ### Files of a host -/

theorem Host.mem_paths {host : Host} {path : String} (h : host.contains path) : path ∈ host.paths := by
  obtain ⟨text, htext⟩ := Option.isSome_iff_exists.1 h
  exact List.mem_map.2 ⟨(path, text), Table.mem_of_get? htext, rfl⟩

namespace Program

/-- What the text of a file of a host contributes. -/
def contents? (host : Host) (path : String) : Option Contents :=
  (host.read? path).map (Contents.read host.parse path)

/-- The files that roots lead to: the roots, and what the module specifiers of a reached file stand
for among the files of the host. -/
inductive Reached (host : Host) (settings : Settings) (roots : List String) : String → Prop
  | root {root : String} (h : root ∈ roots) : Reached host settings roots (Path.normalize root)
  | specifier {file target name : String} {c : Contents} (hfile : Reached host settings roots file)
      (hc : contents? host file = some c) (hname : name ∈ c.specifiers)
      (htarget : settings.resolve host.contains file name = some target) :
      Reached host settings roots target

theorem Reached.contains {host : Host} {settings : Settings} {roots : List String} {path : String}
    (hroots : ∀ root ∈ roots, host.contains (Path.normalize root))
    (h : Reached host settings roots path) : host.contains path := by
  cases h with
  | root hroot => exact hroots _ hroot
  | specifier _ _ _ htarget => exact Settings.isFile_of_resolve htarget

/-! ### Paths chosen for loading -/

/-- Every file that the specifiers of a file stand for is among the given ones. -/
def Followed (host : Host) (settings : Settings) (seen : List String) (file : String) : Prop :=
  ∀ c name target, contents? host file = some c → name ∈ c.specifiers →
    settings.resolve host.contains file name = some target → target ∈ seen

theorem Followed.mono {host : Host} {settings : Settings} {seen seen' : List String} {file : String}
    (h : Followed host settings seen file) (hsub : seen ⊆ seen') :
    Followed host settings seen' file :=
  fun c name target hc hname htarget => hsub (h c name target hc hname htarget)

/-- The chosen paths are some earlier ones and then the paths that wait to be loaded. No path is
chosen twice, and each satisfies a condition. -/
structure Frontier.Tracks (host : Host) (R : String → Prop) (before : List String) (f : Frontier) :
    Prop where
  seen_eq : f.seen = before ++ f.wave.map (·.1)
  nodup : f.seen.Nodup
  chosen : ∀ path ∈ f.seen, R path
  texts : ∀ e ∈ f.wave, host.read? e.1 = some e.2

section Frontier

variable {host : Host} {settings : Settings} {R : String → Prop} {before : List String} {f : Frontier}
  {path : String} {c : Contents}

theorem Frontier.visit_of_mem (h : path ∈ f.seen) : f.visit host path = f := by
  rw [Frontier.visit, if_pos h]

theorem Frontier.visit_of_notMem {text : String} (h : path ∉ f.seen) (htext : host.read? path = some text) :
    f.visit host path = ⟨f.seen ++ [path], f.wave ++ [(path, text)]⟩ := by
  rw [Frontier.visit, if_neg h, htext]

/-- A path of the host is chosen, and nothing else changes. -/
theorem Frontier.Tracks.visit (h : f.Tracks host R before) (hpath : R path) (hhost : host.contains path) :
    (f.visit host path).Tracks host R before ∧ f.seen ⊆ (f.visit host path).seen ∧
      path ∈ (f.visit host path).seen := by
  by_cases hseen : path ∈ f.seen
  · rw [visit_of_mem hseen]
    exact ⟨h, List.Subset.refl _, hseen⟩
  · obtain ⟨text, htext⟩ := Option.isSome_iff_exists.1 hhost
    rw [visit_of_notMem hseen htext]
    refine ⟨⟨?_, ?_, ?_, ?_⟩, List.subset_append_left _ _, by simp⟩
    · simp [h.seen_eq]
    · exact List.nodup_append.2 ⟨h.nodup, List.nodup_singleton _, by
        rintro a ha b hb rfl
        exact hseen (List.mem_singleton.1 hb ▸ ha)⟩
    · intro q hq
      rcases List.mem_append.1 hq with hq | hq
      · exact h.chosen q hq
      · rwa [List.mem_singleton.1 hq]
    · intro e he
      rcases List.mem_append.1 he with he | he
      · exact h.texts e he
      · rwa [List.mem_singleton.1 he]

/-- As chosen paths are files of the host, the search while loading is the search in the host. -/
theorem Frontier.Tracks.resolve_eq (h : f.Tracks host R before) (hR : ∀ q, R q → host.contains q)
    (origin specifier : String) :
    settings.resolve (fun q => f.seen.contains q || host.contains q) origin specifier =
      settings.resolve host.contains origin specifier := by
  congr 1
  funext q
  by_cases hq : q ∈ f.seen
  · simp [hR q (h.chosen q hq)]
  · simp [hq]

/-- The frontier with what a specifier of a file stands for. -/
def Frontier.chase (host : Host) (settings : Settings) (path : String) (f : Frontier) (name : String) :
    Frontier :=
  match settings.resolve (fun q => f.seen.contains q || host.contains q) path name with
  | some target => f.visit host target
  | none => f

theorem Frontier.follow_eq (f : Frontier) (path : String) (c : Contents) :
    f.follow host settings path c = c.specifiers.foldl (Frontier.chase host settings path) f := rfl

theorem Frontier.Tracks.chase (h : f.Tracks host R before) (hR : ∀ q, R q → host.contains q)
    {name : String} (hnext : ∀ target, settings.resolve host.contains path name = some target → R target) :
    (f.chase host settings path name).Tracks host R before ∧
      f.seen ⊆ (f.chase host settings path name).seen ∧
      ∀ target, settings.resolve host.contains path name = some target →
        target ∈ (f.chase host settings path name).seen := by
  rw [Frontier.chase, h.resolve_eq hR]
  cases hresolve : settings.resolve host.contains path name with
  | none => exact ⟨h, List.Subset.refl _, fun target ht => nomatch ht⟩
  | some target =>
    have htarget : R target := hnext target hresolve
    obtain ⟨hvisit, hgrow, hmem⟩ := h.visit htarget (hR target htarget)
    refine ⟨hvisit, hgrow, ?_⟩
    rintro t ⟨rfl⟩
    exact hmem

/-- Steps that each choose some paths, one after the other. What a step has done stays done when more
paths are chosen. -/
theorem Frontier.Tracks.foldl {α : Type} {step : Frontier → α → Frontier} {xs : List α}
    (Done : α → List String → Prop) (hmono : ∀ x seen seen', seen ⊆ seen' → Done x seen → Done x seen')
    (hstep : ∀ x ∈ xs, ∀ f : Frontier, f.Tracks host R before →
      (step f x).Tracks host R before ∧ f.seen ⊆ (step f x).seen ∧ Done x (step f x).seen)
    (h : f.Tracks host R before) :
    (xs.foldl step f).Tracks host R before ∧ f.seen ⊆ (xs.foldl step f).seen ∧
      ∀ x ∈ xs, Done x (xs.foldl step f).seen := by
  induction xs generalizing f with
  | nil => exact ⟨h, List.Subset.refl _, by simp⟩
  | cons x xs ih =>
    obtain ⟨htracks, hgrow, hdone⟩ := hstep x List.mem_cons_self f h
    obtain ⟨htracks', hgrow', hdone'⟩ := ih (fun y hy => hstep y (List.mem_cons_of_mem _ hy)) htracks
    exact ⟨htracks', List.Subset.trans hgrow hgrow',
      List.forall_mem_cons.2 ⟨hmono x _ _ hgrow' hdone, hdone'⟩⟩

/-- Following a file chooses all that its specifiers stand for. -/
theorem Frontier.Tracks.follow (h : f.Tracks host R before) (hR : ∀ q, R q → host.contains q)
    (hc : contents? host path = some c)
    (hnext : ∀ name ∈ c.specifiers, ∀ target,
      settings.resolve host.contains path name = some target → R target) :
    (f.follow host settings path c).Tracks host R before ∧
      f.seen ⊆ (f.follow host settings path c).seen ∧
      Followed host settings (f.follow host settings path c).seen path := by
  rw [Frontier.follow_eq]
  obtain ⟨htracks, hgrow, hfollowed⟩ := h.foldl
    (fun name seen => ∀ target,
      settings.resolve host.contains path name = some target → target ∈ seen)
    (fun _ _ _ hsub hdone target ht => hsub (hdone target ht))
    (fun name hname f hf => hf.chase hR (hnext name hname))
  refine ⟨htracks, hgrow, fun c' name target hc' hname htarget => ?_⟩
  cases hc.symm.trans hc'
  exact hfollowed name hname target htarget

end Frontier

/-! ### Files and declarations of a program -/

/-- A file contributes what was read: its declarations are those of the text, with their numbers and
the path of the file. -/
structure Represents (p : Program) (f : SourceFile) (c : Contents) : Prop where
  imports_eq : f.imports = c.imports
  exports_eq : f.exports = c.exports
  declarations : List.Forall₂ (fun id d => p.declaration? id = some { d with id, file := f.path })
    f.declarations c.declarations

/-- The files of a program contribute what the texts of the host say, and their lists of declarations
put together count all declarations. -/
structure Filed (host : Host) (p : Program) : Prop where
  contents : ∀ f ∈ p.files, ∃ c, contents? host f.path = some c ∧ p.Represents f c
  counts : p.files.flatMap (·.declarations) = List.range p.declarations.length

section Files

variable {host : Host} {p : Program} {path : String} {c : Contents}

theorem map_id_numbered (ds : List Declaration) (first : ℕ) (path : String) :
    (ds.mapIdx fun i d => { d with id := first + i, file := path : Declaration }).map (·.id) =
      (List.range ds.length).map (first + ·) := by
  refine List.ext_getElem? fun i => ?_
  rcases lt_or_ge i ds.length with hlt | hge
  · simp [hlt]
  · simp [hge]

theorem declaration?_add {id : DeclarationId} {d : Declaration} (h : p.declaration? id = some d) :
    (p.add path c).declaration? id = some d := by
  have hlt : id < p.declarations.length := (List.getElem?_eq_some_iff.1 h).1
  exact (List.getElem?_append_left hlt).trans h

theorem Represents.add {f : SourceFile} {c' : Contents} (h : p.Represents f c') :
    (p.add path c).Represents f c' where
  imports_eq := h.imports_eq
  exports_eq := h.exports_eq
  declarations := h.declarations.imp fun _ _ hd => declaration?_add hd

theorem Filed.add (h : p.Filed host) (hc : contents? host path = some c) :
    (p.add path c).Filed host where
  contents := by
    intro f hf
    rcases List.mem_append.1 hf with hf | hf
    · obtain ⟨c', hc', hrep⟩ := h.contents f hf
      exact ⟨c', hc', hrep.add⟩
    · rw [List.mem_singleton.1 hf]
      refine ⟨c, hc, rfl, rfl, ?_⟩
      rw [List.forall₂_iff_get]
      refine ⟨by simp, fun i hi hd => ?_⟩
      simp only [List.get_eq_getElem, List.getElem_map, List.getElem_mapIdx, declaration?, Program.add]
      rw [List.getElem?_append_right (Nat.le_add_right _ _)]
      simp [hd]
  counts := by
    simp only [Program.add, List.flatMap_append, List.flatMap_singleton, h.counts, List.length_append,
      List.length_mapIdx, map_id_numbered, List.range_add]

theorem Filed.addAll {read : List (String × Contents)} (h : p.Filed host)
    (hread : ∀ e ∈ read, contents? host e.1 = some e.2) :
    (read.foldl (fun p (path, c) => p.add path c) p).Filed host := by
  induction read generalizing p with
  | nil => exact h
  | cons e read ih =>
    refine ih (h.add (hread e List.mem_cons_self)) fun e he => hread e (List.mem_cons_of_mem _ he)

theorem addAll_eq (read : List (String × Contents)) (p : Program) :
    let p' := read.foldl (fun p (path, c) => p.add path c) p
    p'.settings = p.settings ∧ p'.roots = p.roots ∧
      p'.files.map (·.path) = p.files.map (·.path) ++ read.map (·.1) := by
  induction read generalizing p with
  | nil => simp
  | cons e read ih =>
    obtain ⟨hsettings, hroots, hpaths⟩ := ih (p.add e.1 e.2)
    refine ⟨hsettings, hroots, hpaths.trans ?_⟩
    simp [Program.add]

end Files

/-! ### Waves -/

/-- What is known between two waves: the chosen paths are those of the loaded files and of the wave,
and the loaded files are followed. -/
structure Loading (host : Host) (settings : Settings) (roots : List String) (p : Program)
    (seen : List String) (wave : List (String × String)) : Prop where
  settings_eq : p.settings = settings
  roots_eq : p.roots = roots.map Path.normalize
  filed : p.Filed host
  tracks : (Frontier.mk seen wave).Tracks host (Reached host settings roots) (p.files.map (·.path))
  followed : ∀ f ∈ p.files, Followed host settings seen f.path
  started : ∀ root ∈ roots, Path.normalize root ∈ seen

section Waves

variable {host : Host} {settings : Settings} {roots : List String} {p : Program} {seen : List String}
  {wave : List (String × String)}

/-- The files of a wave with what they contribute. -/
def readWave (host : Host) (wave : List (String × String)) : List (String × Contents) :=
  wave.map fun (path, text) => (path, Contents.read host.parse path text)

theorem contents?_of_mem_readWave (h : ∀ e ∈ wave, host.read? e.1 = some e.2) :
    ∀ e ∈ readWave host wave, contents? host e.1 = some e.2 := by
  intro e he
  obtain ⟨e', he', rfl⟩ := List.mem_map.1 he
  simp [contents?, h e' he']

theorem map_fst_readWave (host : Host) (wave : List (String × String)) :
    (readWave host wave).map (·.1) = wave.map (·.1) := by
  simp [readWave, Function.comp_def]

/-- One wave is loaded, and the files that it refers to are chosen. -/
theorem Loading.step (hroots : ∀ root ∈ roots, host.contains (Path.normalize root))
    (h : Loading host settings roots p seen wave) :
    let next := (readWave host wave).foldl (fun f (path, c) => f.follow host p.settings path c)
      (Frontier.mk seen [])
    let p' := (readWave host wave).foldl (fun p (path, c) => p.add path c) p
    Loading host settings roots p' next.seen next.wave ∧
      p'.files.length = p.files.length + wave.length := by
  intro next p'
  have hread : ∀ e ∈ readWave host wave, contents? host e.1 = some e.2 :=
    contents?_of_mem_readWave h.tracks.texts
  have hseen : seen = p.files.map (·.path) ++ wave.map (·.1) := h.tracks.seen_eq
  have hreached : ∀ e ∈ readWave host wave, Reached host settings roots e.1 := by
    intro e he
    refine h.tracks.chosen e.1 (hseen ▸ List.mem_append_right _ ?_)
    rw [← map_fst_readWave]
    exact List.mem_map_of_mem he
  have hstart : (Frontier.mk seen []).Tracks host (Reached host settings roots) seen :=
    ⟨by simp, h.tracks.nodup, h.tracks.chosen, by simp⟩
  obtain ⟨htracks, hgrow, hfollowed⟩ : next.Tracks host (Reached host settings roots) seen ∧
      seen ⊆ next.seen ∧ ∀ e ∈ readWave host wave, Followed host settings next.seen e.1 := by
    refine hstart.foldl (fun (e : String × Contents) seen => Followed host settings seen e.1)
      (fun e _ _ hsub hdone => hdone.mono hsub) fun e he f hf => ?_
    rw [h.settings_eq]
    exact hf.follow (fun q hq => hq.contains hroots) (hread e he)
      fun name hname target htarget => .specifier (hreached e he) (hread e he) hname htarget
  obtain ⟨hsettings, hroots_eq, hpaths⟩ := addAll_eq (readWave host wave) p
  rw [map_fst_readWave] at hpaths
  refine ⟨⟨hsettings.trans h.settings_eq, hroots_eq.trans h.roots_eq, h.filed.addAll hread, ?_, ?_, ?_⟩, ?_⟩
  · rw [hpaths, ← hseen]
    exact htracks
  · intro f hf
    -- the path of a loaded file was there before the wave, or belongs to the wave
    have hmem : f.path ∈ p.files.map (·.path) ++ wave.map (·.1) := hpaths ▸ List.mem_map_of_mem hf
    rcases List.mem_append.1 hmem with hold | hnew
    · obtain ⟨f', hf', heq⟩ := List.mem_map.1 hold
      exact heq ▸ (h.followed f' hf').mono hgrow
    · rw [← map_fst_readWave] at hnew
      obtain ⟨e, he, heq⟩ := List.mem_map.1 hnew
      exact heq ▸ hfollowed e he
  · exact fun root hroot => hgrow (h.started root hroot)
  · simpa only [List.length_map, List.length_append] using congrArg List.length hpaths

/-- No more files are chosen than the host has. -/
theorem Loading.length_le (hroots : ∀ root ∈ roots, host.contains (Path.normalize root))
    (h : Loading host settings roots p seen wave) :
    p.files.length + wave.length ≤ host.files.length := by
  have hsub : seen ⊆ host.paths := fun q hq => Host.mem_paths ((h.tracks.chosen q hq).contains hroots)
  have hle := (List.subperm_of_subset h.tracks.nodup hsub).length_le
  have hseen := congrArg List.length h.tracks.seen_eq
  simp only [List.length_append, List.length_map] at hseen
  simp only [Host.paths, List.length_map] at hle
  omega

/-- Wave by wave all reached files are loaded: each wave has a file, and there are not more waves than
files. -/
theorem Loading.loadWaves (hroots : ∀ root ∈ roots, host.contains (Path.normalize root)) {bound : ℕ}
    (h : Loading host settings roots p seen wave)
    (hbound : host.files.length < p.files.length + bound) :
    ∃ paths, Loading host settings roots (loadWaves host bound p seen wave) paths [] := by
  induction bound generalizing p seen wave with
  | zero =>
    have hle := h.length_le hroots
    omega
  | succ bound ih =>
    rw [Program.loadWaves]
    by_cases hempty : wave = []
    · subst hempty
      exact ⟨seen, by simpa using h⟩
    · have hpos : 0 < wave.length := List.length_pos_iff.2 hempty
      obtain ⟨hnext, hlength⟩ := h.step hroots
      rw [if_neg (by simpa using hempty)]
      have hless : host.files.length < p.files.length + wave.length + bound := by omega
      exact ih hnext (hless.trans_eq (congrArg (· + bound) hlength.symm))

end Waves

/-! ### Loaded programs -/

/-- What is known about a program that was loaded. -/
structure Closure (host : Host) (settings : Settings) (roots : List String) (p : Program) : Prop where
  settings_eq : p.settings = settings
  roots_eq : p.roots = roots.map Path.normalize
  /-- No file is loaded twice. -/
  nodup : (p.files.map (·.path)).Nodup
  /-- The loaded files are the reached ones. -/
  mem_iff : ∀ path, path ∈ p.files.map (·.path) ↔ Reached host settings roots path
  /-- A file has the imports, exports and declarations of its text, and the declarations of the files,
  in the order of the files, are numbered from zero on. -/
  filed : p.Filed host
  numbered : p.Numbered
  /-- Among the loaded files a specifier stands for the same file as in the host, whatever files had
  been chosen when it was searched there. -/
  module?_eq : ∀ f ∈ p.files, ∀ name ∈ f.specifiers, ∀ seen ⊆ p.files.map (·.path),
    p.module? f.path name = settings.resolve (fun q => seen.contains q || host.contains q) f.path name

section Load

variable {host : Host} {settings : Settings} {roots : List String} {p : Program} {seen : List String}

theorem hasFile_iff {path : String} : p.hasFile path ↔ path ∈ p.files.map (·.path) := by
  simp [hasFile]

theorem specifiers_eq {f : SourceFile} {c : Contents} (h : p.Represents f c) :
    f.specifiers = c.specifiers := by
  rw [SourceFile.specifiers, Contents.specifiers, h.imports_eq, h.exports_eq]

theorem Loading.closure (hroots : ∀ root ∈ roots, host.contains (Path.normalize root))
    (h : Loading host settings roots p seen []) (hnumbered : p.Numbered) :
    p.Closure host settings roots := by
  have hseen : seen = p.files.map (·.path) := by simpa using h.tracks.seen_eq
  subst hseen
  have hcontains : ∀ path ∈ p.files.map (·.path), host.contains path :=
    fun path hpath => (h.tracks.chosen path hpath).contains hroots
  refine ⟨h.settings_eq, h.roots_eq, h.tracks.nodup, fun path => ⟨h.tracks.chosen path, ?_⟩, h.filed,
    hnumbered, ?_⟩
  · intro hreached
    induction hreached with
    | root hroot => exact h.started _ hroot
    | specifier _ hc hname htarget ih =>
      obtain ⟨f, hf, rfl⟩ := List.mem_map.1 ih
      exact h.followed f hf _ _ _ hc hname htarget
  · intro f hf name hname earlier hearlier
    -- What was chosen before is in the host, so it makes no difference to the search there.
    have hsearch : (fun q => earlier.contains q || host.contains q) = host.contains := by
      funext q
      by_cases hq : q ∈ earlier
      · simp [hcontains q (hearlier hq)]
      · simp [hq]
    obtain ⟨c, hc, hrep⟩ := h.filed.contents f hf
    rw [hsearch, module?, h.settings_eq]
    refine Settings.resolve_of_fewer (fun q hq => hcontains q (hasFile_iff.1 hq)) fun target ht => ?_
    rw [specifiers_eq hrep] at hname
    exact hasFile_iff.2 (h.followed f hf c name target hc hname ht)

theorem loading_roots (settings : Settings) (hroots : ∀ root ∈ roots, host.contains (Path.normalize root)) :
    let first := (roots.map Path.normalize).foldl (fun f root => f.visit host root) (Frontier.mk [] [])
    Loading host settings roots { settings, roots := roots.map Path.normalize } first.seen first.wave := by
  intro first
  have hempty : (Frontier.mk [] []).Tracks host (Reached host settings roots) [] :=
    ⟨rfl, List.nodup_nil, by simp, by simp⟩
  obtain ⟨htracks, hstarted⟩ : first.Tracks host (Reached host settings roots) [] ∧
      ∀ root ∈ roots.map Path.normalize, root ∈ first.seen := by
    refine (hempty.foldl (fun root seen => root ∈ seen) (fun _ _ _ hsub hdone => hsub hdone)
      fun q hq f hf => ?_).imp_right And.right
    obtain ⟨root, hroot, rfl⟩ := List.mem_map.1 hq
    exact hf.visit (.root hroot) (hroots root hroot)
  exact ⟨rfl, rfl, ⟨by simp, rfl⟩, htracks, by simp,
    fun root hroot => hstarted _ (List.mem_map_of_mem hroot)⟩

/-- A program whose roots are all there is loaded. -/
theorem exists_load (settings : Settings) (hne : roots ≠ [])
    (hroots : ∀ root ∈ roots, host.contains (Path.normalize root)) :
    ∃ p, load host roots settings = .ok p ∧ p.Closure host settings roots := by
  have hnonempty : (roots.map Path.normalize).isEmpty = false := by simpa using hne
  have hmissing : (roots.map Path.normalize).find? (fun root => !host.contains root) = none := by
    rw [List.find?_eq_none]
    intro q hq
    obtain ⟨r, hr, rfl⟩ := List.mem_map.1 hq
    simp [hroots r hr]
  let first := (roots.map Path.normalize).foldl (fun f root => f.visit host root) (Frontier.mk [] [])
  obtain ⟨paths, hloading⟩ := (loading_roots settings hroots).loadWaves hroots
    (show host.files.length < 0 + (host.files.length + 1) by omega)
  have hload : load host roots settings = .ok (loadWaves host (host.files.length + 1)
      { settings, roots := roots.map Path.normalize } first.seen first.wave) := by
    simp only [load, hnonempty, hmissing, Bool.false_eq_true, if_false]
    rfl
  exact ⟨_, hload, hloading.closure hroots (load_numbered hload)⟩

/-- A program is loaded only if all its roots are there. -/
theorem closure_of_load (h : load host roots settings = .ok p) : p.Closure host settings roots := by
  have hne : roots ≠ [] := by
    rintro rfl
    cases h
  have hroots : ∀ root ∈ roots, host.contains (Path.normalize root) := by
    intro root hroot
    simp only [load] at h
    split at h
    · cases h
    · split at h
      · cases h
      · next hmissing =>
        simpa using List.find?_eq_none.1 hmissing _ (List.mem_map_of_mem hroot)
  obtain ⟨q, hq, hclosure⟩ := exists_load settings hne hroots
  cases h.symm.trans hq
  exact hclosure

/-- Loading fails with the first root that the host does not have. Otherwise it ends with the files
that the roots lead to; their declarations are numbered in the order of loading, and specifiers stand
for the same files as while loading. Each search for an installed package ends at the root or at the
current directory. -/
theorem load_closure (host : Host) (settings : Settings) {roots : List String} (hne : roots ≠ []) :
    (∀ before root after, roots = before ++ root :: after →
      (∀ r ∈ before, (host.read? (Path.normalize r)).isSome) → host.read? (Path.normalize root) = none →
      load host roots settings = .error (.fileNotFound (Path.normalize root))) ∧
    ((∀ root ∈ roots, (host.read? (Path.normalize root)).isSome) →
      ∃ p, load host roots settings = .ok p ∧ p.Closure host settings roots) ∧
    ∀ origin, Settings.Climbs (Path.dirname origin)
      (Settings.ancestors (Path.dirname origin).length (Path.dirname origin)) := by
  refine ⟨?_, exists_load settings hne, Settings.climbs_dirname⟩
  rintro before root after rfl hbefore hroot
  have hnonempty : ((before ++ root :: after).map Path.normalize).isEmpty = false := by simp
  have hmissing : ((before ++ root :: after).map Path.normalize).find?
      (fun root => !host.contains root) = some (Path.normalize root) := by
    rw [List.map_append, List.find?_append, List.find?_eq_none.2, Option.none_or]
    · simp [Host.contains, hroot]
    · intro q hq
      obtain ⟨r, hr, rfl⟩ := List.mem_map.1 hq
      have hcontains : host.contains (Path.normalize r) := hbefore r hr
      simp [hcontains]
  simp only [load, hnonempty, hmissing, Bool.false_eq_true, if_false]

end Load

/-- A package that is installed above the files of an application, one of which nothing refers to. -/
def packageHost : Host :=
  .ofList [("/app/main.ts", "import { Lib } from 'lib'; import { Local } from './local.js';"),
    ("/app/local.ts", "export * from './main'; export class Local {}"),
    ("/app/unused.ts", "export class Unused {}"),
    ("/node_modules/lib/index.d.ts", "export declare class Lib {}")]

theorem load_closure_package :
    load packageHost ["/app/main.ts", "/lost.ts"] {} = .error (.fileNotFound "/lost.ts") ∧
    ∃ p, load packageHost ["/app/./main.ts"] {} = .ok p ∧ p.Closure packageHost {} ["/app/./main.ts"] ∧
      p.files.map (·.path) = ["/app/main.ts", "/node_modules/lib/index.d.ts", "/app/local.ts"] := by
  have hmissing := (load_closure packageHost {} (show ["/app/main.ts", "/lost.ts"] ≠ [] by simp)).1
    ["/app/main.ts"] "/lost.ts" [] rfl (by decide +kernel) (by decide +kernel)
  obtain ⟨p, hload, hclosure⟩ :=
    (load_closure packageHost {} (show ["/app/./main.ts"] ≠ [] by simp)).2.1 (by decide +kernel)
  have hpaths : (load packageHost ["/app/./main.ts"] {}).toOption.map (fun p => p.files.map (·.path)) =
      some ["/app/main.ts", "/node_modules/lib/index.d.ts", "/app/local.ts"] := by decide +kernel
  have hnormal : Path.normalize "/lost.ts" = "/lost.ts" := by decide +kernel
  rw [hload] at hpaths
  exact ⟨hnormal ▸ hmissing, p, hload, hclosure, Option.some.inj hpaths⟩

end Program

end ComponentAtlas
