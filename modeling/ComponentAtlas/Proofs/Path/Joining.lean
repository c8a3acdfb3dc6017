import ComponentAtlas.Proofs.Path.Normal

/-!
# Joining paths

What a path does to a stack of segments is what its normal form does to it: the segments that
normalizing takes away would have been taken away on the stack. So a path may be normalized before
something is written behind it or in front of it, and joining paths is associative.

* `Normal`: the texts of normal paths; `normal_normalize`: where they come from;
* `walk`: a stack after the segments of a path;
* `foldl_push_resolve`, `walk_normalize`: a path walks as its normal form does;
* `normalize_before`, `normalize_behind`: normalizing a part of a path first;
* `normalize_join_algebra`: the algebra of normalizing and joining.
-/

namespace ComponentAtlas.Path

open ComponentAtlas.Text

variable {rooted : Bool} {s : String} {below stack segs : List String}

/-! ### The texts of normal paths -/

/-- The texts of normal paths: the current directory, the root, and steps up followed by names. -/
inductive Normal (rooted : Bool) : String → Prop
  | here (h : rooted = false) : Normal rooted "."
  | root (h : rooted = true) : Normal rooted "/"
  | path (ups : Nat) (names : List String) (hne : List.replicate ups ".." ++ names ≠ [])
    (hups : rooted = true → ups = 0) (hnames : ∀ s ∈ names, IsName s) :
    Normal rooted ((if rooted then "/" else "") ++ "/".intercalate (List.replicate ups ".." ++ names))

/-- A resolved stack, outermost first: steps up and then names. -/
theorem Resolved.exists_names (h : Resolved rooted stack) :
    ∃ ups names, stack.reverse = List.replicate ups ".." ++ names ∧ (rooted = true → ups = 0) ∧
      ∀ s ∈ names, IsName s := by
  induction h with
  | ups n hn => exact ⟨n, [], by simp, hn, by simp⟩
  | @name s below hs _ ih =>
    obtain ⟨ups, names, hbelow, hups, hnames⟩ := ih
    refine ⟨ups, names ++ [s], by simp [hbelow], hups, ?_⟩
    intro t ht
    rcases List.mem_append.1 ht with ht | ht
    · exact hnames t ht
    · rwa [List.mem_singleton.1 ht]

theorem Resolved.normal_render (h : Resolved rooted stack) : Normal rooted (render rooted stack.reverse) := by
  by_cases hnil : stack = []
  · subst hnil
    cases rooted with
    | true => exact .root rfl
    | false => exact .here rfl
  · obtain ⟨ups, names, hsegs, hups, hnames⟩ := h.exists_names
    have hne : List.replicate ups ".." ++ names ≠ [] := by simpa [← hsegs] using hnil
    have hrender : render rooted stack.reverse =
        (if rooted then "/" else "") ++ "/".intercalate (List.replicate ups ".." ++ names) := by
      cases rooted <;> simp [render, hsegs, hne]
    rw [hrender]
    exact .path ups names hne hups hnames

/-- The stack that the normal form of a path is written from. -/
theorem resolved_path (path : String) : Resolved (isRooted path) (resolve (isRooted path) (segments path)) :=
  resolved_resolve fun _ hs => plain_of_mem_segments hs

theorem normal_normalize (path : String) : Normal (isRooted path) (normalize path) :=
  (resolved_path path).normal_render

/-! ### What begins at the root -/

theorem isRooted_append (hs : s ≠ "") (rest : String) : isRooted (s ++ rest) = isRooted s := by
  rw [isRooted, isRooted, String.toList_append]
  cases hchars : s.toList with
  | nil => exact absurd (String.toList_eq_nil_iff.1 hchars) hs
  | cons c cs => rfl

theorem Resolved.isRooted_render (h : Resolved rooted stack) :
    isRooted (render rooted stack.reverse) = rooted := by
  cases stack with
  | nil => cases rooted <;> rfl
  | cons s below =>
    have hbegins := h.begins
    rw [render_cons]
    exact isRooted_front (fun t ht => (hbegins t (List.mem_cons_of_mem s ht)).2) (hbegins s List.mem_cons_self).2

theorem Resolved.render_ne_empty (h : Resolved rooted stack) : render rooted stack.reverse ≠ "" := by
  cases stack with
  | nil => cases rooted <;> decide
  | cons s below =>
    obtain ⟨-, c, cs, hchars, -⟩ := h.begins s List.mem_cons_self
    intro hempty
    rw [render_cons] at hempty
    simpa [hchars] using congrArg String.toList hempty

theorem isRooted_normalize (path : String) : isRooted (normalize path) = isRooted path :=
  (resolved_path path).isRooted_render

theorem normalize_ne_empty (path : String) : normalize path ≠ "" :=
  (resolved_path path).render_ne_empty

/-! ### Walking along a path -/

/-- The stack of resolved segments after the segments of a path. -/
def walk (rooted : Bool) (stack : List String) (path : String) : List String :=
  (segments path).foldl (push rooted) stack

theorem normalize_eq_walk (path : String) :
    normalize path = render (isRooted path) (walk (isRooted path) [] path).reverse := rfl

theorem segments_slash (a b : String) : segments (a ++ "/" ++ b) = segments a ++ segments b := by
  have hchars : (a ++ "/" ++ b).toList = a.toList ++ '/' :: b.toList := by simp
  rw [segments, splitOn, hchars, pieces_append_cons (by rfl), List.map_append]
  rfl

theorem walk_slash (rooted : Bool) (stack : List String) (a b : String) :
    walk rooted stack (a ++ "/" ++ b) = walk rooted (walk rooted stack a) b := by
  rw [walk, segments_slash, List.foldl_append]
  rfl

/-- What is written from resolved segments is walked segment by segment. -/
theorem walk_render (h : Resolved rooted stack) (root : Bool) (start : List String) :
    walk root start (render rooted stack.reverse) = stack.reverse.foldl (push root) start := by
  cases stack with
  | nil =>
    have hroot : segments "/" = ["", ""] := by decide +kernel
    have hhere : segments "." = ["."] := by decide +kernel
    cases rooted with
    | true =>
      show walk root start "/" = start
      rw [walk, hroot]
      rfl
    | false =>
      show walk root start "." = start
      rw [walk, hhere]
      rfl
  | cons s below =>
    rw [render_cons, walk, segments_front fun t ht => (h.begins t ht).1, List.foldl_append]
    cases rooted <;> rfl

/-- The segments of a relative path that are left after resolving it change a stack as all of them do:
what a step up takes back within the path, it takes back on the stack as well. -/
theorem foldl_push_resolve (hsegs : ∀ s ∈ segs, '/' ∉ s.toList) (root : Bool) (start : List String) :
    (resolve false segs).reverse.foldl (push root) start = segs.foldl (push root) start := by
  induction segs using List.reverseRecOn with
  | nil => rfl
  | append_singleton segs s ih =>
    have hresolved : Resolved false (resolve false segs) :=
      resolved_resolve fun t ht => hsegs t (List.mem_append_left _ ht)
    have hlast : resolve false (segs ++ [s]) = push false (resolve false segs) s := by
      rw [resolve, List.foldl_append]
      rfl
    have ih := ih fun t ht => hsegs t (List.mem_append_left _ ht)
    rw [List.foldl_append, ← ih, hlast]
    generalize resolve false segs = stack at hresolved
    -- a segment on top of the stack is walked last
    have htop : ∀ t : String, (t :: stack).reverse.foldl (push root) start =
        push root (stack.reverse.foldl (push root) start) t := by
      intro t
      rw [List.reverse_cons, List.foldl_append]
      rfl
    show (push false stack s).reverse.foldl (push root) start =
      push root (stack.reverse.foldl (push root) start) s
    by_cases hskip : s = "" ∨ s = "."
    · rw [push_skip hskip, push_skip hskip]
    by_cases hup : s = ".."
    · subst hup
      cases hresolved with
      | ups n _ => rw [push_up_ups, List.replicate_succ, htop]
      | @name top below hname _ =>
        rw [push_up_name hname, List.reverse_cons, List.foldl_append, List.foldl_cons, List.foldl_nil,
          push_name hname, push_up_name hname]
    · rw [not_or] at hskip
      have hname : IsName s := ⟨hskip.1, hskip.2, hup, hsegs s (by simp)⟩
      rw [push_name hname, htop]

/-- A relative path and its normal form lead to the same place from everywhere. -/
theorem walk_normalize {path : String} (h : isRooted path = false) (root : Bool) (start : List String) :
    walk root start (normalize path) = walk root start path := by
  have hresolved := resolved_path path
  rw [normalize, h] at *
  rw [walk_render hresolved]
  exact foldl_push_resolve (fun _ hs => plain_of_mem_segments hs) root start

/-- A path and its normal form lead to the same place from where the path begins. -/
theorem walk_normalize_nil (path : String) :
    walk (isRooted path) [] (normalize path) = walk (isRooted path) [] path := by
  have hresolved := resolved_path path
  rw [normalize, walk_render hresolved]
  exact hresolved.resolve_reverse

/-! ### Normalizing a part of a path first -/

theorem normalize_before {q : String} (hq : q ≠ "") (c : String) :
    normalize (normalize q ++ "/" ++ c) = normalize (q ++ "/" ++ c) := by
  have hroot : isRooted (normalize q ++ "/" ++ c) = isRooted q := by
    rw [String.append_assoc, isRooted_append (normalize_ne_empty q), isRooted_normalize]
  have hroot' : isRooted (q ++ "/" ++ c) = isRooted q := by
    rw [String.append_assoc, isRooted_append hq]
  rw [normalize_eq_walk, normalize_eq_walk (q ++ "/" ++ c), hroot, hroot', walk_slash, walk_slash,
    walk_normalize_nil]

theorem append_slash_ne_empty (a : String) : a ++ "/" ≠ "" := by
  intro h
  simpa using congrArg String.toList h

theorem isRooted_slash (a b b' : String) : isRooted (a ++ "/" ++ b) = isRooted (a ++ "/" ++ b') := by
  rw [isRooted_append (append_slash_ne_empty a), isRooted_append (append_slash_ne_empty a)]

theorem normalize_behind {q : String} (hq : isRooted q = false) (a : String) :
    normalize (a ++ "/" ++ normalize q) = normalize (a ++ "/" ++ q) := by
  rw [normalize_eq_walk, normalize_eq_walk (a ++ "/" ++ q), isRooted_slash a (normalize q) q, walk_slash,
    walk_slash, walk_normalize hq]

theorem join_of_isRooted {path : String} (h : isRooted path = true) (base : String) :
    join base path = normalize path := by
  rw [join, if_pos h]

theorem join_of_not_isRooted {path : String} (h : isRooted path = false) (base : String) :
    join base path = normalize (base ++ "/" ++ path) := by
  rw [join, h]
  rfl

theorem join_join (a : String) {b : String} (hb : b ≠ "") (c : String) :
    join (join a b) c = join a (join b c) := by
  by_cases hc : isRooted c
  · -- what stands in front of a rooted path has no effect
    rw [join_of_isRooted hc, join_of_isRooted hc, join_of_isRooted (by rwa [isRooted_normalize]),
      normalize_normalize]
  rw [Bool.not_eq_true] at hc
  have hbc : isRooted (b ++ "/" ++ c) = isRooted b := by rw [String.append_assoc, isRooted_append hb]
  rw [join_of_not_isRooted hc (join a b), join_of_not_isRooted hc b]
  by_cases hroot : isRooted b
  · rw [join_of_isRooted hroot, normalize_before hb, join_of_isRooted (by rw [isRooted_normalize, hbc, hroot]),
      normalize_normalize]
  · rw [Bool.not_eq_true] at hroot
    have hab : a ++ "/" ++ b ≠ "" := fun h => append_slash_ne_empty a (String.append_eq_empty_iff.1 h).1
    -- both sides normalize the three parts written one behind the other
    calc normalize (join a b ++ "/" ++ c)
        = normalize (a ++ "/" ++ b ++ "/" ++ c) := by rw [join_of_not_isRooted hroot, normalize_before hab]
      _ = normalize (a ++ "/" ++ (b ++ "/" ++ c)) := by simp only [String.append_assoc]
      _ = normalize (a ++ "/" ++ normalize (b ++ "/" ++ c)) := (normalize_behind (hbc.trans hroot) a).symm
      _ = join a (normalize (b ++ "/" ++ c)) := by
        rw [join_of_not_isRooted (by rw [isRooted_normalize, hbc, hroot])]

/-- **The algebra of paths.** Normalizing a path twice is normalizing it once; the result begins at the
root if the path does, and it is the current directory, the root, or steps up, which do not occur below
the root, followed by names. To go from a directory along two paths in turn, the first of them not empty,
is to go along the path that joins them. -/
theorem normalize_join_algebra :
    (∀ path, normalize (normalize path) = normalize path ∧ isRooted (normalize path) = isRooted path ∧
      Normal (isRooted path) (normalize path)) ∧
    ∀ a b c, b ≠ "" → join (join a b) c = join a (join b c) := by
  constructor
  · intro path
    exact ⟨normalize_normalize path, isRooted_normalize path, normal_normalize path⟩
  · intro a b c hb
    exact join_join a hb c

/-- Steps up that leave the first path and repeated separators, in two steps and in one. -/
theorem normalize_join_algebra_stepsUp :
    ".././/lib/" ≠ "" ∧ join (join "app/feature" ".././/lib/") "../../x.ts" = "x.ts" ∧
      join (join "app/feature" ".././/lib/") "../../x.ts" = join "app/feature" (join ".././/lib/" "../../x.ts") :=
  ⟨by decide, by decide +kernel, normalize_join_algebra.2 _ _ _ (by decide)⟩

/-- The empty path is no step: joined with what follows, it begins at the root. -/
example : join (join "app" "") "x" = "app/x" ∧ join "app" (join "" "x") = "/x" := by decide +kernel

end ComponentAtlas.Path
