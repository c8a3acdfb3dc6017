import ComponentAtlas.Path
import ComponentAtlas.Proofs.Text.Cutting

/-!
# Normal paths

A normal path is written from resolved segments: names of directories and files, and in front of them
steps up, if the path does not begin at the root. What is written in this way is read as the same
segments again, so normalizing a path twice is the same as normalizing it once.

* `IsName`: a segment that names a directory or a file;
* `Resolved`: stacks of resolved segments; `Resolved.push`, `resolved_resolve`: where they come from;
* `front`: the text in front of the last segment; `render_cons`: a path is its front and its last segment;
* `normalize_front`, `normalize_normalize`: normal paths do not change.
-/

namespace ComponentAtlas.Path

open ComponentAtlas.Text

/-- A segment that names a directory or a file. -/
structure IsName (s : String) : Prop where
  ne_empty : s ≠ ""
  ne_here : s ≠ "."
  ne_up : s ≠ ".."
  plain : '/' ∉ s.toList

/-- The segments of a normal path, innermost first: names, and steps up below them. -/
inductive Resolved (rooted : Bool) : List String → Prop
  | ups (n : Nat) (h : rooted → n = 0) : Resolved rooted (List.replicate n "..")
  | name {s : String} {below : List String} (hs : IsName s) (hbelow : Resolved rooted below) :
    Resolved rooted (s :: below)

variable {rooted : Bool} {s : String} {below stack segs : List String}

theorem resolved_nil : Resolved rooted [] := .ups 0 fun _ => rfl

theorem Resolved.tail (h : Resolved rooted (s :: below)) : Resolved rooted below := by
  generalize hstack : s :: below = stack at h
  cases h with
  | ups n hn =>
    cases n with
    | zero => cases hstack
    | succ n =>
      obtain ⟨-, rfl⟩ := List.cons.inj (hstack.trans List.replicate_succ)
      exact .ups n fun hroot => absurd (hn hroot) (Nat.succ_ne_zero n)
  | name _ hbelow => exact (List.cons.inj hstack).2 ▸ hbelow

/-- A segment of a normal path is neither empty nor cut by a separator. -/
theorem Resolved.begins (h : Resolved rooted stack) :
    ∀ s ∈ stack, '/' ∉ s.toList ∧ ∃ c cs, s.toList = c :: cs ∧ c ≠ '/' := by
  have hbegins : ∀ s : String, s ≠ "" → '/' ∉ s.toList → ∃ c cs, s.toList = c :: cs ∧ c ≠ '/' := by
    intro s hne hplain
    cases hs : s.toList with
    | nil => exact absurd (String.toList_eq_nil_iff.1 hs) hne
    | cons c cs =>
      rw [hs, List.mem_cons, not_or] at hplain
      exact ⟨c, cs, rfl, Ne.symm hplain.1⟩
  induction h with
  | ups n _ =>
    intro s hs
    obtain rfl := List.eq_of_mem_replicate hs
    exact ⟨by decide, '.', ['.'], rfl, by decide⟩
  | name hs _ ih =>
    exact List.forall_mem_cons.2 ⟨⟨hs.plain, hbegins _ hs.ne_empty hs.plain⟩, ih⟩

/-! ### Resolving segments -/

theorem push_skip (hs : s = "" ∨ s = ".") (rooted : Bool) (stack : List String) : push rooted stack s = stack := by
  unfold push
  rw [if_pos hs]

theorem push_name (hs : IsName s) (rooted : Bool) (stack : List String) : push rooted stack s = s :: stack := by
  unfold push
  rw [if_neg (not_or.2 ⟨hs.ne_empty, hs.ne_here⟩), if_neg hs.ne_up]

theorem push_up_name (hs : IsName s) (rooted : Bool) (below : List String) :
    push rooted (s :: below) ".." = below := by
  simp [push, hs.ne_up]

theorem push_up_ups (n : Nat) : push false (List.replicate n "..") ".." = List.replicate (n + 1) ".." := by
  cases n <;> rfl

/-- One more segment leaves the segments resolved. -/
theorem Resolved.push (h : Resolved rooted stack) (hs : '/' ∉ s.toList) :
    Resolved rooted (push rooted stack s) := by
  by_cases hskip : s = "" ∨ s = "."
  · rwa [push_skip hskip]
  by_cases hup : s = ".."
  · subst hup
    cases h with
    | ups n hn =>
      cases rooted with
      | true =>
        obtain rfl := hn rfl
        exact resolved_nil
      | false =>
        rw [push_up_ups]
        exact .ups (n + 1) fun hroot => nomatch hroot
    | name htop hbelow => rwa [push_up_name htop]
  · rw [not_or] at hskip
    have hname : IsName s := ⟨hskip.1, hskip.2, hup, hs⟩
    rw [push_name hname]
    exact .name hname h

theorem resolved_resolve (hsegs : ∀ s ∈ segs, '/' ∉ s.toList) : Resolved rooted (resolve rooted segs) :=
  List.foldlRecOn segs _ resolved_nil fun _ h s hs => h.push (hsegs s hs)

/-- Resolved segments are resolved to themselves. -/
theorem Resolved.resolve_reverse (h : Resolved rooted stack) : resolve rooted stack.reverse = stack := by
  induction h with
  | ups n hn =>
    cases rooted with
    | true =>
      obtain rfl := hn rfl
      rfl
    | false =>
      rw [List.reverse_replicate]
      induction n with
      | zero => rfl
      | succ n ih =>
        rw [List.replicate_succ', resolve, List.foldl_append, ← resolve, ih (by simp), ← List.replicate_succ']
        exact push_up_ups n
  | name hs _ ih =>
    rw [List.reverse_cons, resolve, List.foldl_append, ← resolve, ih]
    exact push_name hs _ _

/-! ### Reading what is written -/

/-- The text of a path in front of its last segment, from the segments below it, innermost first. -/
def front (rooted : Bool) : List String → String
  | [] => if rooted then "/" else ""
  | s :: below => front rooted below ++ s ++ "/"

theorem front_ends (rooted : Bool) (below : List String) :
    (front rooted below).toList = [] ∨ (front rooted below).toList.getLast? = some '/' := by
  cases below with
  | nil => cases rooted <;> decide
  | cons s below => exact .inr (by simp [front])

theorem intercalate_concat (hne : segs ≠ []) (s : String) :
    "/".intercalate (segs ++ [s]) = "/".intercalate segs ++ "/" ++ s := by
  apply String.toList_inj.1
  induction segs with
  | nil => exact absurd rfl hne
  | cons t segs ih =>
    cases segs with
    | nil => simp
    | cons u segs => simpa using ih (List.cons_ne_nil _ _)

/-- A path is its front with the last segment behind it. -/
theorem render_cons (rooted : Bool) (s : String) (below : List String) :
    render rooted (s :: below).reverse = front rooted below ++ s := by
  induction below generalizing s with
  | nil => cases rooted <;> simp [render, front]
  | cons t below ih =>
    have hne : (t :: below).reverse ≠ [] := by simp
    rw [front, ← ih t, List.reverse_cons, render, render, intercalate_concat hne]
    cases rooted <;> simp [String.append_assoc]

theorem pieces_front (hbelow : ∀ s ∈ below, '/' ∉ s.toList) (tail : List Char) :
    pieces (· == '/') ((front rooted below).toList ++ tail) =
      (if rooted then [[]] else []) ++ below.reverse.map (·.toList) ++ pieces (· == '/') tail := by
  induction below generalizing tail with
  | nil => cases rooted <;> simp [front, pieces]
  | cons s below ih =>
    obtain ⟨hs, hbelow⟩ := List.forall_mem_cons.1 hbelow
    have htext : (front rooted (s :: below)).toList ++ tail =
        (front rooted below).toList ++ (s.toList ++ '/' :: tail) := by simp [front]
    have hplain : ∀ c ∈ s.toList, (c == '/') = false := by
      intro c hc
      rw [beq_eq_false_iff_ne]
      rintro rfl
      exact hs hc
    rw [htext, ih hbelow, pieces_append hplain (by rfl)]
    simp

/-- The segments of a path are those it is written from, with an empty one for the root. -/
theorem segments_front (hstack : ∀ t ∈ s :: below, '/' ∉ t.toList) :
    segments (front rooted below ++ s) = (if rooted then [""] else []) ++ (s :: below).reverse := by
  obtain ⟨hs, hbelow⟩ := List.forall_mem_cons.1 hstack
  have hplain : ∀ c ∈ s.toList, (c == '/') = false := by
    intro c hc
    rw [beq_eq_false_iff_ne]
    rintro rfl
    exact hs hc
  rw [segments, splitOn, String.toList_append, pieces_front hbelow, pieces_of_notMem hplain]
  cases rooted <;> simp [Function.comp_def]

theorem isRooted_front (hbelow : ∀ t ∈ below, ∃ c cs, t.toList = c :: cs ∧ c ≠ '/')
    (hs : ∃ c cs, s.toList = c :: cs ∧ c ≠ '/') : isRooted (front rooted below ++ s) = rooted := by
  induction below generalizing s with
  | nil =>
    obtain ⟨c, cs, hcs, hc⟩ := hs
    cases rooted <;> simp [isRooted, front, hcs, hc]
  | cons t below ih =>
    obtain ⟨⟨c, cs, hcs, hc⟩, hbelow⟩ := List.forall_mem_cons.1 hbelow
    have hnext := ih hbelow (s := t ++ "/" ++ s) ⟨c, cs ++ '/' :: s.toList, by simp [hcs], hc⟩
    rw [front]
    simpa only [String.append_assoc] using hnext

/-- A path that is written from resolved segments is normal. -/
theorem normalize_front (h : Resolved rooted (s :: below)) :
    normalize (front rooted below ++ s) = front rooted below ++ s := by
  have hbegins := h.begins
  have hroot : isRooted (front rooted below ++ s) = rooted :=
    isRooted_front (fun t ht => (hbegins t (List.mem_cons_of_mem _ ht)).2) (hbegins s List.mem_cons_self).2
  have hresolve : resolve rooted (segments (front rooted below ++ s)) = s :: below := by
    rw [segments_front fun t ht => (hbegins t ht).1]
    have hskip : resolve rooted ((if rooted then [""] else []) ++ (s :: below).reverse) =
        resolve rooted (s :: below).reverse := by cases rooted <;> rfl
    rw [hskip, h.resolve_reverse]
  rw [normalize, hroot, hresolve, render_cons]

theorem plain_of_mem_segments {path : String} (hs : s ∈ segments path) : '/' ∉ s.toList := by
  obtain ⟨w, hw, rfl⟩ := List.mem_map.1 hs
  rw [String.toList_ofList]
  intro hslash
  simpa using (pieces_spec path.toList).2 w hw '/' hslash

/-- A normal path is the root, the current directory, or written from resolved segments. -/
theorem normalize_cases (path : String) :
    (normalize path = "/" ∨ normalize path = ".") ∨
      ∃ rooted s below, Resolved rooted (s :: below) ∧ normalize path = front rooted below ++ s := by
  have hstack : Resolved (isRooted path) (resolve (isRooted path) (segments path)) :=
    resolved_resolve fun _ hs => plain_of_mem_segments hs
  rw [normalize]
  generalize resolve (isRooted path) (segments path) = stack at hstack
  cases stack with
  | nil =>
    refine .inl ?_
    cases isRooted path
    · exact .inr rfl
    · exact .inl rfl
  | cons s below => exact .inr ⟨isRooted path, s, below, hstack, render_cons _ s below⟩

/-- **A path that is normalized twice is normalized once.** -/
theorem normalize_normalize (path : String) : normalize (normalize path) = normalize path := by
  rcases normalize_cases path with (h | h) | ⟨rooted, s, below, hstack, h⟩
  · rw [h]
    decide +kernel
  · rw [h]
    decide +kernel
  · rw [h, normalize_front hstack]

theorem normalize_join (base path : String) : normalize (join base path) = join base path := by
  rw [join]
  split <;> exact normalize_normalize _

end ComponentAtlas.Path
