import ComponentAtlas.Source.Span
import Mathlib.Data.List.Basic
import Mathlib.Data.List.Induction

/-!
# Positions of a source

A position is found from the offsets at which lines begin. Here it is said what it is: an offset
between two characters, with the number of line feeds before it and the number of bytes behind the
last of them.

* `Position.behind`: the position behind a text; `Lines.locate_behind`: it is the one that is found;
* `Span.Proper`: both ends of a span are positions of the source, the start not behind the stop;
* `Stands`: a text that stands in the source at an offset; `Span.Covers`: a span from one offset to
  another;
* `InOrder`: spans one after the other between two offsets.
-/

namespace ComponentAtlas.Source

open ComponentAtlas.Text

theorem byteLength_ofList (cs : List Char) : byteLength cs = (String.ofList cs).utf8ByteSize := by
  induction cs with
  | nil => rfl
  | cons c cs ih => simp [String.ofList_cons, ih]

theorem byteLength_toList (s : String) : byteLength s.toList = s.utf8ByteSize := by
  rw [byteLength_ofList, String.ofList_toList]

/-- The part of a text behind its last line feed. -/
def lastLine (cs : List Char) : List Char := (cs.reverse.takeWhile (· != '\n')).reverse

/-- The position behind a text. -/
def Position.behind (before : List Char) : Position :=
  ⟨byteLength before, before.count '\n', byteLength (lastLine before)⟩

/-- A position of a source: the source can be cut there, and line and column are those of the cut. -/
def Position.Marks (source : List Char) (p : Position) : Prop :=
  ∃ before after, source = before ++ after ∧ p = .behind before

/-! ### Lines -/

namespace Lines

theorem breaks_append (offset : ℕ) (as bs : List Char) :
    breaks offset (as ++ bs) = breaks offset as ++ breaks (offset + byteLength as) bs := by
  induction as generalizing offset with
  | nil => rfl
  | cons a as ih =>
    simp only [List.cons_append, breaks, ih, byteLength_cons, Nat.add_assoc]
    split <;> rfl

theorem length_breaks (offset : ℕ) (cs : List Char) : (breaks offset cs).length = cs.count '\n' := by
  induction cs generalizing offset with
  | nil => rfl
  | cons c cs ih => by_cases hc : c = '\n' <;> simp [breaks, hc, ih]

theorem mem_breaks {offset s : ℕ} {cs : List Char} (h : s ∈ breaks offset cs) :
    offset < s ∧ s ≤ offset + byteLength cs := by
  induction cs generalizing offset with
  | nil => cases h
  | cons c cs ih =>
    have hc := c.utf8Size_pos
    simp only [breaks] at h
    rw [byteLength_cons]
    split at h
    · rcases List.mem_cons.1 h with rfl | h
      · omega
      · have := ih h
        omega
    · have := ih h
      omega

/-- The last line begins where the bytes behind the last line feed begin. -/
theorem getLastD_breaks (before : List Char) :
    (breaks 0 before).getLastD 0 + byteLength (lastLine before) = byteLength before := by
  induction before using List.reverseRecOn with
  | nil => rfl
  | append_singleton cs c ih =>
    by_cases hc : c = '\n'
    · subst hc
      simp [breaks_append, breaks, lastLine]
    · have hlast : lastLine (cs ++ [c]) = lastLine cs ++ [c] := by simp [lastLine, hc]
      rw [hlast, breaks_append, byteLength_append, byteLength_append, ← ih]
      simp [breaks, hc, Nat.add_assoc]

theorem lastAt_append {offset line start : ℕ} {near far : List ℕ} (hnear : ∀ s ∈ near, s ≤ offset)
    (hfar : ∀ s ∈ far, offset < s) :
    lastAt offset line start (near ++ far) = (line + near.length, near.getLastD start) := by
  induction near generalizing line start with
  | nil =>
    cases far with
    | nil => rfl
    | cons s far => exact if_neg (Nat.not_le.2 (hfar s List.mem_cons_self))
  | cons s near ih =>
    have hs : s ≤ offset := hnear s List.mem_cons_self
    rw [List.cons_append, lastAt, if_pos hs, ih fun t ht => hnear t (List.mem_cons_of_mem _ ht),
      List.getLastD_cons, List.length_cons, Nat.add_assoc, Nat.add_comm 1]

/-- The position that is found for a cut is the position behind what precedes it. -/
theorem locate_behind (before after : List Char) :
    (ofText (before ++ after)).locate (byteLength before) = .behind before := by
  have hlast := getLastD_breaks before
  simp only [locate, ofText, List.tail_cons, breaks_append, Nat.zero_add]
  rw [lastAt_append (fun s hs => by simpa using (mem_breaks hs).2) fun s hs => (mem_breaks hs).1]
  simp only [Position.behind, length_breaks, Position.mk.injEq, true_and]
  omega

end Lines

/-! ### Spans -/

/-- Both ends of a span are positions of the source, the start not behind the stop. -/
structure Span.Proper (source : List Char) (s : Span) : Prop where
  start : s.start.Marks source
  stop : s.stop.Marks source
  le : s.start.offset ≤ s.stop.offset

/-- A proper span between two offsets. -/
structure Span.Covers (source : List Char) (lo hi : ℕ) (s : Span) : Prop where
  proper : s.Proper source
  start : s.start.offset = lo
  stop : s.stop.offset = hi

/-- A span inside another one. -/
structure Span.Within (s outer : Span) : Prop where
  start : outer.start.offset ≤ s.start.offset
  stop : s.stop.offset ≤ outer.stop.offset

/-- Spans one after the other between two offsets. -/
def InOrder : ℕ → List Span → ℕ → Prop
  | lo, [], hi => lo ≤ hi
  | lo, s :: ss, hi => lo ≤ s.start.offset ∧ s.start.offset ≤ s.stop.offset ∧ InOrder s.stop.offset ss hi

/-- A text that stands in the source at an offset. -/
def Stands (source : List Char) (offset : ℕ) (cs : List Char) : Prop :=
  ∃ before after, source = before ++ cs ++ after ∧ byteLength before = offset

variable {source cs as bs : List Char} {offset lo mid hi : ℕ} {s : Span} {ss : List Span}

theorem stands_self (source : List Char) : Stands source 0 source := ⟨[], [], by simp, rfl⟩

theorem Stands.left (h : Stands source offset (as ++ bs)) : Stands source offset as := by
  obtain ⟨before, after, hsource, hoffset⟩ := h
  exact ⟨before, bs ++ after, by simp [hsource], hoffset⟩

theorem Stands.right (h : Stands source offset (as ++ bs)) :
    Stands source (offset + byteLength as) bs := by
  obtain ⟨before, after, hsource, hoffset⟩ := h
  exact ⟨before ++ as, after, by simp [hsource], by simp [hoffset]⟩

theorem Stands.marks (h : Stands source offset cs) : ((Lines.ofText source).locate offset).Marks source := by
  obtain ⟨before, after, rfl, rfl⟩ := h
  refine ⟨before, cs ++ after, by simp, ?_⟩
  rw [List.append_assoc, Lines.locate_behind]

/-- The span of a text that stands in the source. -/
theorem Stands.covers (h : Stands source offset cs) (hhi : hi = offset + byteLength cs) :
    ((Lines.ofText source).span offset hi).Covers source offset hi := by
  have hstop : ((Lines.ofText source).locate hi).Marks source := by
    rw [← List.append_nil cs] at h
    exact hhi ▸ h.right.marks
  exact ⟨⟨h.marks, hstop, by simp [Lines.span, hhi]⟩, rfl, rfl⟩

theorem Span.Covers.le (h : s.Covers source lo hi) : lo ≤ hi := by
  rw [← h.start, ← h.stop]
  exact h.proper.le

theorem InOrder.le (h : InOrder lo ss hi) : lo ≤ hi := by
  induction ss generalizing lo with
  | nil => exact h
  | cons s ss ih => exact Nat.le_trans h.1 (Nat.le_trans h.2.1 (ih h.2.2))

theorem InOrder.stop_le (h : InOrder lo ss hi) (hs : s ∈ ss) : s.stop.offset ≤ hi := by
  induction ss generalizing lo with
  | nil => cases hs
  | cons t ss ih =>
    rcases List.mem_cons.1 hs with rfl | hs
    · exact h.2.2.le
    · exact ih h.2.2 hs

theorem InOrder.le_start (h : InOrder lo ss hi) (hs : s ∈ ss) : lo ≤ s.start.offset := by
  induction ss generalizing lo with
  | nil => cases hs
  | cons t ss ih =>
    rcases List.mem_cons.1 hs with rfl | hs
    · exact h.1
    · exact Nat.le_trans h.1 (Nat.le_trans h.2.1 (ih h.2.2 hs))

theorem InOrder.weaken_left {lo' : ℕ} (h : InOrder lo ss hi) (hlo : lo' ≤ lo) : InOrder lo' ss hi := by
  cases ss with
  | nil => exact Nat.le_trans hlo h
  | cons s ss => exact ⟨Nat.le_trans hlo h.1, h.2⟩

theorem inOrder_append {ss' : List Span} :
    InOrder lo (ss ++ ss') hi ↔ ∃ mid, InOrder lo ss mid ∧ InOrder mid ss' hi := by
  induction ss generalizing lo with
  | nil =>
    refine ⟨fun h => ⟨lo, Nat.le_refl lo, h⟩, ?_⟩
    rintro ⟨mid, hlo, h⟩
    exact h.weaken_left hlo
  | cons s ss ih =>
    simp only [List.cons_append, InOrder, ih]
    constructor
    · rintro ⟨h1, h2, mid, h3, h4⟩
      exact ⟨mid, ⟨h1, h2, h3⟩, h4⟩
    · rintro ⟨mid, ⟨h1, h2, h3⟩, h4⟩
      exact ⟨h1, h2, mid, h3, h4⟩

theorem InOrder.weaken_right {hi' : ℕ} (h : InOrder lo ss hi) (hhi : hi ≤ hi') : InOrder lo ss hi' := by
  rw [← List.append_nil ss]
  exact inOrder_append.2 ⟨hi, h, hhi⟩

/-- One more span behind others. -/
theorem InOrder.concat (h : InOrder lo ss mid) (hmid : mid ≤ s.start.offset)
    (hs : s.start.offset ≤ s.stop.offset) (hhi : s.stop.offset ≤ hi) : InOrder lo (ss ++ [s]) hi :=
  inOrder_append.2 ⟨mid, h, hmid, hs, hhi⟩

end ComponentAtlas.Source
