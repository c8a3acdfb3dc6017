import ComponentAtlas.Proofs.Source.Positions
import ComponentAtlas.Template.Reading

/-!
# Sources as bytes

A scanner may look at the bytes of a source one by one and cut texts out of it at byte offsets. A cut
inside a character fails. All characters that mean something to markup are one byte long, and no byte
of a longer character looks like one of them, so a search for such a character ends between
characters.

* `Window`: a part of a source from the start up to a byte offset; `Window.slice?`: a text cut out of
  the source, none if a cut does not fall between characters;
* `Window.test`, `Window.seekWhere`, `Window.seek`, `Window.skip`: what a scanner sees at an offset,
  and where a search ends;
* `Window.At`: the text that stands between an offset and the end of the window; with it each of the
  above is said in characters.
-/

namespace ComponentAtlas.Source

open ComponentAtlas.Text ComponentAtlas.Template

/-! ### Bytes of characters -/

/-- The bytes of a text. -/
def utf8 (cs : List Char) : List UInt8 := cs.flatMap String.utf8EncodeChar

@[simp] theorem utf8_cons (c : Char) (cs : List Char) : utf8 (c :: cs) = String.utf8EncodeChar c ++ utf8 cs :=
  List.flatMap_cons

@[simp] theorem utf8_append (as bs : List Char) : utf8 (as ++ bs) = utf8 as ++ utf8 bs := List.flatMap_append

@[simp] theorem length_utf8 (cs : List Char) : (utf8 cs).length = byteLength cs := by
  induction cs with
  | nil => rfl
  | cons c cs ih => simp [ih]

/-- Whether a character is one byte long. -/
def isAscii (c : Char) : Bool := c.toNat < 0x80

theorem utf8EncodeChar_of_isAscii {c : Char} (h : isAscii c) :
    String.utf8EncodeChar c = [UInt8.ofNat c.toNat] := by
  have h : c.val.toNat ≤ 0x7f := Nat.le_of_lt_succ (by simpa [isAscii] using h)
  rw [String.utf8EncodeChar]
  exact if_pos h

theorem utf8Size_of_isAscii {c : Char} (h : isAscii c) : c.utf8Size = 1 := by
  rw [← String.length_utf8EncodeChar, utf8EncodeChar_of_isAscii h]
  rfl

theorem le_of_mem_utf8EncodeChar {c : Char} (h : isAscii c = false) :
    ∀ b ∈ String.utf8EncodeChar c, 0x80 ≤ b.toNat := by
  have h : ¬ c.val.toNat ≤ 0x7f := by
    have : ¬ c.toNat < 0x80 := by simpa [isAscii] using h
    exact fun hle => this (Nat.lt_succ_of_le hle)
  simp only [String.utf8EncodeChar, if_neg h]
  split
  · simp
    omega
  · split
    · simp
      omega
    · simp
      omega

theorem eq_nil_of_byteLength {cs : List Char} (h : byteLength cs = 0) : cs = [] := by
  cases cs with
  | nil => rfl
  | cons c cs =>
    have := c.utf8Size_pos
    rw [byteLength_cons] at h
    omega

theorem length_le_byteLength (cs : List Char) : cs.length ≤ byteLength cs := by
  induction cs with
  | nil => exact Nat.le_refl _
  | cons c cs ih =>
    have := c.utf8Size_pos
    rw [List.length_cons, byteLength_cons]
    omega

theorem byteLength_of_isAscii {cs : List Char} (h : ∀ c ∈ cs, isAscii c) : byteLength cs = cs.length := by
  induction cs with
  | nil => rfl
  | cons c cs ih =>
    obtain ⟨hc, hcs⟩ := List.forall_mem_cons.1 h
    rw [byteLength_cons, utf8Size_of_isAscii hc, ih hcs, List.length_cons, Nat.add_comm]

/-! ### Cuts -/

theorem dropBytes?_append (as bs : List Char) : dropBytes? (byteLength as) (as ++ bs) = some bs := by
  induction as with
  | nil => simp [dropBytes?]
  | cons c as ih =>
    obtain ⟨n, hn⟩ : ∃ n, c.utf8Size + byteLength as = n + 1 :=
      Nat.exists_eq_add_one.2 (Nat.add_pos_left c.utf8Size_pos _)
    have hrest : n + 1 - c.utf8Size = byteLength as := by omega
    rw [List.cons_append, byteLength_cons, hn, dropBytes?, if_pos (by omega), hrest, ih]

/-- What remains behind a number of bytes stands behind whole characters. -/
theorem dropBytes?_eq_some_iff {n : ℕ} {cs rest : List Char} :
    dropBytes? n cs = some rest ↔ ∃ as, cs = as ++ rest ∧ byteLength as = n := by
  constructor
  · intro h
    fun_induction dropBytes? n cs with
    | case1 cs =>
      cases h
      exact ⟨[], rfl, rfl⟩
    | case2 => cases h
    | case3 n c cs hle ih =>
      obtain ⟨as, rfl, has⟩ := ih h
      exact ⟨c :: as, rfl, by rw [byteLength_cons, has]; omega⟩
    | case4 => cases h
  · rintro ⟨as, rfl, rfl⟩
    exact dropBytes?_append as rest

/-! ### Windows -/

/-- The part of a source before a byte offset. -/
structure Window where
  source : List Char
  stop : ℕ

namespace Window

/-- The byte at an offset before the end of the window. -/
def byte? (w : Window) (at_ : ℕ) : Option UInt8 := if at_ < w.stop then (utf8 w.source)[at_]? else none

/-- Whether a character of one byte that satisfies `p` stands at an offset. -/
def test (w : Window) (p : Char → Bool) (at_ : ℕ) : Bool :=
  match w.byte? at_ with
  | some b => decide (b < 0x80) && p (Char.ofNat b.toNat)
  | none => false

/-- Whether the given characters of one byte stand at an offset. -/
def startsWith (w : Window) : List Char → ℕ → Bool
  | [], _ => true
  | c :: cs, at_ => w.test (· == c) at_ && w.startsWith cs (at_ + 1)

/-- The text between two offsets. A cut out of order, outside the source or inside a character fails. -/
def slice? (w : Window) (start stop : ℕ) : Option (List Char) :=
  if start ≤ stop then do
    let fromStart ← dropBytes? start w.source
    let fromStop ← dropBytes? stop w.source
    return fromStart.take (fromStart.length - fromStop.length)
  else none

example : slice? ⟨['a', 'é'], 3⟩ 0 2 = none := by cbv

/-- The first of `n` offsets at which a search stops, or the offset behind them. -/
def seekFrom (stops : ℕ → Bool) : ℕ → ℕ → ℕ
  | 0, at_ => at_
  | n + 1, at_ => if stops at_ then at_ else seekFrom stops n (at_ + 1)

/-- The first offset at which a search stops, or the end of the window. -/
def seekWhere (w : Window) (stops : ℕ → Bool) (at_ : ℕ) : ℕ := seekFrom stops (w.stop - at_) at_

/-- The first offset of a character that satisfies `p`, or the end of the window. -/
def seek (w : Window) (p : Char → Bool) (at_ : ℕ) : ℕ := w.seekWhere (w.test p) at_

/-- The first offset where no character that satisfies `p` stands. -/
def skip (w : Window) (p : Char → Bool) (at_ : ℕ) : ℕ := w.seekWhere (fun i => !w.test p i) at_

/-- The text from an offset on, up to the end of the window. -/
structure At (w : Window) (at_ : ℕ) (cs : List Char) : Prop where
  stands : Stands w.source at_ cs
  stop : w.stop = at_ + byteLength cs

variable {w : Window} {at_ : ℕ} {c : Char} {cs as bs : List Char} {p : Char → Bool}

theorem At.right (h : w.At at_ (as ++ bs)) : w.At (at_ + byteLength as) bs :=
  ⟨h.stands.right, by rw [h.stop, byteLength_append, Nat.add_assoc]⟩

/-- A smaller window ends where the text before an offset ends. -/
theorem At.left (h : w.At at_ (as ++ bs)) : ({ w with stop := at_ + byteLength as } : Window).At at_ as :=
  ⟨h.stands.left, rfl⟩

theorem At.tail (h : w.At at_ (c :: cs)) : w.At (at_ + c.utf8Size) cs := by
  have hcut : w.At at_ ([c] ++ cs) := h
  exact hcut.right

theorem At.next (h : w.At at_ (c :: cs)) (hc : isAscii c) : w.At (at_ + 1) cs := by
  rw [← utf8Size_of_isAscii hc]
  exact h.tail

theorem At.end (h : w.At at_ cs) : w.At w.stop [] := by
  rw [← List.append_nil cs] at h
  rw [h.stop, List.append_nil]
  exact h.right

theorem At.boundary (h : w.At at_ cs) : ∃ after, dropBytes? at_ w.source = some (cs ++ after) := by
  obtain ⟨before, after, hsource, rfl⟩ := h.stands
  exact ⟨after, by rw [hsource, List.append_assoc, dropBytes?_append]⟩

/-- Texts are cut out between characters. -/
theorem At.slice? (h : w.At at_ (as ++ bs)) : w.slice? at_ (at_ + byteLength as) = some as := by
  obtain ⟨before, after, hsource, rfl⟩ := h.stands
  have hstart : dropBytes? (byteLength before) w.source = some (as ++ (bs ++ after)) := by
    rw [hsource, List.append_assoc, List.append_assoc, dropBytes?_append]
  have hstop : dropBytes? (byteLength before + byteLength as) w.source = some (bs ++ after) := by
    rw [hsource, List.append_assoc, List.append_assoc, ← List.append_assoc before, ← byteLength_append,
      dropBytes?_append]
  rw [Window.slice?, if_pos (Nat.le_add_right _ _), hstart, hstop]
  simp

theorem At.slice_stop (h : w.At at_ cs) : w.slice? at_ w.stop = some cs := by
  have hwhole : w.At at_ (cs ++ []) := by rwa [List.append_nil]
  rw [h.stop]
  exact hwhole.slice?

theorem At.byte? (h : w.At at_ cs) (i : ℕ) : w.byte? (at_ + i) = (utf8 cs)[i]? := by
  obtain ⟨⟨before, after, hsource, rfl⟩, hstop⟩ := h
  rw [Window.byte?, hstop]
  by_cases hi : i < byteLength cs
  · rw [if_pos (Nat.add_lt_add_left hi _), hsource, utf8_append, utf8_append, List.append_assoc,
      List.getElem?_append_right (by simp), List.getElem?_append_left (by simpa using hi)]
    simp
  · rw [if_neg (by omega), List.getElem?_eq_none (by simpa using hi)]

theorem At.test_nil (h : w.At at_ []) (p : Char → Bool) : w.test p at_ = false := by
  have hbyte := h.byte? 0
  rw [Nat.add_zero] at hbyte
  rw [Window.test, hbyte]
  rfl

/-- Nothing is seen at a byte of a longer character. -/
theorem At.test_longer (h : w.At at_ (c :: cs)) (hc : isAscii c = false) (p : Char → Bool) {i : ℕ}
    (hi : i < c.utf8Size) : w.test p (at_ + i) = false := by
  have hi' : i < (String.utf8EncodeChar c).length := by simpa using hi
  have hbyte := h.byte? i
  rw [utf8_cons, List.getElem?_append_left hi', List.getElem?_eq_getElem hi'] at hbyte
  have hle := le_of_mem_utf8EncodeChar hc _ (List.getElem_mem hi')
  rw [Window.test, hbyte]
  simp [UInt8.lt_iff_toNat_lt, Nat.not_lt.2 hle]

theorem At.test_cons (h : w.At at_ (c :: cs)) (p : Char → Bool) : w.test p at_ = (isAscii c && p c) := by
  cases hc : isAscii c with
  | true =>
    have hlt : c.toNat < 0x80 := by simpa [isAscii] using hc
    have hmod : c.toNat % 256 = c.toNat := Nat.mod_eq_of_lt (by omega)
    have hbyte := h.byte? 0
    rw [Nat.add_zero, utf8_cons, utf8EncodeChar_of_isAscii hc] at hbyte
    rw [Window.test, hbyte]
    simp [UInt8.lt_iff_toNat_lt, hmod, hlt, Char.ofNat_toNat]
  | false => exact h.test_longer hc p c.utf8Size_pos

/-- Nothing is seen inside a character. -/
theorem At.test_inside (h : w.At at_ (c :: cs)) (p : Char → Bool) {i : ℕ} (hpos : 0 < i)
    (hi : i < c.utf8Size) :
    w.test p (at_ + i) = false := by
  cases hc : isAscii c with
  | true =>
    rw [utf8Size_of_isAscii hc] at hi
    omega
  | false => exact h.test_longer hc p hi

theorem At.startsWith {lit : List Char} (h : w.At at_ cs) (hlit : lit.all isAscii) :
    w.startsWith lit at_ = (dropLiteral? lit cs).isSome := by
  induction lit generalizing at_ cs with
  | nil => cases cs <;> rfl
  | cons a lit ih =>
    rw [List.all_cons, Bool.and_eq_true] at hlit
    obtain ⟨ha, hlit⟩ := hlit
    cases cs with
    | nil => simp [Window.startsWith, h.test_nil, dropLiteral?]
    | cons c cs =>
      rw [Window.startsWith, h.test_cons, dropLiteral?]
      by_cases hca : c = a
      · subst hca
        rw [ih (h.next ha) hlit]
        simp [ha]
      · have hac : (a == c) = false := by simpa using Ne.symm hca
        simp [hca, hac]

theorem At.startsWith_eq_false {lit : List Char} (h : w.At at_ cs) (hlit : lit.all isAscii)
    (hnot : ∀ rest, cs ≠ lit ++ rest) : w.startsWith lit at_ = false := by
  rw [h.startsWith hlit]
  cases hdrop : dropLiteral? lit cs with
  | none => rfl
  | some rest => exact absurd (eq_append_of_dropLiteral? hdrop) (hnot rest)

/-! ### Searches -/

/-- A text before and behind the first place where a search ends. -/
def splitWhere (ends : List Char → Bool) : List Char → List Char × List Char
  | [] => ([], [])
  | c :: cs =>
    if ends (c :: cs) then ([], c :: cs)
    else
      let (before, behind) := splitWhere ends cs
      (c :: before, behind)

theorem splitWhere_head (p : Char → Bool) (cs : List Char) :
    splitWhere (fun cs => cs.head?.any p) cs = (cs.takeWhile (!p ·), cs.dropWhile (!p ·)) := by
  induction cs with
  | nil => rfl
  | cons c cs ih => cases hc : p c <;> simp [splitWhere, hc, ih]

theorem seekFrom_add {stops : ℕ → Bool} {k : ℕ} (h : ∀ i < k, stops (at_ + i) = false) (n : ℕ) :
    seekFrom stops (k + n) at_ = seekFrom stops n (at_ + k) := by
  induction k generalizing at_ with
  | zero => rw [Nat.zero_add, Nat.add_zero]
  | succ k ih =>
    have hhere : stops at_ = false := h 0 (Nat.succ_pos k)
    have hmore : ∀ i < k, stops (at_ + 1 + i) = false := by
      intro i hi
      rw [Nat.add_assoc, Nat.add_comm 1]
      exact h (i + 1) (Nat.succ_lt_succ hi)
    rw [Nat.add_right_comm, seekFrom, hhere, if_neg (by decide), ih hmore, Nat.add_assoc, Nat.add_comm 1]

/-- A search that stops only where a character of one byte is seen ends between characters. -/
theorem At.seekWhere {stops : ℕ → Bool} (h : w.At at_ cs) (ends : List Char → Bool)
    (hseen : ∀ i, stops i → ∃ p, w.test p i)
    (hends : ∀ i c cs, w.At i (c :: cs) → stops i = ends (c :: cs)) :
    w.seekWhere stops at_ = at_ + byteLength (splitWhere ends cs).1 := by
  rw [Window.seekWhere, h.stop, Nat.add_sub_cancel_left]
  induction cs generalizing at_ with
  | nil => rfl
  | cons c cs ih =>
    have hhere := hends at_ c cs h
    have hpos := c.utf8Size_pos
    rw [splitWhere, byteLength_cons]
    cases hc : ends (c :: cs) with
    | true =>
      obtain ⟨n, hn⟩ : ∃ n, c.utf8Size + byteLength cs = n + 1 := Nat.exists_eq_add_one.2 (by omega)
      rw [hn, seekFrom, hhere, hc]
      rfl
    | false =>
      -- The search does not stop at the first byte, and at the others it sees nothing.
      have hskip : ∀ i < c.utf8Size, stops (at_ + i) = false := by
        intro i hi
        rcases Nat.eq_zero_or_pos i with rfl | hi0
        · rw [Nat.add_zero, hhere, hc]
        · by_contra hstop
          obtain ⟨p, hp⟩ := hseen _ (by simpa using hstop)
          rw [h.test_inside p hi0 hi] at hp
          cases hp
      rw [seekFrom_add hskip, ih h.tail]
      simp [Nat.add_assoc]

theorem At.seek (h : w.At at_ cs) (hp : ∀ c, p c → isAscii c) :
    w.seek p at_ = at_ + byteLength (cs.takeWhile (!p ·)) := by
  have hends : ∀ i c cs, w.At i (c :: cs) → w.test p i = (c :: cs).head?.any p := by
    intro i c cs hi
    rw [hi.test_cons]
    cases hc : p c <;> simp [hc, hp]
  rw [Window.seek, h.seekWhere (fun cs => cs.head?.any p) (fun i hi => ⟨p, hi⟩) hends,
    splitWhere_head]

theorem At.seek_not (h : w.At at_ cs) (hp : ∀ c, (!p c) = true → isAscii c) :
    w.seek (fun c => !p c) at_ = at_ + byteLength (cs.takeWhile p) := by
  simpa using h.seek hp

theorem At.skip (h : w.At at_ cs) (hp : ∀ c, p c → isAscii c) :
    w.skip p at_ = at_ + byteLength (cs.takeWhile p) := by
  rw [Window.skip, Window.seekWhere, h.stop, Nat.add_sub_cancel_left]
  induction cs generalizing at_ with
  | nil => rfl
  | cons c cs ih =>
    have hpos := c.utf8Size_pos
    obtain ⟨n, hn⟩ : ∃ n, c.utf8Size + byteLength cs = n + 1 := Nat.exists_eq_add_one.2 (by omega)
    rw [byteLength_cons, hn, seekFrom, h.test_cons]
    cases hc : p c with
    | true =>
      have hsize := utf8Size_of_isAscii (hp c hc)
      have hn : n = byteLength cs := by omega
      rw [hn, if_neg (by simp [hp c hc]), ih (h.next (hp c hc))]
      simp [hc, hsize, Nat.add_assoc]
    | false => simp [hc]

end Window

end ComponentAtlas.Source
