import ComponentAtlas.Text.LetterCase
import Mathlib.Data.List.Basic

/-!
# What lower case does to a text

The lower-case form of a text is found character by character in a table of runs of letters. Here the
table is gone through once, and what it says about single characters is carried over to texts.

* `Run`: a run of letters of the table, with the first and the last image;
* `lowerSteps_sound`: images are word characters and letters of no run, and a few characters are fixed;
* `mem_lowerChar`, `settled_of_mem_lowerChar`: a character stays as it is or becomes word characters,
  and what it becomes is not changed again;
* `lower_lower`, `mem_lower`, `mem_lower_of_settled`: the same for texts.
-/

namespace ComponentAtlas.Text

namespace LetterCase

/-! ### Runs of letters -/

/-- Letters that are mapped alike: first and last code point, stride, and distance to the image. -/
abbrev Run := ℕ × ℕ × ℕ × Int

namespace Run

/-- Whether a code point is a letter of the run. -/
def holds (r : Run) (n : ℕ) : Bool := r.1 ≤ n && n ≤ r.2.1 && (n - r.1) % r.2.2.1 == 0

/-- The image of a letter of the run. -/
def image (r : Run) (n : ℕ) : ℕ := (Int.ofNat n + r.2.2.2).toNat

/-- Whether all images are even or all are odd. -/
def isAlternating (r : Run) : Bool := Nat.beq r.2.2.1 2 || Nat.beq r.1 r.2.1

/-- Whether no image is a letter of another run: the images lie in front of it, behind it or between
its letters. -/
def avoids (r s : Run) : Bool :=
  Nat.blt (r.image r.2.1) s.1 || Nat.blt s.2.1 (r.image r.1) ||
    (r.isAlternating && Nat.beq s.2.2.1 2 && Nat.beq ((r.image r.1 + s.1) % 2) 1)

/-- Whether all images are word characters: they are no ASCII characters and lie in one range of the
table of word characters, or the only image is a `k`. -/
def isWordly (r : Run) : Bool :=
  (Nat.beq (r.image r.1) 0x6B && Nat.beq (r.image r.2.1) 0x6B) ||
    (Nat.ble 0x80 (r.image r.1) &&
      Classes.wordRanges.any fun w => Nat.ble (r.image r.2.1) w.2 && Nat.ble w.1 (r.image r.1))

/-- Whether all images are code points of characters. -/
def isValid (r : Run) : Bool :=
  Nat.blt 0 (r.image r.1) &&
    (Nat.blt (r.image r.2.1) 0xD800 ||
      (Nat.blt 0xDFFF (r.image r.1) && Nat.blt (r.image r.2.1) 0x110000))

end Run

/-- The letter with an image of two characters, as a run of its own. -/
def dottedI : Run := (0x130, 0x130, 1, 0)

/-- Whether the images of a run are word characters and are not changed again. -/
def Run.isSound (r : Run) : Bool :=
  r.isWordly && r.isValid && (dottedI :: lowerSteps).all fun s => r.avoids s

/-- Whether a character is a word character and a letter of no run. -/
def isFixed (c : Char) : Bool :=
  Classes.word c && Nat.ble 0x131 c.toNat && lowerSteps.all fun r => !Run.holds r c.toNat

/-- The table in one pass. The characters are the dot that stands behind the image of `dottedI`, and the
two small sigmas, while the large one is a letter of a run. -/
theorem lowerSteps_sound :
    lowerSteps.all Run.isSound ∧ (lowerSteps.any fun r => Run.holds r 0x3A3) ∧
      [Char.ofNat 0x307, 'ς', 'σ'].all isFixed := by
  decide +kernel

/-! ### Images of code points -/

variable {r s : Run} {n : ℕ}

theorem sound_of_mem (hr : r ∈ lowerSteps) :
    (r.isWordly ∧ r.isValid) ∧ ∀ s ∈ dottedI :: lowerSteps, r.avoids s := by
  simpa only [Run.isSound, Bool.and_eq_true, List.all_eq_true] using
    List.all_eq_true.1 lowerSteps_sound.1 r hr

theorem Run.holds_iff :
    r.holds n ↔ r.1 ≤ n ∧ n ≤ r.2.1 ∧ (n - r.1) % r.2.2.1 = 0 := by
  simp [Run.holds, and_assoc]

/-- Images keep their distances, so that they lie between those of the first and of the last letter. -/
theorem Run.image_bounds (hvalid : r.isValid) (h : r.holds n) :
    r.image r.1 ≤ r.image n ∧ r.image n ≤ r.image r.2.1 ∧ r.image n = r.image r.1 + (n - r.1) := by
  obtain ⟨hlo, hhi, -⟩ := Run.holds_iff.1 h
  have hpos : 0 < r.image r.1 := by
    simp only [Run.isValid, Bool.and_eq_true, Nat.blt_eq] at hvalid
    exact hvalid.1
  simp only [Run.image, Int.ofNat_eq_natCast] at hpos ⊢
  omega

theorem Run.isValidChar_image (hvalid : r.isValid) (h : r.holds n) : (r.image n).isValidChar := by
  obtain ⟨hfirst, hlast, -⟩ := Run.image_bounds hvalid h
  simp only [Run.isValid, Bool.and_eq_true, Bool.or_eq_true, Nat.blt_eq] at hvalid
  rcases hvalid.2 with hsmall | ⟨hlow, hhigh⟩
  · exact .inl (by omega)
  · exact .inr ⟨by omega, by omega⟩

/-- An image is a letter of no run. -/
theorem Run.not_holds_image (hvalid : r.isValid) (h : r.holds n) (havoids : r.avoids s) :
    ¬ s.holds (r.image n) := by
  intro himage
  obtain ⟨hlo, hhi, hstride⟩ := Run.holds_iff.1 h
  obtain ⟨hlo', hhi', hstride'⟩ := Run.holds_iff.1 himage
  obtain ⟨hfirst, hlast, hdistance⟩ := Run.image_bounds hvalid h
  simp only [Run.avoids, Run.isAlternating, Bool.or_eq_true, Bool.and_eq_true, Nat.blt_eq,
    Nat.beq_eq] at havoids
  rcases havoids with (hfront | hbehind) | ⟨⟨halternating, htwo⟩, hodd⟩
  · omega
  · omega
  · rw [htwo] at hstride'
    rcases halternating with htwo' | hsingle
    · rw [htwo'] at hstride
      omega
    · omega

theorem toNat_ofNat (h : n.isValidChar) : (Char.ofNat n).toNat = n := by
  rw [Char.ofNat, dif_pos h]
  rfl

/-- An image is a `k`, or a word character that is not an ASCII character. -/
theorem Run.image_cases (hwordly : r.isWordly) (hvalid : r.isValid) (h : r.holds n) :
    r.image n = 0x6B ∨ 0x80 ≤ r.image n ∧ inRanges Classes.wordRanges (r.image n) := by
  obtain ⟨hfirst, hlast, -⟩ := Run.image_bounds hvalid h
  simp only [Run.isWordly, Bool.or_eq_true, Bool.and_eq_true, Nat.beq_eq, List.any_eq_true,
    Nat.ble_eq] at hwordly
  rcases hwordly with ⟨hk, hk'⟩ | ⟨hbig, w, hw, hhi, hlo⟩
  · exact .inl (by omega)
  · refine .inr ⟨by omega, List.any_eq_true.2 ⟨w, hw, ?_⟩⟩
    simp only [Bool.and_eq_true, decide_eq_true_eq]
    omega

/-- The image of a code point: that of the first run that holds it, or itself. -/
theorem shift_cases (n : ℕ) :
    (∃ r ∈ lowerSteps, Run.holds r n ∧ shift lowerSteps n = Run.image r n) ∨
      (∀ r ∈ lowerSteps, ¬ Run.holds r n) ∧ shift lowerSteps n = n := by
  unfold shift
  split
  · next lo hi stride d hfind =>
    have hholds := List.find?_some hfind
    exact .inl ⟨(lo, hi, stride, d), List.mem_of_find?_eq_some hfind, hholds, rfl⟩
  · next hfind =>
    refine .inr ⟨fun r hr => ?_, rfl⟩
    exact List.find?_eq_none.1 hfind r hr

/-! ### Images of characters -/

variable {c d : Char} {before cs : List Char}

/-- A character that lower case leaves as it is, wherever it stands. -/
def Settled (c : Char) : Prop := c ≠ 'Σ' ∧ lowerChar c = [c]

theorem lowerChar_of_lt (h : c.toNat < 0x80) : lowerChar c = [c.toLower] := if_pos h

theorem lowerChar_of_le (h : 0x80 ≤ c.toNat) :
    c.toNat = 0x130 ∧ lowerChar c = ['i', Char.ofNat 0x307] ∨
      c.toNat ≠ 0x130 ∧ lowerChar c = [Char.ofNat (shift lowerSteps c.toNat)] := by
  rw [lowerChar, if_neg (by omega), image, lowerExpansions]
  by_cases hdot : c.toNat = 0x130
  · exact .inl ⟨hdot, by rw [hdot]; rfl⟩
  · refine .inr ⟨hdot, ?_⟩
    rw [List.find?_cons_of_neg (by simpa using Ne.symm hdot), List.find?_nil]

theorem forall_ascii {p : Char → Prop} (h : ∀ n < 0x80, p (Char.ofNat n)) (hc : c.toNat < 0x80) : p c := by
  have hofNat := h c.toNat hc
  rwa [Char.ofNat_toNat] at hofNat

/-- What lower case does to an ASCII character. -/
theorem toLower_ascii (hc : c.toNat < 0x80) :
    (c.toLower = c ∨ Classes.word c.toLower) ∧ c.toLower.toNat < 0x80 ∧ c.toLower.toLower = c.toLower :=
  forall_ascii (p := fun c => (c.toLower = c ∨ Classes.word c.toLower) ∧ c.toLower.toNat < 0x80 ∧
    c.toLower.toLower = c.toLower) (by decide) hc

theorem settled_of_ascii (hc : c.toNat < 0x80) (hlower : c.toLower = c) : Settled c := by
  refine ⟨?_, by rw [lowerChar_of_lt hc, hlower]⟩
  rintro rfl
  exact absurd hc (by decide)

/-- A character from U+0080 on that no run holds is not changed. -/
theorem settled_of_not_holds (hc : 0x80 ≤ c.toNat) (hdot : c.toNat ≠ 0x130)
    (hnot : ∀ r ∈ lowerSteps, ¬ Run.holds r c.toNat) : Settled c := by
  constructor
  · rintro rfl
    obtain ⟨r, hr, hholds⟩ := List.any_eq_true.1 lowerSteps_sound.2.1
    exact hnot r hr hholds
  · obtain ⟨hdot', -⟩ | ⟨-, hlower⟩ := lowerChar_of_le hc
    · exact absurd hdot' hdot
    · obtain ⟨r, hr, hholds, -⟩ | ⟨-, hshift⟩ := shift_cases c.toNat
      · exact absurd hholds (hnot r hr)
      · rw [hlower, hshift, Char.ofNat_toNat]

/-- What a letter of a run becomes is not changed again. -/
theorem settled_image (hr : r ∈ lowerSteps) (h : r.holds n) : Settled (Char.ofNat (r.image n)) := by
  obtain ⟨⟨hwordly, hvalid⟩, havoids⟩ := sound_of_mem hr
  have hchar := toNat_ofNat (Run.isValidChar_image hvalid h)
  obtain hk | ⟨hbig, -⟩ := Run.image_cases hwordly hvalid h
  · rw [hk]
    exact settled_of_ascii (by decide) (by decide)
  · refine settled_of_not_holds (by rwa [hchar]) ?_ ?_
    · rw [hchar]
      intro heq
      refine Run.not_holds_image hvalid h (havoids _ List.mem_cons_self) ?_
      rw [heq]
      decide
    · intro s hs
      rw [hchar]
      exact Run.not_holds_image hvalid h (havoids s (List.mem_cons_of_mem _ hs))

theorem settled_fixed (hd : d ∈ [Char.ofNat 0x307, 'ς', 'σ']) : Classes.word d ∧ Settled d := by
  have hfixed := List.all_eq_true.1 lowerSteps_sound.2.2 d hd
  simp only [isFixed, Bool.and_eq_true, Nat.ble_eq, List.all_eq_true, Bool.not_eq_true'] at hfixed
  obtain ⟨⟨hword, hbig⟩, hnot⟩ := hfixed
  refine ⟨hword, settled_of_not_holds (by omega) (by omega) fun r hr => ?_⟩
  exact Bool.eq_false_iff.1 (hnot r hr)

/-- A character is not changed, or what it becomes consists of word characters that are not changed
again. -/
theorem lowerChar_cases (c : Char) :
    Settled c ∨ ∀ d ∈ lowerChar c, Classes.word d ∧ Settled d := by
  by_cases hc : c.toNat < 0x80
  · obtain ⟨hword, hascii, hagain⟩ := toLower_ascii hc
    rcases hword with hsame | hword
    · exact .inl (settled_of_ascii hc hsame)
    · refine .inr fun d hd => ?_
      rw [lowerChar_of_lt hc, List.mem_singleton] at hd
      rw [hd]
      exact ⟨hword, settled_of_ascii hascii hagain⟩
  · obtain ⟨-, hlower⟩ | ⟨hdot, hlower⟩ := lowerChar_of_le (Nat.le_of_not_lt hc)
    · refine .inr fun d hd => ?_
      rw [hlower] at hd
      rcases List.mem_pair.1 hd with rfl | rfl
      · exact ⟨by decide, settled_of_ascii (by decide) (by decide)⟩
      · exact settled_fixed List.mem_cons_self
    · obtain ⟨r, hr, hholds, hshift⟩ | ⟨hnot, -⟩ := shift_cases c.toNat
      · refine .inr fun d hd => ?_
        rw [hlower, hshift, List.mem_singleton] at hd
        rw [hd]
        obtain ⟨⟨hwordly, hvalid⟩, -⟩ := sound_of_mem hr
        refine ⟨?_, settled_image hr hholds⟩
        have hchar := toNat_ofNat (Run.isValidChar_image hvalid hholds)
        obtain hk | ⟨hbig, hword⟩ := Run.image_cases hwordly hvalid hholds
        · rw [hk]
          decide
        · rw [Classes.word, hchar, if_neg (Nat.not_lt.2 hbig)]
          exact hword
      · exact .inl (settled_of_not_holds (Nat.le_of_not_lt hc) hdot hnot)

theorem lowerChar_ne_nil (c : Char) : lowerChar c ≠ [] := by
  by_cases hc : c.toNat < 0x80
  · rw [lowerChar_of_lt hc]
    exact List.cons_ne_nil _ _
  · obtain ⟨-, hlower⟩ | ⟨-, hlower⟩ := lowerChar_of_le (Nat.le_of_not_lt hc) <;>
    · rw [hlower]
      exact List.cons_ne_nil _ _

/-! ### Texts -/

/-- What one character of a text becomes: its own image, or one of the two small sigmas. -/
theorem lowerAfter_cons (before : List Char) (c : Char) (cs : List Char) :
    ∃ here, lowerAfter before (c :: cs) = here ++ lowerAfter (c :: before) cs ∧
      (c ≠ 'Σ' ∧ here = lowerChar c ∨ c = 'Σ' ∧ (here = ['ς'] ∨ here = ['σ'])) := by
  refine ⟨_, rfl, ?_⟩
  by_cases hsigma : c = 'Σ'
  · refine .inr ⟨hsigma, ?_⟩
    rw [if_pos (beq_iff_eq.2 hsigma)]
    split
    · exact .inl rfl
    · exact .inr rfl
  · exact .inl ⟨hsigma, if_neg (by simpa using hsigma)⟩

/-- Whatever stands in a lower-case text is not changed again, and is a character of the text or a word
character. -/
theorem mem_lowerAfter (h : d ∈ lowerAfter before cs) : (d ∈ cs ∨ Classes.word d) ∧ Settled d := by
  induction cs generalizing before with
  | nil => cases h
  | cons c cs ih =>
    obtain ⟨here, hcons, hhere⟩ := lowerAfter_cons before c cs
    rw [hcons, List.mem_append] at h
    rcases h with h | h
    · rcases hhere with ⟨-, rfl⟩ | ⟨-, hhere⟩
      · rcases lowerChar_cases c with hsettled | hword
        · rw [hsettled.2, List.mem_singleton] at h
          exact ⟨.inl (by simp [h]), h ▸ hsettled⟩
        · exact ⟨.inr (hword d h).1, (hword d h).2⟩
      · have hd : d ∈ ['ς', 'σ'] := by
          rcases hhere with rfl | rfl <;> simp_all
        obtain ⟨hword, hsettled⟩ := settled_fixed (List.mem_cons_of_mem _ hd)
        exact ⟨.inr hword, hsettled⟩
    · obtain ⟨hmem, hsettled⟩ := ih h
      exact ⟨hmem.imp_left (List.mem_cons_of_mem c), hsettled⟩

theorem lowerAfter_of_settled (h : ∀ c ∈ cs, Settled c) (before : List Char) :
    lowerAfter before cs = cs := by
  induction cs generalizing before with
  | nil => rfl
  | cons c cs ih =>
    have hc := h c List.mem_cons_self
    obtain ⟨here, hcons, ⟨-, rfl⟩ | ⟨hsigma, -⟩⟩ := lowerAfter_cons before c cs
    · rw [hcons, hc.2, ih fun c' hc' => h c' (List.mem_cons_of_mem c hc')]
      rfl
    · exact absurd hsigma hc.1

theorem mem_lowerAfter_of_settled (hc : Settled c) (h : c ∈ cs) : c ∈ lowerAfter before cs := by
  induction cs generalizing before with
  | nil => cases h
  | cons b cs ih =>
    obtain ⟨here, hcons, hhere⟩ := lowerAfter_cons before b cs
    rw [hcons, List.mem_append]
    rcases List.mem_cons.1 h with rfl | h
    · rcases hhere with ⟨-, rfl⟩ | ⟨hsigma, -⟩
      · exact .inl (by simp [hc.2])
      · exact absurd hsigma hc.1
    · exact .inr (ih h)

theorem lowerAfter_ne_nil (h : cs ≠ []) : lowerAfter before cs ≠ [] := by
  cases cs with
  | nil => exact absurd rfl h
  | cons c cs =>
    obtain ⟨here, hcons, hhere⟩ := lowerAfter_cons before c cs
    have hne : here ≠ [] := by
      rcases hhere with ⟨-, rfl⟩ | ⟨-, rfl | rfl⟩
      · exact lowerChar_ne_nil c
      · exact List.cons_ne_nil _ _
      · exact List.cons_ne_nil _ _
    rw [hcons]
    exact List.append_ne_nil_of_left_ne_nil hne _

end LetterCase

open LetterCase

variable {c : Char} {s : String}

theorem toList_lower (s : String) : (lower s).toList = lowerAfter [] s.toList := String.toList_ofList

/-- The lower-case form of a text is in lower case. -/
theorem lower_lower (s : String) : lower (lower s) = lower s := by
  have hsettled : ∀ c ∈ (lower s).toList, Settled c := fun c hc =>
    (mem_lowerAfter (toList_lower s ▸ hc)).2
  rw [lower, lowerAfter_of_settled hsettled, String.ofList_toList]

theorem mem_lower (h : c ∈ (lower s).toList) : c ∈ s.toList ∨ Classes.word c :=
  (mem_lowerAfter (toList_lower s ▸ h)).1

theorem mem_lower_of_settled (hc : Settled c) (h : c ∈ s.toList) : c ∈ (lower s).toList := by
  rw [toList_lower]
  exact mem_lowerAfter_of_settled hc h

theorem toList_lower_ne_nil (h : s.toList ≠ []) : (lower s).toList ≠ [] := by
  rw [toList_lower]
  exact lowerAfter_ne_nil h

end ComponentAtlas.Text
