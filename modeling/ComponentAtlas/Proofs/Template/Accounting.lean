import ComponentAtlas.Proofs.Template.Rendering

/-!
# No attribute disappears silently

The attributes of an element are sorted into literal attributes, inputs, events, references and
variables, and the first `*` attribute becomes a template around the element. Every attribute leaves an
entry with its span or is reported, and no entry has another origin.

* `bareName`, `formOf`, `input?`, `output?`: the bindings that an attribute stands for;
* `TwoWay`: the names of two-way bindings; `TwoWay.formOf_eq`, `TwoWay.of_formOf`: there are no others;
* `Sorted.Adds`: what one more attribute can do; `add_adds`;
* `Sorted.Tally`: what is known when some attributes have been sorted; `ofList_tally`;
* `Accounted`: an element accounts for its attributes; `attributes_accounted`.
-/

namespace ComponentAtlas.Template

open ComponentAtlas.Text ComponentAtlas.Source

/-! ### Names without a mark -/

/-- The attribute name without a mark `data-` in front of it. -/
def bareName (name : String) : String := ((plainName name).toOption).getD name

theorem bareName_of_plainName {name bare : String} (h : plainName name = .ok bare) :
    bareName name = bare := by
  rw [bareName, h]
  rfl

/-- A name that begins with another letter has no mark. -/
theorem bareName_of_ne {c : Char} {cs : List Char} {name : String} (hname : name.toList = c :: cs)
    (hc : c.toLower ≠ 'd') : bareName name = name := by
  unfold bareName plainName
  rw [hname]
  dsimp only
  split
  · rfl
  · split
    · rfl
    · next rest hrest =>
      rw [if_neg]
      · rfl
      · rw [beq_iff_eq]
        intro hmark
        cases hn : (c :: cs).length - rest.length with
        | zero =>
          rw [hn] at hmark
          cases hmark
        | succ n =>
          rw [hn] at hmark
          exact hc (List.cons.inj hmark).1

theorem isAscii_of_toLower {c : Char} (h : isAscii c.toLower) : isAscii c := by
  unfold Char.toLower at h
  split at h
  · next hupper =>
    have hle := UInt32.le_iff_toNat_le.1 hupper.2
    have hZ : 'Z'.val.toNat = 90 := rfl
    have hc : c.val.toNat = c.toNat := rfl
    exact decide_eq_true (show c.toNat < 0x80 by omega)
  · exact h

/-- A mark is taken away if something stands behind it. -/
theorem bareName_append {mark name : String} (hmark : mark.toList.map Char.toLower = "data-".toList)
    (hname : name ≠ "") : bareName (mark ++ name) = name := by
  have hlength : mark.toList.length = 5 := by simpa using congrArg List.length hmark
  have hascii : ∀ c ∈ mark.toList, isAscii c := by
    intro c hc
    have hlower : c.toLower ∈ "data-".toList := hmark ▸ List.mem_map_of_mem hc
    have hsmall : "data-".toList.all isAscii = true := by decide
    exact isAscii_of_toLower (List.all_eq_true.1 hsmall _ hlower)
  have hbytes : byteLength mark.toList = 5 := (byteLength_of_isAscii hascii).trans hlength
  have hrest : dropBytes? 5 (mark.toList ++ name.toList) = some name.toList :=
    hbytes ▸ dropBytes?_append mark.toList name.toList
  cases hcs : name.toList with
  | nil => exact absurd (String.toList_inj.1 (by simpa using hcs)) hname
  | cons c cs =>
    have hpos := c.utf8Size_pos
    rw [hcs] at hrest
    refine bareName_of_plainName ?_
    rw [plainName, String.toList_append, hcs]
    rw [if_neg (by rw [byteLength_append, byteLength_cons]; omega), hrest]
    dsimp only
    rw [List.length_append, Nat.add_sub_cancel, List.take_left', if_pos, ← hcs, String.ofList_toList]
    · rw [hmark, beq_self_eq_true]
    · rfl

/-- Nothing but a mark is taken away. -/
theorem exists_mark (name : String) : ∃ mark, name = mark ++ bareName name ∧
    (mark = "" ∨ mark.toList.map Char.toLower = "data-".toList) := by
  have hwhole : name = "" ++ name := String.empty_append.symm
  unfold bareName plainName
  dsimp only
  split
  · exact ⟨"", hwhole, .inl rfl⟩
  · split
    · exact ⟨"", hwhole, .inl rfl⟩
    · next rest hrest =>
      obtain ⟨as, has, -⟩ := dropBytes?_eq_some_iff.1 hrest
      have htake : name.toList.take (name.toList.length - rest.length) = as := by simp [has]
      rw [htake]
      split
      · next hmark =>
        refine ⟨String.ofList as, ?_, .inr (by simpa using hmark)⟩
        apply String.toList_inj.1
        simp [has, Except.toOption]
      · exact ⟨"", hwhole, .inl rfl⟩

/-! ### Bindings -/

/-- The form of the binding that an attribute asks for, if it asks for one: `*` attributes, localisation
markers and attributes that are literal in any case do not. -/
def formOf (inert : Bool) (a : Markup.Attribute) : Option Form :=
  if inert || startsWith a.name "*" || a.name == "i18n" || startsWith a.name "i18n-" then none
  else some (Form.ofName (bareName a.name))

/-- The input that an attribute stands for. -/
def input? (inert : Bool) (a : Markup.Attribute) : Option Input :=
  match formOf inert a with
  | some (.input target) => some (.oneWay target a.value a.span)
  | some (.twoWay target) => some ⟨target, .twoWay, a.value, a.span⟩
  | some .plain => if interpolated a.value then some (.oneWay (bareName a.name) a.value a.span) else none
  | _ => none

/-- The event that an attribute stands for. -/
def output? (inert : Bool) (a : Markup.Attribute) : Option Output :=
  match formOf inert a with
  | some (.twoWay target) => some ⟨target ++ "Change", a.value, a.span⟩
  | some (.output target) => some ⟨target, a.value, a.span⟩
  | _ => none

/-- An attribute for a two-way binding: the target stands behind `bindon-`, on one line, or between `[(`
and `)]`. A mark may stand in front. -/
def TwoWay (a : Markup.Attribute) (target : String) : Prop :=
  ∃ mark name, a.name = mark ++ name ∧ (mark = "" ∨ mark.toList.map Char.toLower = "data-".toList) ∧
    ('\n' ∉ target.toList ∧ name = "bindon-" ++ target ∨ target ≠ "" ∧ name = "[(" ++ target ++ ")]")

theorem formOf_of_ne {a : Markup.Attribute} {c : Char} {cs : List Char} (hname : a.name.toList = c :: cs)
    (hstar : c ≠ '*') (hmarker : c ≠ 'i') : formOf false a = some (Form.ofName (bareName a.name)) := by
  have hstars : startsWith a.name "*" = false := by
    rw [startsWith, dropStart?, hname]
    simp [dropLiteral?, hstar.symm]
  have hmarkers : startsWith a.name "i18n-" = false := by
    rw [startsWith, dropStart?, hname]
    simp [dropLiteral?, hmarker.symm]
  have hne : (a.name == "i18n") = false := by
    rw [beq_eq_false_iff_ne]
    intro h
    rw [h] at hname
    exact hmarker (List.cons.inj hname).1.symm
  rw [formOf, hstars, hmarkers, hne]
  rfl

theorem behind?_eq_some_iff {mark name rest : String} :
    behind? mark name = some rest ↔ name = mark ++ rest ∧ '\n' ∉ rest.toList := by
  rw [behind?, Option.filter_eq_some_iff, dropStart?_eq_some_iff]
  simp

theorem between?_eq_some_iff {opening closing name inner : String} :
    between? opening closing name = some inner ↔ inner ≠ "" ∧ name = opening ++ inner ++ closing := by
  unfold between?
  constructor
  · intro h
    split at h
    · cases h
    · next rest hrest =>
      split at h
      · cases h
      · next hend =>
        split at h
        · cases h
        · next hne =>
          cases h
          rw [dropStart?_eq_some_iff.1 hrest, dropEnd?_eq_some_iff.1 hend, String.append_assoc]
          exact ⟨by simpa using hne, rfl⟩
  · rintro ⟨hne, rfl⟩
    have hstart : dropStart? opening (opening ++ inner ++ closing) = some (inner ++ closing) :=
      dropStart?_eq_some_iff.2 (String.append_assoc ..)
    have hend : dropEnd? closing (inner ++ closing) = some inner := dropEnd?_eq_some_iff.2 rfl
    simp [hstart, hend, hne]

theorem ofName_bindon {target : String} (h : '\n' ∉ target.toList) :
    Form.ofName ("bindon-" ++ target) = .twoWay target := by
  have hmark : behind? "bindon-" ("bindon-" ++ target) = some target := behind?_eq_some_iff.2 ⟨rfl, h⟩
  have hother : ∀ lit ∈ ["bind-", "let-", "ref-", "#", "on-"], behind? lit ("bindon-" ++ target) = none := by
    simp [behind?, dropStart?, dropLiteral?]
  simp only [List.forall_mem_cons] at hother
  obtain ⟨hbind, hlet, href, hhash, hon, -⟩ := hother
  simp only [Form.ofName, hbind, hlet, href, hhash, hon, hmark, Option.or]

/-- A name of two lines asks for no binding. -/
example : Form.ofName "bindon-a\nb" = .plain := by decide

theorem ofName_box {target : String} (h : target ≠ "") :
    Form.ofName ("[(" ++ target ++ ")]") = .twoWay target := by
  have hother : ∀ lit ∈ ["bind-", "let-", "ref-", "#", "on-", "bindon-"],
      behind? lit ("[(" ++ target ++ ")]") = none := by
    simp [behind?, dropStart?, dropLiteral?]
  have hopen : dropStart? "[(" ("[(" ++ target ++ ")]") = some (target ++ ")]") :=
    dropStart?_eq_some_iff.2 (String.append_assoc ..)
  have hbetween : between? "[(" ")]" ("[(" ++ target ++ ")]") = some target :=
    between?_eq_some_iff.2 ⟨h, rfl⟩
  simp only [List.forall_mem_cons] at hother
  obtain ⟨hbind, hlet, href, hhash, hon, hbindon, -⟩ := hother
  simp [Form.ofName, hbind, hlet, href, hhash, hon, hbindon, startsWith, hopen, hbetween]

/-- No other names ask for a two-way binding. -/
theorem ofName_sound {name target : String} (h : Form.ofName name = .twoWay target) :
    '\n' ∉ target.toList ∧ name = "bindon-" ++ target ∨ target ≠ "" ∧ name = "[(" ++ target ++ ")]" := by
  unfold Form.ofName at h
  split at h
  · cases h
  · split at h
    · cases h
    · split at h
      · cases h
      · split at h
        · cases h
        · split at h
          · next hbindon =>
            cases h
            exact .inl (behind?_eq_some_iff.1 hbindon).symm
          · split at h
            · -- only names in a box are left
              cases hbox : between? "[(" ")]" name with
              | none =>
                rw [hbox] at h
                cases h
              | some inner =>
                rw [hbox] at h
                cases h
                exact .inr (between?_eq_some_iff.1 hbox)
            · split at h
              · cases hinput : between? "[" "]" name <;> rw [hinput] at h <;> cases h
              · split at h
                · cases houtput : between? "(" ")" name <;> rw [houtput] at h <;> cases h
                · cases h

theorem TwoWay.formOf_eq {a : Markup.Attribute} {target : String} (h : TwoWay a target) :
    formOf false a = some (.twoWay target) := by
  obtain ⟨mark, name, ha, hmark, hname⟩ := h
  have hform : Form.ofName name = .twoWay target := by
    rcases hname with ⟨hline, rfl⟩ | ⟨hne, rfl⟩
    · exact ofName_bindon hline
    · exact ofName_box hne
  obtain ⟨c, cs, hcs, hc⟩ : ∃ c cs, name.toList = c :: cs ∧ (c = 'b' ∨ c = '[') := by
    rcases hname with ⟨-, rfl⟩ | ⟨-, rfl⟩
    · exact ⟨'b', "indon-".toList ++ target.toList, by simp, .inl rfl⟩
    · exact ⟨'[', '(' :: (target ++ ")]").toList, by simp, .inr rfl⟩
  rcases hmark with rfl | hmark
  · rw [String.empty_append] at ha
    rw [formOf_of_ne (ha ▸ hcs), ha, bareName_of_ne hcs, hform]
    all_goals rcases hc with rfl | rfl <;> decide
  · have hne : name ≠ "" := by
      rintro rfl
      cases hcs
    cases hm : mark.toList with
    | nil =>
      rw [hm] at hmark
      cases hmark
    | cons d ds =>
      rw [hm] at hmark
      have hd : d.toLower = 'd' := (List.cons.inj hmark).1
      have hcs' : a.name.toList = d :: (ds ++ name.toList) := by simp [ha, hm]
      rw [formOf_of_ne hcs', ha, bareName_append (hm ▸ hmark) hne, hform]
      all_goals
        rintro rfl
        revert hd
        decide

theorem TwoWay.of_formOf {a : Markup.Attribute} {target : String} (h : formOf false a = some (.twoWay target)) :
    TwoWay a target := by
  unfold formOf at h
  split at h
  · cases h
  · obtain ⟨mark, hname, hmark⟩ := exists_mark a.name
    exact ⟨mark, bareName a.name, hname, hmark, ofName_sound (Option.some.inj h)⟩

/-- An input that is bound in one direction is of another kind. -/
theorem kind_oneWay_ne (name value : String) (span : Span) : (Input.oneWay name value span).kind ≠ .twoWay := by
  show (inputName name).1 ≠ .twoWay
  unfold inputName
  split
  · simp
  · split
    · simp
    · split <;> simp

/-- The inputs that are bound in both directions come from attributes for two-way bindings. -/
theorem TwoWay.of_input {a : Markup.Attribute} {i : Input} (h : input? false a = some i)
    (hkind : i.kind = .twoWay) : TwoWay a i.name := by
  unfold input? at h
  split at h
  · cases h
    exact absurd hkind (kind_oneWay_ne _ _ _)
  · next hform =>
    cases h
    exact .of_formOf hform
  · split at h
    · cases h
      exact absurd hkind (kind_oneWay_ne _ _ _)
    · cases h
  · cases h

/-- A two-way binding is one input and one event. -/
theorem TwoWay.bindings {a : Markup.Attribute} {target : String} (h : TwoWay a target) :
    input? false a = some ⟨target, .twoWay, a.value, a.span⟩ ∧
      output? false a = some ⟨target ++ "Change", a.value, a.span⟩ := by
  rw [input?, output?, h.formOf_eq]
  exact ⟨rfl, rfl⟩

/-! ### Hoisted attributes -/

/-- The span of a hoisted attribute. -/
def HoistedAttr.span : HoistedAttr → Span
  | .text a => a.span
  | .bound i => i.span

@[simp] theorem span_oneWay (name value : String) (span : Span) : (Input.oneWay name value span).span = span :=
  rfl

namespace Hoist

/-- All entries have the given span, and there is an attribute. -/
structure Spanned (h : Hoist) (span : Span) : Prop where
  own : h.span = span
  attrs : ∀ a ∈ h.attrs, a.span = span
  locals : ∀ b ∈ h.locals, b.span = span
  nonempty : h.attrs ≠ []

variable {h : Hoist} {span : Span}

theorem Spanned.bindVariable (hs : h.Spanned span) (name value : String) :
    (h.bindVariable name value).Spanned span := by
  refine ⟨hs.own, hs.attrs, ?_, hs.nonempty⟩
  simp only [Hoist.bindVariable, List.forall_mem_append, List.forall_mem_singleton]
  exact ⟨hs.locals, hs.own⟩

theorem putAttr_ne_nil (key : String) (new : HoistedAttr) (attrs : List HoistedAttr) :
    putAttr key new attrs ≠ [] := by
  cases attrs with
  | nil => simp [putAttr]
  | cons a as =>
    rw [putAttr]
    split <;> simp

theorem forall_putAttr {P : HoistedAttr → Prop} {attrs : List HoistedAttr} {new : HoistedAttr}
    (hnew : P new) (hattrs : ∀ a ∈ attrs, P a) (key : String) : ∀ a ∈ putAttr key new attrs, P a := by
  induction attrs with
  | nil => simpa [putAttr] using hnew
  | cons a as ih =>
    obtain ⟨ha, has⟩ := List.forall_mem_cons.1 hattrs
    rw [putAttr]
    split
    · exact List.forall_mem_cons.2 ⟨hnew, has⟩
    · exact List.forall_mem_cons.2 ⟨ha, ih has⟩

theorem Spanned.bindAttr (hs : h.Spanned span) (key value : String) : (h.bindAttr key value).Spanned span :=
  ⟨hs.own, forall_putAttr hs.own hs.attrs key, hs.locals, putAttr_ne_nil _ _ _⟩

theorem Spanned.bindExpression (hs : h.Spanned span) (key : String) (cs : List Char) :
    (h.bindExpression key cs).Spanned span := by
  unfold Hoist.bindExpression
  dsimp only
  split
  · exact (hs.bindAttr _ _).bindVariable _ _
  · exact hs.bindAttr _ _

theorem Spanned.addKey (hs : h.Spanned span) (cs : List Char) : (h.addKey cs).Spanned span := by
  unfold Hoist.addKey
  dsimp only
  split
  · exact hs.bindVariable _ _
  · exact hs.bindExpression _ _

theorem Spanned.add (hs : h.Spanned span) (first : Bool) (clause : List Char) :
    (h.add first clause).Spanned span := by
  unfold Hoist.add
  dsimp only
  split
  · exact hs
  · split
    · split
      · exact hs.bindVariable _ _
      · exact (hs.bindVariable _ _).addKey _
    · split
      · exact hs.bindExpression _ _
      · exact hs.addKey _

theorem Spanned.foldl (hs : h.Spanned span) (clauses : List (List Char)) :
    (clauses.foldl (fun h k => h.add false k) h).Spanned span := by
  induction clauses generalizing h with
  | nil => exact hs
  | cons k ks ih => exact ih (hs.add false k)

/-- Whatever the value of a `*` attribute is, its entries have the span of the attribute. -/
theorem spanned_read (directive value : String) (span : Span) : (read directive value span).Spanned span := by
  have hstart : Spanned ⟨directive, span, [.text ⟨directive, "", span, none, false⟩], []⟩ span :=
    ⟨rfl, by simp [HoistedAttr.span], by simp, by simp⟩
  unfold read
  dsimp only
  split
  · exact hstart
  · exact (hstart.add true _).foldl _

end Hoist

/-! ### One more attribute -/

/-- The spans of literal attributes, inputs, events and references. -/
def Attrs.spans (attrs : Attrs) : List Span :=
  attrs.attributes.map (·.span) ++ attrs.inputs.map (·.span) ++ attrs.outputs.map (·.span) ++
    attrs.references.map (·.span)

/-- An attribute that asks for a template around its element. -/
def Starred (inert : Bool) (a : Markup.Attribute) : Prop := inert = false ∧ startsWith a.name "*" = true

theorem Starred.formOf_eq {inert : Bool} {a : Markup.Attribute} (h : Starred inert a) :
    formOf inert a = none := by
  simp [formOf, h.2]

theorem Starred.input?_eq {inert : Bool} {a : Markup.Attribute} (h : Starred inert a) :
    input? inert a = none := by
  rw [input?, h.formOf_eq]

theorem Starred.output?_eq {inert : Bool} {a : Markup.Attribute} (h : Starred inert a) :
    output? inert a = none := by
  rw [output?, h.formOf_eq]

theorem span_of_input? {inert : Bool} {a : Markup.Attribute} {i : Input} (h : input? inert a = some i) :
    i.span = a.span := by
  unfold input? at h
  split at h
  · cases h
    rfl
  · cases h
    rfl
  · split at h
    · cases h
      rfl
    · cases h
  · cases h

theorem span_of_output? {inert : Bool} {a : Markup.Attribute} {o : Output} (h : output? inert a = some o) :
    o.span = a.span := by
  unfold output? at h
  split at h
  · cases h
    rfl
  · cases h
    rfl
  · cases h

namespace Sorted

/-- The spans of all entries but those of hoisted attributes. -/
def spans (s : Sorted) : List Span := s.attrs.spans ++ s.locals.map (·.span)

/-- What one more attribute can do. -/
inductive Adds (inert isTemplate : Bool) (s : Sorted) (a : Markup.Attribute) : Sorted → Prop
  | literal {t : TextAttr} (span : t.span = a.span) (noStar : ¬ Starred inert a)
      (noInput : input? inert a = none) (noOutput : output? inert a = none) :
      Adds inert isTemplate s a (s.addText t)
  | hoist {directive : String} (star : Starred inert a) (first : s.hoist = none) :
      Adds inert isTemplate s a { s with hoist := some (Hoist.read directive a.value a.span) }
  | again {text : String} (star : Starred inert a) (later : s.hoist ≠ none) :
      Adds inert isTemplate s a (s.report a.span text)
  | input {i : Input} (noStar : ¬ Starred inert a) (bound : input? inert a = some i)
      (noOutput : output? inert a = none) : Adds inert isTemplate s a (s.addInput i)
  | twoWay {i : Input} {o : Output} (noStar : ¬ Starred inert a) (bound : input? inert a = some i)
      (heard : output? inert a = some o) : Adds inert isTemplate s a ((s.addInput i).addOutput o)
  | output {o : Output} (noStar : ¬ Starred inert a) (noInput : input? inert a = none)
      (heard : output? inert a = some o) : Adds inert isTemplate s a (s.addOutput o)
  | variable {name : String} (allowed : isTemplate = true) (noStar : ¬ Starred inert a)
      (noInput : input? inert a = none) (noOutput : output? inert a = none) :
      Adds inert isTemplate s a (s.addVariable name a.value a.span)
  | misplaced {text : String} (noStar : ¬ Starred inert a) (noInput : input? inert a = none)
      (noOutput : output? inert a = none) : Adds inert isTemplate s a (s.report a.span text)
  | reference {name : String} (noStar : ¬ Starred inert a) (noInput : input? inert a = none)
      (noOutput : output? inert a = none) : Adds inert isTemplate s a (s.addReference name a.value a.span)

variable {inert isTemplate : Bool} {s s' : Sorted} {a : Markup.Attribute}

theorem addBinding_adds (h : formOf inert a = some (Form.ofName (bareName a.name)))
    (noStar : ¬ Starred inert a) : Adds inert isTemplate s a (s.addBinding isTemplate a (bareName a.name)) := by
  unfold addBinding
  generalize Form.ofName (bareName a.name) = form at h
  cases form with
  | input target => exact .input noStar (by rw [input?, h]) (by rw [output?, h])
  | twoWay target => exact .twoWay noStar (by rw [input?, h]) (by rw [output?, h])
  | output target => exact .output noStar (by rw [input?, h]) (by rw [output?, h])
  | «variable» target =>
    dsimp only
    split
    · next htemplate => exact .variable htemplate noStar (by rw [input?, h]) (by rw [output?, h])
    · exact .misplaced noStar (by rw [input?, h]) (by rw [output?, h])
  | reference target => exact .reference noStar (by rw [input?, h]) (by rw [output?, h])
  | plain =>
    dsimp only
    split
    · next hbound => exact .input noStar (by simp only [input?, h, if_pos hbound]) (by rw [output?, h])
    · next hbound => exact .literal rfl noStar (by simp only [input?, h, if_neg hbound]) (by rw [output?, h])

theorem add_adds (h : add inert isTemplate s a = .ok s') : Adds inert isTemplate s a s' := by
  unfold add at h
  split at h
  · next hinert =>
    cases h
    have hform : formOf inert a = none := by simp [formOf, hinert]
    have hstar : ¬ Starred inert a := fun hstar => Bool.noConfusion (hinert.symm.trans hstar.1)
    exact .literal rfl hstar (by rw [input?, hform]) (by rw [output?, hform])
  · next hinert =>
    rw [Bool.not_eq_true] at hinert
    cases hdrop : dropStart? "*" a.name with
    | some directive =>
      have hstar : Starred inert a := ⟨hinert, by rw [startsWith, hdrop]; rfl⟩
      rw [hdrop] at h
      dsimp only at h
      split at h
      · next hsome =>
        cases h
        exact .again hstar fun hnone => by simp [hnone] at hsome
      · next hsome =>
        cases h
        exact .hoist hstar (by simpa using hsome)
    | none =>
      have hplain : startsWith a.name "*" = false := by rw [startsWith, hdrop]; rfl
      have hstar : ¬ Starred inert a := fun hstar => Bool.noConfusion (hplain.symm.trans hstar.2)
      rw [hdrop] at h
      dsimp only at h
      split at h
      · next hmarker =>
        cases h
        have hform : formOf inert a = none := by
          rw [formOf, hinert, hplain, Bool.false_or, Bool.false_or, if_pos hmarker]
        exact .literal rfl hstar (by rw [input?, hform]) (by rw [output?, hform])
      · next hmarker =>
        obtain ⟨name, hname, hs⟩ := bind_eq_ok.1 h
        cases hs
        obtain rfl := bareName_of_plainName hname
        refine addBinding_adds ?_ hstar
        rw [formOf, hinert, hplain, Bool.false_or, Bool.false_or, if_neg hmarker]

theorem addVariable_eq (s : Sorted) (name value : String) (span : Span) :
    ∃ value' more, s.addVariable name value span =
      { s with locals := s.locals ++ [⟨name, value', span⟩], problems := s.problems ++ more } := by
  unfold addVariable
  dsimp only
  split
  · exact ⟨_, _, rfl⟩
  · split
    · exact ⟨_, _, rfl⟩
    · exact ⟨_, [], by rw [List.append_nil]⟩

theorem addReference_eq (s : Sorted) (name value : String) (span : Span) :
    ∃ more, s.addReference name value span =
      { s with
        attrs := { s.attrs with references := s.attrs.references ++ [⟨name, value, span⟩] }
        problems := s.problems ++ more } := by
  unfold addReference
  dsimp only
  split
  · exact ⟨_, rfl⟩
  · split
    · exact ⟨_, rfl⟩
    · split
      · exact ⟨_, rfl⟩
      · exact ⟨[], by rw [List.append_nil]⟩

/-! ### Nothing is lost -/

/-- The span stands at an entry or at an error. -/
def Keeps (s : Sorted) (x : Span) : Prop :=
  (∃ text, ⟨x, text, .error⟩ ∈ s.problems) ∨ x ∈ s.spans ∨ ∃ h ∈ s.hoist, x ∈ h.attrs.map (·.span)

theorem Adds.bindings (h : Adds inert isTemplate s a s') :
    s'.attrs.inputs = s.attrs.inputs ++ (input? inert a).toList ∧
      s'.attrs.outputs = s.attrs.outputs ++ (output? inert a).toList := by
  cases h with
  | literal _ _ noInput noOutput => simp [noInput, noOutput, addText]
  | hoist star _ => simp [star.input?_eq, star.output?_eq]
  | again star _ => simp [star.input?_eq, star.output?_eq, report]
  | input _ bound noOutput => simp [bound, noOutput, addInput]
  | twoWay _ bound heard => simp [bound, heard, addInput, addOutput]
  | output _ noInput heard => simp [noInput, heard, addOutput]
  | @«variable» name _ _ noInput noOutput =>
    obtain ⟨value, more, heq⟩ := s.addVariable_eq name a.value a.span
    simp [noInput, noOutput, heq]
  | misplaced _ noInput noOutput => simp [noInput, noOutput, report]
  | @reference name _ noInput noOutput =>
    obtain ⟨more, heq⟩ := s.addReference_eq name a.value a.span
    simp [noInput, noOutput, heq]

/-- One more entry with the given span, among those of the node. -/
structure Gains (s s' : Sorted) (span : Span) : Prop where
  hoist : s'.hoist = s.hoist
  problems : s.problems ⊆ s'.problems
  spans : ∀ x, x ∈ s'.spans ↔ x ∈ s.spans ∨ x = span

theorem gains_addText {t : TextAttr} {x : Span} (h : t.span = x) : s.Gains (s.addText t) x :=
  ⟨rfl, List.Subset.refl _, fun y => by grind [addText, spans, Attrs.spans]⟩

theorem gains_addInput {i : Input} {x : Span} (h : i.span = x) : s.Gains (s.addInput i) x :=
  ⟨rfl, List.Subset.refl _, fun y => by grind [addInput, spans, Attrs.spans]⟩

theorem gains_addOutput {o : Output} {x : Span} (h : o.span = x) : s.Gains (s.addOutput o) x :=
  ⟨rfl, List.Subset.refl _, fun y => by grind [addOutput, spans, Attrs.spans]⟩

theorem gains_addVariable (name value : String) (x : Span) : s.Gains (s.addVariable name value x) x := by
  obtain ⟨value', more, heq⟩ := s.addVariable_eq name value x
  rw [heq]
  exact ⟨rfl, List.subset_append_left _ _, fun y => by grind [spans, Attrs.spans]⟩

theorem gains_addReference (name value : String) (x : Span) : s.Gains (s.addReference name value x) x := by
  obtain ⟨more, heq⟩ := s.addReference_eq name value x
  rw [heq]
  exact ⟨rfl, List.subset_append_left _ _, fun y => by grind [spans, Attrs.spans]⟩

theorem Gains.trans {t : Sorted} {x : Span} (h : s.Gains t x) (h' : t.Gains s' x) : s.Gains s' x :=
  ⟨h'.hoist.trans h.hoist, List.Subset.trans h.problems h'.problems,
    fun y => by rw [h'.spans, h.spans, or_assoc, or_self]⟩

/-- One more attribute is kept among the entries of the node, reported, or put on a template around it. -/
theorem Adds.outcome (h : Adds inert isTemplate s a s') :
    s.Gains s' a.span ∨ (∃ text, s' = s.report a.span text) ∨
      ∃ h, s.hoist = none ∧ h.Spanned a.span ∧ s' = { s with hoist := some h } := by
  cases h with
  | literal span => exact .inl (gains_addText span)
  | hoist _ first => exact .inr (.inr ⟨_, first, Hoist.spanned_read _ _ _, rfl⟩)
  | again => exact .inr (.inl ⟨_, rfl⟩)
  | input _ bound => exact .inl (gains_addInput (span_of_input? bound))
  | twoWay _ bound heard =>
    exact .inl ((gains_addInput (span_of_input? bound)).trans (gains_addOutput (span_of_output? heard)))
  | output _ _ heard => exact .inl (gains_addOutput (span_of_output? heard))
  | «variable» => exact .inl (gains_addVariable _ _ _)
  | misplaced => exact .inr (.inl ⟨_, rfl⟩)
  | reference => exact .inl (gains_addReference _ _ _)

theorem Adds.keeps (h : Adds inert isTemplate s a s') {x : Span} (hx : s.Keeps x) : s'.Keeps x := by
  rcases h.outcome with hgains | ⟨text, rfl⟩ | ⟨h, hnone, -, rfl⟩
  · rcases hx with ⟨text, htext⟩ | hx | hx
    · exact .inl ⟨text, hgains.problems htext⟩
    · exact .inr (.inl ((hgains.spans x).2 (.inl hx)))
    · exact .inr (.inr (hgains.hoist ▸ hx))
  · exact hx.imp_left fun ⟨text, htext⟩ => ⟨text, List.mem_append_left _ htext⟩
  · refine hx.imp_right fun hx => hx.imp_right fun ⟨h, hh, _⟩ => ?_
    rw [hnone] at hh
    cases hh

theorem Adds.keeps_self (h : Adds inert isTemplate s a s') : s'.Keeps a.span := by
  rcases h.outcome with hgains | ⟨text, rfl⟩ | ⟨h, -, hspanned, rfl⟩
  · exact .inr (.inl ((hgains.spans _).2 (.inr rfl)))
  · exact .inl ⟨text, List.mem_append_right _ (List.mem_singleton.2 rfl)⟩
  · obtain ⟨x, hx⟩ := List.exists_mem_of_ne_nil _ hspanned.nonempty
    exact .inr (.inr ⟨_, rfl, List.mem_map.2 ⟨x, hx, hspanned.attrs x hx⟩⟩)

theorem Adds.locals (h : Adds inert isTemplate s a s') (hplain : isTemplate = false) : s'.locals = s.locals := by
  cases h with
  | «variable» allowed => exact Bool.noConfusion (hplain.symm.trans allowed)
  | @reference name =>
    obtain ⟨more, heq⟩ := s.addReference_eq name a.value a.span
    rw [heq]
  | _ => rfl

theorem Adds.isSome_hoist (h : Adds inert isTemplate s a s') :
    s'.hoist.isSome ↔ s.hoist.isSome ∨ Starred inert a := by
  cases h with
  | hoist star => simp [star]
  | again star later => simp [star, report, Option.isSome_iff_ne_none, later]
  | @«variable» name _ noStar =>
    rw [(gains_addVariable name a.value a.span).hoist]
    simp [noStar]
  | @reference name noStar =>
    rw [(gains_addReference name a.value a.span).hoist]
    simp [noStar]
  | literal _ noStar | input noStar | twoWay noStar | output noStar | misplaced noStar =>
    simp [noStar, addText, addInput, addOutput, report]

theorem filterMap_concat {α β : Type} (f : α → Option β) (as : List α) (a : α) :
    (as ++ [a]).filterMap f = as.filterMap f ++ (f a).toList := by
  rw [List.filterMap_append]
  cases h : f a <;> simp [h]

/-- What is known when some attributes have been sorted. -/
structure Tally (inert isTemplate : Bool) (as : List Markup.Attribute) (s : Sorted) : Prop where
  inputs : s.attrs.inputs = as.filterMap (input? inert)
  outputs : s.attrs.outputs = as.filterMap (output? inert)
  locals : isTemplate = false → s.locals = []
  isSome_hoist : s.hoist.isSome = true ↔ ∃ a ∈ as, Starred inert a
  keeps : ∀ a ∈ as, s.Keeps a.span
  genuine : ∀ x ∈ s.spans, ∃ a ∈ as, a.span = x
  spanned : ∀ h ∈ s.hoist, ∃ a ∈ as, h.Spanned a.span

theorem tally_nil : Tally inert isTemplate [] {} where
  inputs := rfl
  outputs := rfl
  locals _ := rfl
  isSome_hoist := by simp
  keeps := by simp
  genuine := by simp [spans, Attrs.spans]
  spanned := by simp

variable {as : List Markup.Attribute}

theorem Tally.add (h : Tally inert isTemplate as s) (hadd : Adds inert isTemplate s a s') :
    Tally inert isTemplate (as ++ [a]) s' where
  inputs := by rw [hadd.bindings.1, h.inputs, filterMap_concat]
  outputs := by rw [hadd.bindings.2, h.outputs, filterMap_concat]
  locals hplain := (hadd.locals hplain).trans (h.locals hplain)
  isSome_hoist := by
    rw [hadd.isSome_hoist, h.isSome_hoist]
    simp [or_and_right, exists_or]
  keeps := by
    simp only [List.forall_mem_append, List.forall_mem_singleton]
    exact ⟨fun b hb => hadd.keeps (h.keeps b hb), hadd.keeps_self⟩
  genuine x hx := by
    have hold : x ∈ s.spans → ∃ b ∈ as ++ [a], b.span = x := fun hx => by
      obtain ⟨b, hb, hspan⟩ := h.genuine x hx
      exact ⟨b, List.mem_append_left _ hb, hspan⟩
    rcases hadd.outcome with hgains | ⟨text, rfl⟩ | ⟨_, -, -, rfl⟩
    · rcases (hgains.spans x).1 hx with hx | rfl
      · exact hold hx
      · exact ⟨a, by simp, rfl⟩
    · exact hold hx
    · exact hold hx
  spanned k hk := by
    have hold : k ∈ s.hoist → ∃ b ∈ as ++ [a], k.Spanned b.span := fun hk => by
      obtain ⟨b, hb, hspan⟩ := h.spanned k hk
      exact ⟨b, List.mem_append_left _ hb, hspan⟩
    rcases hadd.outcome with hgains | ⟨text, rfl⟩ | ⟨h', -, hspanned, rfl⟩
    · exact hold (hgains.hoist ▸ hk)
    · exact hold hk
    · cases hk
      exact ⟨a, by simp, hspanned⟩

theorem foldlM_tally {rest : List Markup.Attribute} (h : Tally inert isTemplate as s)
    (hrest : rest.foldlM (Sorted.add inert isTemplate) s = .ok s') :
    Tally inert isTemplate (as ++ rest) s' := by
  induction rest generalizing as s with
  | nil =>
    cases hrest
    rwa [List.append_nil]
  | cons a rest ih =>
    rw [List.foldlM_cons] at hrest
    obtain ⟨t, hadd, hrest⟩ := bind_eq_ok.1 hrest
    have hall := ih (h.add (add_adds hadd)) hrest
    rwa [List.append_assoc] at hall

theorem ofList_tally (h : ofList inert isTemplate as = .ok s) : Tally inert isTemplate as s :=
  foldlM_tally tally_nil h

end Sorted

/-! ### Elements -/

/-- The spans of the entries of a node: literal attributes, inputs, events, references and variables. -/
def Node.entrySpans : Node → List Span
  | .element _ attrs _ _ => attrs.spans
  | .template _ attrs _ locals _ _ => attrs.spans ++ locals.map (·.span)
  | .content _ attributes _ _ => attributes.map (·.span)
  | _ => []

/-- The sorted attributes of a node that has inputs and events. -/
def Node.sorted? : Node → Option Attrs
  | .element _ attrs _ _ => some attrs
  | .template _ attrs _ _ _ _ => some attrs
  | _ => none

/-- An element accounts for its attributes: `core` is the node of the element itself, `around` the
template around it. -/
structure Accounted (problems : List Problem) (inert : Bool) (head : Markup.Head) (core : Node)
    (around : Option Around) : Prop where
  starred : around.isSome = true ↔ inert = false ∧ ∃ a ∈ head.attrs, startsWith a.name "*" = true
  kept : ∀ a ∈ head.attrs, (∃ text, ⟨a.span, text, .error⟩ ∈ problems) ∨ a.span ∈ core.entrySpans ∨
    ∃ w ∈ around, a.span ∈ w.hoisted.map (·.span)
  genuine : ∀ x ∈ core.entrySpans, ∃ a ∈ head.attrs, a.span = x
  hoisted : ∀ w ∈ around, ∀ x ∈ w.hoisted.map (·.span) ++ w.locals.map (·.span), ∃ a ∈ head.attrs, a.span = x
  bindings : ∀ attrs ∈ core.sorted?, attrs.inputs = head.attrs.filterMap (input? inert) ∧
    attrs.outputs = head.attrs.filterMap (output? inert)

theorem entrySpans_coreNode {head : Markup.Head} {s : Sorted} (extent : Extent) (inner : List Node)
    (hplain : Markup.Tag.isNgContent head.name = false)
    (hlocals : Markup.Tag.isNgTemplate head.name = false → s.locals = []) :
    (coreNode head extent s inner).entrySpans = s.spans ∧
      (coreNode head extent s inner).sorted? = some s.attrs := by
  cases htemplate : Markup.Tag.isNgTemplate head.name with
  | true => simp [coreNode, hplain, htemplate, Node.entrySpans, Node.sorted?, Sorted.spans]
  | false => simp [coreNode, hplain, htemplate, Node.entrySpans, Node.sorted?, Sorted.spans, hlocals htemplate]

theorem Sorted.Tally.accounted {inert : Bool} {head : Markup.Head} {s : Sorted} {problems : List Problem}
    (h : Sorted.Tally inert (Markup.Tag.isNgTemplate head.name) head.attrs s) (hproblems : s.problems ⊆ problems)
    (extent : Extent) (inner : List Node) :
    Accounted problems inert head (coreNode head extent s inner) s.around := by
  have hstarred : s.around.isSome = true ↔ inert = false ∧ ∃ a ∈ head.attrs, startsWith a.name "*" = true := by
    rw [Sorted.around, Option.isSome_map, h.isSome_hoist]
    constructor
    · rintro ⟨a, ha, hinert, hstar⟩
      exact ⟨hinert, a, ha, hstar⟩
    · rintro ⟨hinert, a, ha, hstar⟩
      exact ⟨a, ha, hinert, hstar⟩
  have hhoisted : ∀ w ∈ s.around, ∀ x ∈ w.hoisted.map (·.span) ++ w.locals.map (·.span),
      ∃ a ∈ head.attrs, a.span = x := by
    intro w hw x hx
    obtain ⟨k, hk, rfl⟩ := Option.map_eq_some_iff.1 hw
    obtain ⟨a, ha, hspanned⟩ := h.spanned k hk
    rcases List.mem_append.1 hx with hx | hx
    · obtain ⟨b, hb, rfl⟩ := List.mem_map.1 hx
      exact ⟨a, ha, (hspanned.attrs b hb).symm⟩
    · obtain ⟨b, hb, rfl⟩ := List.mem_map.1 hx
      exact ⟨a, ha, (hspanned.locals b hb).symm⟩
  cases hcontent : Markup.Tag.isNgContent head.name with
  | true =>
    -- A slot keeps all attributes as they are written.
    have hcore : coreNode head extent s inner =
        .content (slotSelector head.attrs) (head.attrs.map .ofMarkup) inner extent.span := by
      rw [coreNode, if_pos hcontent]
    have hentries : (coreNode head extent s inner).entrySpans = head.attrs.map (·.span) := by
      rw [hcore, Node.entrySpans, List.map_map]
      rfl
    refine ⟨hstarred, fun a ha => .inr (.inl ?_), fun x hx => ?_, hhoisted, fun attrs hattrs => ?_⟩
    · rw [hentries]
      exact List.mem_map_of_mem ha
    · rw [hentries] at hx
      exact List.mem_map.1 hx
    · rw [hcore] at hattrs
      cases hattrs
  | false =>
    obtain ⟨hentries, hsorted⟩ := entrySpans_coreNode extent inner hcontent h.locals
    refine ⟨hstarred, fun a ha => ?_, fun x hx => h.genuine x (hentries ▸ hx), hhoisted, fun attrs hattrs => ?_⟩
    · rw [hentries]
      rcases h.keeps a ha with ⟨text, htext⟩ | hspan | ⟨k, hk, hspan⟩
      · exact .inl ⟨text, hproblems htext⟩
      · exact .inr (.inl hspan)
      · exact .inr (.inr ⟨⟨k.attrs, k.locals⟩, Option.map_eq_some_iff.2 ⟨k, hk, rfl⟩, hspan⟩)
    · rw [hsorted] at hattrs
      cases hattrs
      exact ⟨h.inputs, h.outputs⟩

/-- **No attribute disappears silently.** Every element of the markup that is not left out accounts for
its attributes. A two-way binding is one input and one event, and no other attribute gives an input that
is bound in both directions. -/
theorem attributes_accounted {nodes : List Markup.Node} {y : Yield} (h : visitAll false nodes = .ok y) :
    Renders (fun inert head _ _ core around => Accounted y.problems inert head core around) false nodes
      y.nodes ∧
    (∀ a target, TwoWay a target → input? false a = some ⟨target, .twoWay, a.value, a.span⟩ ∧
      output? false a = some ⟨target ++ "Change", a.value, a.span⟩) ∧
    ∀ a i, input? false a = some i → i.kind = .twoWay → TwoWay a i.name := by
  refine ⟨visitAll_renders (fun inert head children s inner extent hs hproblems _ => ?_) h
    (List.Subset.refl _), fun a target htwoWay => htwoWay.bindings, fun a i => .of_input⟩
  exact (Sorted.ofList_tally hs).accounted hproblems extent inner.nodes

/-- The attribute with a name and a value, at some byte offset. -/
def attributeAt (offset : Nat) (name value : String) : Markup.Attribute :=
  ⟨name, value, ⟨⟨offset, 0, offset⟩, ⟨offset + 1, 0, offset + 1⟩⟩, none⟩

/-- A slot and a template with attributes of many forms, inside an element with two `*` attributes. -/
def crowded : List Markup.Node :=
  let head (name : String) (attrs : List Markup.Attribute) : Markup.Head := ⟨name, attrs, {}, false⟩
  [.element (head "div" [attributeAt 1 "*if" "a", attributeAt 2 "*for" "let x", attributeAt 3 "let-y" ""])
    [.element (head "ng-content" [attributeAt 4 "[a]" "b"]) [] {} none,
      .element (head "ng-template" [attributeAt 5 "let-y" "", attributeAt 6 "data-[(v)]" "w",
        attributeAt 7 "#r" "", attributeAt 8 "i18n" "", attributeAt 9 "title" "t"]) [] {} none] {} none]

theorem attributes_accounted_crowded :
    ∃ y, visitAll false crowded = .ok y ∧ y.problems.length = 2 ∧
      Renders (fun inert head _ _ core around => Accounted y.problems inert head core around) false crowded
        y.nodes ∧
      ∃ i, input? false (attributeAt 6 "data-[(v)]" "w") = some i ∧ i.name = "v" ∧ i.kind = .twoWay := by
  have hread : ((visitAll false crowded).toOption.map fun y => y.problems.length) = some 2 := by
    decide +kernel
  have htwoWay : TwoWay (attributeAt 6 "data-[(v)]" "w") "v" :=
    ⟨"data-", "[(v)]", by decide, .inr (by decide), .inr ⟨by decide, by decide⟩⟩
  cases hy : visitAll false crowded with
  | error e =>
    rw [hy] at hread
    cases hread
  | ok y =>
    rw [hy] at hread
    obtain ⟨haccounted, hbindings, -⟩ := attributes_accounted hy
    exact ⟨y, rfl, Option.some.inj hread, haccounted, _, (hbindings _ _ htwoWay).1, rfl, rfl⟩

end ComponentAtlas.Template
